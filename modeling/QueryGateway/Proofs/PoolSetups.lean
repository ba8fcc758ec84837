import QueryGateway.Proofs.FloatValues
import QueryGateway.Settings.Basic
import QueryGateway.Source.Connection

/-!
# What a pool is set up with

The bounds of a pool are positive, but the driver and the pool are told whole
seconds, and the fraction of a bound is cut off for them.  So a bound of less
than a second reaches them as zero.  Everything else is kept: the bounds go on
as they are, and no argument of the driver stands beside an option of the same
name.
-/

namespace QueryGateway

open Document List Sql

/-! ## Parts that are read -/

namespace Checked

variable {α β : Type}

theorem ok_of_and
    {function : Checked (α → β)}
    {part : Checked α}
    {value : β}
    (read : Checked.and function part = .ok value) :
    ∃ build item, function = .ok build ∧ part = .ok item ∧ build item = value := by
  cases function with
  | ok build =>
      cases part with
      | ok item =>
          exact ⟨build, item, rfl, rfl, Except.ok.inj read⟩
      | error issues =>
          cases read
  | error issues =>
      cases part <;> cases read

theorem ok_of_orIssues
    {part : Checked α}
    {further : List Issue}
    {value : α}
    (read : part.orIssues further = .ok value) :
    part = .ok value := by
  cases part with
  | ok item =>
      cases further with
      | nil =>
          exact read
      | cons issue further =>
          cases read
  | error issues =>
      cases further <;> cases read

end Checked

theorem Document.Field.optional_ok
    {α : Type}
    {field : Field}
    {absent item : α}
    {read : Value → Checked α}
    {entries : Entries}
    (isRead : field.optional absent read entries = .ok item) :
    item = absent ∨ ∃ value, read value = .ok item := by
  rw [Field.optional] at isRead
  split at isRead
  · rename_i name value given
    cases outcome : read value with
    | ok item' =>
        rw [outcome, Checked.under, Except.ok.injEq] at isRead
        exact .inr ⟨value, isRead ▸ outcome⟩
    | error issues =>
        rw [outcome] at isRead
        cases isRead
  · exact .inl (Except.ok.inj isRead).symm

theorem Document.Field.optional_simple
    {α : Type}
    {name : String}
    {absent item : α}
    {read : Value → Checked α}
    {entries : Entries}
    {value : Value}
    (given : Value.field? name entries = some value)
    (isRead : read value = .ok item) :
    (Field.simple name).optional absent read entries = .ok item := by
  simp [Field.optional, Field.given?, Field.simple, given, isRead, Checked.under]

/-! ## Valid bounds -/

/-- A positive number of seconds up to a bound is accepted as it is, and nothing else is. -/
theorem Document.boundFloat_eq_ok_iff
    {high : Nat}
    {x y : Binary64} :
    boundFloat high x = .ok y ↔ x = y ∧ 0 < x.value ∧ x.value ≤ high := by
  cases finite : x.isFinite with
  | false =>
      have zero : ¬ 0 < x.value := by
        intro positive
        have isFinite := Binary64.isFinite_of_value_ne_zero positive.ne'
        rw [finite] at isFinite
        cases isFinite
      have refused : boundFloat high x ≠ .ok y := by
        cases x with
        | finite negative mantissa exponent =>
            cases finite
        | infinite negative =>
            cases negative <;> simp [boundFloat, Binary64.isAtMost, Binary64.exceeds, Checked.issue]
        | nan =>
            simp [boundFloat, Binary64.isAtMost, Checked.issue]
      simp [refused, zero]
  | true =>
      have atMostZero : x.isAtMost 0 = true ↔ x.value ≤ 0 := by
        exact_mod_cast Binary64.isAtMost_iff finite 0
      have atMostHigh : x.isAtMost high = true ↔ x.value ≤ high := by
        exact_mod_cast Binary64.isAtMost_iff finite high
      rw [boundFloat, ← not_le, ← atMostZero, ← atMostHigh]
      split_ifs <;> simp_all [Checked.issue]

namespace PoolSettings

/-- Bounds that a pool may have. -/
structure IsValid (settings : PoolSettings) : Prop where
  size : 1 ≤ settings.maxSize ∧ settings.maxSize ≤ 50
  connectTimeout : 0 < settings.connectTimeout.value ∧ settings.connectTimeout.value ≤ 300
  idleTimeout : 0 < settings.idleTimeout.value ∧ settings.idleTimeout.value ≤ 86400

theorem readMaxSize_ok
    {value : Value}
    {size : Nat}
    (read : readMaxSize value = .ok size) :
    1 ≤ size ∧ size ≤ 50 := by
  rw [readMaxSize] at read
  cases outcome : readInt value with
  | error issues =>
      simp [outcome, Except.bind, Except.map] at read
  | ok n =>
      simp only [outcome, Except.bind, boundBoth, boundBelow] at read
      split at read
      · cases read
      · split at read
        · cases read
        · simp only [Except.map, Except.ok.injEq] at read
          omega

/-- A number of seconds that is read is positive and within its bound. -/
theorem readFloat_bound
    {high : Nat}
    {value : Value}
    {timeout : Binary64}
    (read : (readFloat value).bind (boundFloat high) = .ok timeout) :
    0 < timeout.value ∧ timeout.value ≤ high := by
  cases outcome : readFloat value with
  | error issues =>
      simp [outcome, Except.bind] at read
  | ok x =>
      rw [outcome] at read
      obtain ⟨rfl, bounds⟩ := boundFloat_eq_ok_iff.mp read
      exact bounds

theorem readConnectTimeout_ok
    {value : Value}
    {timeout : Binary64}
    (read : readConnectTimeout value = .ok timeout) :
    0 < timeout.value ∧ timeout.value ≤ 300 := by
  exact_mod_cast readFloat_bound read

theorem readIdleTimeout_ok
    {value : Value}
    {timeout : Binary64}
    (read : readIdleTimeout value = .ok timeout) :
    0 < timeout.value ∧ timeout.value ≤ 86400 := by
  exact_mod_cast readFloat_bound read

/-- The bounds that hold unless others are chosen are valid. -/
theorem isValid_standard :
    standard.IsValid := by
  have connect : readConnectTimeout (.float (.ofInt 10)) = .ok standard.connectTimeout := by
    decide +kernel
  have idle : readIdleTimeout (.float (.ofInt 300)) = .ok standard.idleTimeout := by
    decide +kernel
  exact ⟨by decide, readConnectTimeout_ok connect, readIdleTimeout_ok idle⟩

/-- The parts that bounds are read from make them valid. -/
theorem isValid_of_parts
    {settings : PoolSettings}
    (size : settings.maxSize = standard.maxSize ∨ ∃ value, readMaxSize value = .ok settings.maxSize)
    (connectTimeout :
      settings.connectTimeout = standard.connectTimeout ∨
        ∃ value, readConnectTimeout value = .ok settings.connectTimeout)
    (idleTimeout :
      settings.idleTimeout = standard.idleTimeout ∨
        ∃ value, readIdleTimeout value = .ok settings.idleTimeout) :
    settings.IsValid where
  size := by
    rcases size with absent | ⟨value, read⟩
    · rw [absent]
      exact isValid_standard.size
    · exact readMaxSize_ok read
  connectTimeout := by
    rcases connectTimeout with absent | ⟨value, read⟩
    · rw [absent]
      exact isValid_standard.connectTimeout
    · exact readConnectTimeout_ok read
  idleTimeout := by
    rcases idleTimeout with absent | ⟨value, read⟩
    · rw [absent]
      exact isValid_standard.idleTimeout
    · exact readIdleTimeout_ok read

/-- The entries of bounds as a document. -/
def entries (settings : PoolSettings) : Entries :=
  [(.text "max_size", .int settings.maxSize),
    (.text "connect_timeout", .float settings.connectTimeout),
    (.text "idle_timeout", .float settings.idleTimeout), (.text "pre_ping", .bool settings.prePing)]

theorem dump_eq_entries
    (settings : PoolSettings) :
    settings.dump = .mapping settings.entries :=
  rfl

theorem field?_entries
    (settings : PoolSettings) :
    Value.field? "max_size" settings.entries = some (.int settings.maxSize) ∧
      Value.field? "connect_timeout" settings.entries = some (.float settings.connectTimeout) ∧
      Value.field? "idle_timeout" settings.entries = some (.float settings.idleTimeout) ∧
      Value.field? "pre_ping" settings.entries = some (.bool settings.prePing) := by
  simp [entries, Value.field?]

/-- Valid bounds are read back from their document. -/
theorem ofValue_dump
    {settings : PoolSettings}
    (valid : settings.IsValid) :
    ofValue settings.dump = .ok settings := by
  obtain ⟨size, connectTimeout, idleTimeout⟩ := valid
  have sizeRead : readMaxSize (.int settings.maxSize) = .ok settings.maxSize := by
    have bounds : ¬ (settings.maxSize : Int) > 50 ∧ ¬ (settings.maxSize : Int) < 1 := by
      omega
    simp [readMaxSize, readInt, wordingOf, Except.bind, boundBoth, boundBelow, bounds, Except.map]
  have connectRead :
      readConnectTimeout (.float settings.connectTimeout) = .ok settings.connectTimeout :=
    boundFloat_eq_ok_iff.mpr ⟨rfl, by exact_mod_cast connectTimeout⟩
  have idleRead : readIdleTimeout (.float settings.idleTimeout) = .ok settings.idleTimeout :=
    boundFloat_eq_ok_iff.mpr ⟨rfl, by exact_mod_cast idleTimeout⟩
  have pingRead : readBool (.bool settings.prePing) = .ok settings.prePing :=
    rfl
  have known : unknownKeys fields settings.entries = [] := by
    rfl
  obtain ⟨sizeGiven, connectGiven, idleGiven, pingGiven⟩ := settings.field?_entries
  have sizeField :
      (Field.simple "max_size").optional standard.maxSize readMaxSize settings.entries =
        .ok settings.maxSize :=
    Field.optional_simple sizeGiven sizeRead
  have connectField :
      (Field.simple "connect_timeout").optional standard.connectTimeout readConnectTimeout
          settings.entries =
        .ok settings.connectTimeout :=
    Field.optional_simple connectGiven connectRead
  have idleField :
      (Field.simple "idle_timeout").optional standard.idleTimeout readIdleTimeout
          settings.entries =
        .ok settings.idleTimeout :=
    Field.optional_simple idleGiven idleRead
  have pingField :
      (Field.simple "pre_ping").optional standard.prePing readBool settings.entries =
        .ok settings.prePing :=
    Field.optional_simple pingGiven pingRead
  rw [dump_eq_entries]
  simp only [ofValue, readRecord]
  rw [sizeField, connectField, idleField, pingField, known]
  rfl

/-- Valid bounds are those that a document can choose. -/
theorem isValid_iff
    {settings : PoolSettings} :
    settings.IsValid ↔ ∃ value, ofValue value = .ok settings := by
  constructor
  · exact fun valid => ⟨settings.dump, ofValue_dump valid⟩
  · rintro ⟨value, read⟩
    cases value with
    | mapping entries =>
        obtain ⟨_, _, bounds, _, rfl⟩ := Checked.ok_of_and (Checked.ok_of_orIssues read)
        obtain ⟨_, _, timeouts, idle, rfl⟩ := Checked.ok_of_and bounds
        obtain ⟨_, _, sizes, connect, rfl⟩ := Checked.ok_of_and timeouts
        obtain ⟨_, _, build, size, rfl⟩ := Checked.ok_of_and sizes
        cases build
        exact isValid_of_parts (Field.optional_ok size) (Field.optional_ok connect)
          (Field.optional_ok idle)
    | _ =>
        cases read

end PoolSettings

/-- The bounds of the pools of an engine are valid. -/
theorem EngineSettings.isValid_poolSettings
    {entries : Entries}
    {settings : EngineSettings}
    (read : ofEntries entries = .ok settings) :
    settings.poolSettings.IsValid := by
  obtain ⟨_, _, pings, _, rfl⟩ := Checked.ok_of_and read
  obtain ⟨_, _, bounds, _, rfl⟩ := Checked.ok_of_and pings
  obtain ⟨_, _, timeouts, idle, rfl⟩ := Checked.ok_of_and bounds
  obtain ⟨_, _, sizes, connect, rfl⟩ := Checked.ok_of_and timeouts
  obtain ⟨_, _, limits, size, rfl⟩ := Checked.ok_of_and sizes
  obtain ⟨_, _, rows, _, rfl⟩ := Checked.ok_of_and limits
  obtain ⟨_, _, build, _, rfl⟩ := Checked.ok_of_and rows
  cases build
  exact PoolSettings.isValid_of_parts (Field.optional_ok size) (Field.optional_ok connect)
    (Field.optional_ok idle)

/-! ## Whole seconds -/

theorem Binary64.truncate?_of_pos
    {x : Binary64}
    (positive : 0 < x.value) :
    x.truncate? = some ⌊x.value⌋ :=
  x.truncate?_eq (isFinite_of_value_ne_zero positive.ne') positive.le

/-! ## Set-ups -/

/-- Whether a set-up keeps the bounds of a pool, as far as whole seconds do. -/
structure PoolSetup.KeepsBounds
    (setup : PoolSetup)
    (source : DataSource)
    (dialect : Dialect)
    (settings : PoolSettings) :
    Prop where
  /-- The pool holds as many connections as it may. -/
  size : setup.size = settings.maxSize
  overflow : setup.overflow = 0
  /-- A caller waits for as long as it may, but not for ever. -/
  timeout : setup.timeout = settings.connectTimeout ∧ 0 < setup.timeout.value
  /-- Connections are replaced after the whole seconds of their bound. -/
  recycle :
    setup.recycle = ⌊settings.idleTimeout.value⌋ ∧
      (0 < setup.recycle ↔ 1 ≤ settings.idleTimeout.value)
  /-- The driver of PostgreSQL waits for the whole seconds of its bound, unless an option of the
  source says how long. -/
  driver :
    dialect = .postgres →
      source.options.lookup "connect_timeout" = none →
        setup.arguments.lookup "connect_timeout" =
            some (.int ⌊settings.connectTimeout.value⌋) ∧
          (0 < ⌊settings.connectTimeout.value⌋ ↔ 1 ≤ settings.connectTimeout.value)
  /-- No argument of the driver stands beside an option of the same name. -/
  apart : ∀ name, setup.arguments.lookup name = none ∨ setup.address.query.lookup name = none
  /-- The address shows every option with its text. -/
  options :
    ∀ name,
      setup.address.query.lookup name = (source.options.lookup name).map Value.plainText

namespace DataSource

/-- An option stands in the address with its text. -/
theorem lookup_query
    (source : DataSource)
    (driver : String)
    (defaultPort : Option Int)
    (name : String) :
    (source.address driver defaultPort).query.lookup name =
      (source.options.lookup name).map Value.plainText := by
  show (source.options.map fun option => (option.1, option.2.plainText)).lookup name = _
  induction source.options with
  | nil =>
      rfl
  | cons option options inductionHypothesis =>
      obtain ⟨name', value⟩ := option
      rw [map_cons, lookup_cons, lookup_cons, inductionHypothesis]
      cases name == name' <;> rfl

/-- Entries that are kept by their names are found under the names that are kept. -/
theorem lookup_filter
    (keeps : String → Bool)
    (entries : List (String × Value))
    (name : String) :
    (entries.filter fun (name, _) => keeps name).lookup name =
      if keeps name then entries.lookup name else none := by
  induction entries with
  | nil =>
      simp
  | cons entry entries inductionHypothesis =>
      obtain ⟨name', value⟩ := entry
      by_cases same : name = name'
      · subst same
        cases kept : keeps name <;> simp [kept, inductionHypothesis]
      · have other : (name == name') = false := by
          simpa using same
        cases kept : keeps name' <;>
          simp [kept, lookup_cons, other, inductionHypothesis]

/-- An argument of the driver stands unless an option has its name. -/
theorem lookup_arguments
    (source : DataSource)
    (dialect : Dialect)
    (settings : PoolSettings)
    (name : String) :
    (source.poolSetup dialect settings).arguments.lookup name =
      if (source.options.lookup name).isNone then
        (dialect.driverArguments source settings).lookup name
      else
        none :=
  lookup_filter (fun name => (source.options.lookup name).isNone) _ name

/-- The pool of a source is set up unless a number in its address is too long to be written, and
it keeps the bounds. -/
theorem poolSetup?_bounds
    {settings : PoolSettings}
    (valid : settings.IsValid)
    (source : DataSource)
    (dialect : Dialect) :
    (source.poolSetup? dialect settings).isSome =
        (source.hasPrintableOptions && source.hasWritablePort) ∧
      ∀ setup,
        source.poolSetup? dialect settings = some setup →
          setup.KeepsBounds source dialect settings := by
  refine ⟨by simp only [poolSetup?]; split <;> simp_all, fun setup made => ?_⟩
  obtain rfl : source.poolSetup dialect settings = setup := by
    rw [poolSetup?] at made
    split at made
    · exact Option.some.inj made
    · cases made
  have idle := Binary64.truncate?_of_pos valid.idleTimeout.1
  have connect := Binary64.truncate?_of_pos valid.connectTimeout.1
  have recycle :
      (source.poolSetup dialect settings).recycle = ⌊settings.idleTimeout.value⌋ := by
    simp [poolSetup, idle]
  constructor
  case size =>
    rfl
  case overflow =>
    rfl
  case timeout =>
    exact ⟨rfl, valid.connectTimeout.1⟩
  case recycle =>
    exact ⟨recycle, recycle ▸ Int.floor_pos⟩
  case driver =>
    rintro rfl unset
    rw [lookup_arguments, unset]
    simp [Dialect.driverArguments, connect, Int.floor_pos]
  case apart =>
    intro name
    rw [lookup_arguments]
    cases set : source.options.lookup name with
    | none =>
        refine .inr ?_
        show (source.address _ _).query.lookup name = none
        rw [lookup_query, set]
        rfl
    | some value =>
        exact .inl rfl
  case options =>
    exact fun name => lookup_query source _ _ name

/-- A source with an option. -/
def secured : DataSource where
  id := .text "ds"
  engine := .postgresql
  host := "localhost"
  port := none
  database := "main"
  username := none
  password := none
  schema := none
  options := [("sslmode", .text "require")]

/-- Bounds of half a second. -/
def halfSecond : PoolSettings :=
  { PoolSettings.standard with
    connectTimeout := .finite false 1 (-1)
    idleTimeout := .finite false 1 (-1) }

/-- The pool of a source with an option is set up with the bounds that hold unless others are
chosen. -/
theorem poolSetup?_bounds_standard :
    ∃ setup,
      secured.poolSetup? .postgres .standard = some setup ∧
        0 < setup.timeout.value ∧
        setup.arguments.lookup "connect_timeout" =
          some (.int ⌊PoolSettings.standard.connectTimeout.value⌋) ∧
        setup.address.query.lookup "sslmode" = some "require" := by
  obtain ⟨made, bounds⟩ := poolSetup?_bounds PoolSettings.isValid_standard secured .postgres
  obtain ⟨setup, shape⟩ := Option.isSome_iff_exists.mp (made.trans rfl)
  have keeps := bounds setup shape
  exact ⟨setup, shape, keeps.timeout.2, (keeps.driver rfl rfl).1,
    (keeps.options "sslmode").trans rfl⟩

/-- Bounds of half a second reach the driver and the pool as zero. -/
theorem poolSetup?_halfSecond :
    halfSecond.IsValid ∧
      ∃ setup,
        secured.poolSetup? .postgres halfSecond = some setup ∧
          setup.recycle = 0 ∧ setup.arguments.lookup "connect_timeout" = some (.int 0) := by
  have half : (Binary64.finite false 1 (-1)).value = 1 / 2 := by
    norm_num [Binary64.value]
  refine ⟨⟨by decide, ?_, ?_⟩, _, rfl, rfl, rfl⟩
  · rw [halfSecond, half]
    norm_num
  · rw [halfSecond, half]
    norm_num

end DataSource

end QueryGateway
