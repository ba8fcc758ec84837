import Mathlib.Data.List.TakeWhile
import Mathlib.Data.Prod.Lex
import QueryGateway.Proofs.DocumentTokens
import QueryGateway.Proofs.ReadOnlyGuard
import QueryGateway.Proofs.WellFormedQueries
import QueryGateway.Sql.Registry

/-!
# Full joins follow the release

A ClickHouse server knows full joins from a certain release on.  Its release is
read off a version text component by component, and a component is read by its
digit signs alone.  So the digits of a release tag count as digits of the number
that the tag stands behind: a tag with digits can make an earlier release pass
for one with full joins, and a tag without digits changes nothing.
-/

namespace QueryGateway

open List Sql

namespace Sql.ServerVersion

/-! ## Reading a version -/

/-- The digit signs of the components that count: those before the first one without a sign. -/
def countedSigns (components : List (List Char)) : List (List Char) :=
  (components.map (filter Text.isDigitSign)).takeWhile (· ≠ [])

/-- Whether digit signs are a numeral that is short enough to be read. -/
def isNumeral (signs : List Char) : Bool :=
  signs.all Text.isDecimalDigit && signs.length ≤ Numeral.digitBound

theorem ofSigns_of_isNumeral
    {signs : List Char}
    (numeral : isNumeral signs = true) :
    ofSigns signs = .ok (Numeral.valueOf signs) := by
  simp only [isNumeral, Bool.and_eq_true, decide_eq_true_eq] at numeral
  have decimal : signs.takeWhile Text.isDecimalDigit = signs :=
    takeWhile_eq_self_iff.mpr (all_eq_true.mp numeral.1)
  simp [ofSigns, decimal, numeral.1, Nat.not_lt.mpr numeral.2]

theorem ofSigns_of_not_isNumeral
    {signs : List Char}
    (noNumeral : isNumeral signs = false) :
    ∃ error, ofSigns signs = .error error := by
  simp only [ofSigns]
  split
  · exact ⟨_, rfl⟩
  · rename_i short
    split
    · rename_i decimal
      have all : signs.takeWhile Text.isDecimalDigit = signs :=
        takeWhile_eq_self_iff.mpr (all_eq_true.mp decimal)
      have within : signs.length ≤ Numeral.digitBound := by
        simpa [all] using short
      simp [isNumeral, decimal, within] at noNumeral
    · exact ⟨_, rfl⟩

/-- A version is read as the numbers of the components that count, if all of them have one. -/
theorem ofComponents_of_numerals
    {components : List (List Char)}
    (numerals : ∀ signs ∈ countedSigns components, isNumeral signs = true) :
    ofComponents components =
      .ok ((countedSigns components).map fun signs => (Numeral.valueOf signs : Int)) := by
  induction components with
  | nil =>
      rfl
  | cons component rest inductionHypothesis =>
      cases shape : component.filter Text.isDigitSign with
      | nil =>
          simp [ofComponents, countedSigns, shape]
      | cons sign signs =>
          have counted :
              countedSigns (component :: rest) = (sign :: signs) :: countedSigns rest := by
            simp [countedSigns, shape]
          rw [counted] at numerals ⊢
          have first := ofSigns_of_isNumeral (numerals _ mem_cons_self)
          have others := inductionHypothesis fun _ member => numerals _ (.tail _ member)
          simp [ofComponents, shape, first, others, Except.map]

/-- No version is read if a component that counts has no number. -/
theorem ofComponents_of_noNumeral
    {components : List (List Char)}
    {signs : List Char}
    (member : signs ∈ countedSigns components)
    (noNumeral : isNumeral signs = false) :
    ∃ error, ofComponents components = .error error := by
  induction components with
  | nil =>
      cases member
  | cons component rest inductionHypothesis =>
      cases shape : component.filter Text.isDigitSign with
      | nil =>
          simp [countedSigns, shape] at member
      | cons sign others =>
          have counted :
              countedSigns (component :: rest) = (sign :: others) :: countedSigns rest := by
            simp [countedSigns, shape]
          rw [counted, mem_cons] at member
          cases read : ofSigns (sign :: others) with
          | error error =>
              exact ⟨error, by simp [ofComponents, shape, read]⟩
          | ok number =>
              rcases member with rfl | later
              · obtain ⟨error, refused⟩ := ofSigns_of_not_isNumeral noNumeral
                rw [read] at refused
                cases refused
              · obtain ⟨error, refused⟩ := inductionHypothesis later
                exact ⟨error, by simp [ofComponents, shape, read, refused, Except.map]⟩

/-! ## The first two numbers -/

/-- The text of a release: its first two numbers in decimal, and what stands behind them. -/
def releaseText (major minor : Nat) (suffix : List Char) : String :=
  String.ofList (Numeral.digitsOf major ++ '.' :: (Numeral.digitsOf minor ++ suffix))

/-- Whether a release is the first one with full joins or a later one. -/
def HasFullJoin (major minor : Nat) : Prop :=
  toLex (21, 8) ≤ toLex (major, minor)

instance (major minor : Nat) : Decidable (HasFullJoin major minor) :=
  decidable_of_iff _ Prod.Lex.toLex_le_toLex.symm

/-- The digit signs that a suffix adds to the number that it stands behind. -/
def straySigns (suffix : List Char) : List Char :=
  (suffix.takeWhile (· != '.')).filter Text.isDigitSign

/-- The second number of a release as it is read: its own digits and those of the suffix. -/
def minorRead (minor : Nat) (suffix : List Char) : Nat :=
  Numeral.valueOf (Numeral.digitsOf minor ++ straySigns suffix)

theorem isDigitSign_of_mem_digitsOf
    {n : Nat}
    {c : Char}
    (member : c ∈ Numeral.digitsOf n) :
    Text.isDigitSign c = true := by
  have decimal := Text.decimalDigit?_ascii (Numeral.isDigit_of_mem_digitsOf member)
  simp [Text.isDigitSign, Text.isDecimalDigit, decimal]

theorem point_not_mem_digitsOf
    (n : Nat) :
    '.' ∉ Numeral.digitsOf n := by
  intro member
  have digit := Numeral.isDigit_of_mem_digitsOf member
  revert digit
  decide

/-- The first two components that count are the first number and the second one as it is read. -/
theorem countedSigns_releaseText
    (major minor : Nat)
    (suffix : List Char) :
    ∃ further,
      countedSigns (components (releaseText major minor suffix).toList) =
        Numeral.digitsOf major :: (Numeral.digitsOf minor ++ straySigns suffix) :: further := by
  have own (n : Nat) : (Numeral.digitsOf n).filter Text.isDigitSign = Numeral.digitsOf n :=
    filter_eq_self.mpr fun _ member => isDigitSign_of_mem_digitsOf member
  have nonempty (n : Nat) : Numeral.digitsOf n ≠ [] :=
    Nat.toDigits_ne_nil
  have head := head?_splitOn '.' (Numeral.digitsOf minor ++ suffix)
  have front :
      (Numeral.digitsOf minor ++ suffix).takeWhile (· != '.') =
        Numeral.digitsOf minor ++ suffix.takeWhile (· != '.') := by
    refine takeWhile_append_of_pos fun c member => ?_
    have unlike : c ≠ '.' := by
      rintro rfl
      exact point_not_mem_digitsOf minor member
    simpa using unlike
  cases pieces : (Numeral.digitsOf minor ++ suffix).splitOn '.' with
  | nil =>
      simp at pieces
  | cons second others =>
      rw [pieces, head?_cons, front, Option.some.injEq] at head
      refine ⟨countedSigns others, ?_⟩
      rw [components, releaseText, String.toList_ofList,
        splitOn_append_cons_self_of_not_mem (point_not_mem_digitsOf major), pieces, head]
      simp [countedSigns, straySigns, own, nonempty]

/-- The digits of a suffix make a number greater, if they change it. -/
theorem le_minorRead
    (minor : Nat)
    (suffix : List Char) :
    minor ≤ minorRead minor suffix := by
  have grows
      (front back : List Char) :
      Numeral.valueOf front ≤ Numeral.valueOf (front ++ back) := by
    rw [Numeral.valueOf, Numeral.valueOf, foldl_append]
    generalize front.foldl _ 0 = value
    induction back generalizing value with
    | nil =>
        exact Nat.le_refl value
    | cons c back inductionHypothesis =>
        refine Nat.le_trans ?_ (inductionHypothesis _)
        show value ≤ value * 10 + (Text.decimalDigit? c).getD 0
        omega
  have own := grows (Numeral.digitsOf minor) (straySigns suffix)
  rwa [Numeral.valueOf_digitsOf] at own

/-- A suffix without digits before its first point changes nothing. -/
theorem minorRead_of_noSigns
    (minor : Nat)
    {suffix : List Char}
    (noSigns : straySigns suffix = []) :
    minorRead minor suffix = minor := by
  rw [minorRead, noSigns, append_nil, Numeral.valueOf_digitsOf]

end Sql.ServerVersion

/-! ## Full joins -/

/-- Without full joins, a join that is otherwise written is refused exactly if it is a full one. -/
theorem Join.failure_of_unknownFull
    {join : Join}
    (succeeds : (join.rendering (.clickHouse true)).failure = none) :
    (join.rendering (.clickHouse false)).failure =
      if join.kind = .full then
        some (.fault .join (.fullJoinUnsupported "clickhouse"))
      else
        none := by
  simp only [rendering] at succeeds ⊢
  by_cases empty : join.table.isEmpty = true
  · simp [empty, Rendering.fault, Rendering.fail] at succeeds
  · by_cases full : join.kind = .full
    · simp [empty, full, Dialect.supportsFullJoin, Dialect.name, Rendering.fault, Rendering.fail]
    · simpa [empty, full] using succeeds

namespace VisualQuery

variable {query : VisualQuery}

/-- A query that is well formed for a server with full joins, and short enough, is written for
it. -/
theorem failure_of_wellFormed
    {dialect : Dialect}
    (wellFormed : query.isWellFormed dialect = true)
    (shortLiterals : query.hasShortLiterals = true)
    (shortBounds : query.hasShortBounds = true) :
    (query.rendering dialect).failure = none := by
  have noBad : query.firstBadClause? dialect = none := by
    simpa [firstBadClause?, isWellFormed] using wellFormed
  have verdict := query.verdict_rendering dialect
  rw [noBad, shortLiterals, shortBounds] at verdict
  cases outcome : (query.rendering dialect).failure with
  | none =>
      rfl
  | some error =>
      rw [outcome] at verdict
      rcases verdict with _ | _ | _ <;> contradiction

/-- Without full joins, a query with a full join is refused for that alone if everything else in it
is written. -/
theorem failure_of_unknownFull
    (succeeds : (query.rendering (.clickHouse true)).failure = none)
    (full : ∃ join ∈ query.joins, join.kind = .full) :
    (query.rendering (.clickHouse false)).failure =
      some (.fault .join (.fullJoinUnsupported "clickhouse")) := by
  have isWritten := isWritten_of_rendering succeeds
  have refused :
      (query.joins.findSome? fun join => (join.rendering (.clickHouse false)).failure) =
        some (.fault .join (.fullJoinUnsupported "clickhouse")) := by
    cases outcome :
        query.joins.findSome? fun join => (join.rendering (.clickHouse false)).failure with
    | none =>
        obtain ⟨join, member, isFull⟩ := full
        have unrefused := findSome?_eq_none_iff.mp outcome join member
        rw [Join.failure_of_unknownFull (isWritten.joins join member), if_pos isFull] at unrefused
        cases unrefused
    | some error =>
        obtain ⟨join, member, failed⟩ := exists_of_findSome?_eq_some outcome
        rw [Join.failure_of_unknownFull (isWritten.joins join member)] at failed
        split at failed
        · exact failed.symm
        · cases failed
  simp [failure_rendering, isWritten.select, isWritten.source, refused]

end VisualQuery

namespace Sql

open ServerVersion

/-- The dialect of a ClickHouse server of which only the version text is known. -/
def clickHouseOf (version : String) : Except RegistryError Dialect :=
  DialectFamily.clickHouse.dialect (some ⟨some (.text version), none⟩)

/-- A server whose release is read knows full joins from the first release with them on. -/
theorem clickHouseOf_of_numerals
    {major minor : Nat}
    {suffix : List Char}
    (numerals :
      ∀ signs ∈ countedSigns (components (releaseText major minor suffix).toList),
        isNumeral signs = true) :
    clickHouseOf (releaseText major minor suffix) =
      .ok (.clickHouse (HasFullJoin major (minorRead minor suffix))) := by
  obtain ⟨further, counted⟩ := countedSigns_releaseText major minor suffix
  have read := ofComponents_of_numerals numerals
  rw [counted, map_cons, map_cons, Numeral.valueOf_digitsOf] at read
  have since :
      isAtLeast [(major : Int), (minorRead minor suffix : Int)] Dialect.fullJoinRelease =
        decide (HasFullJoin major (minorRead minor suffix)) := by
    rw [Bool.eq_iff_iff, decide_eq_true_iff, HasFullJoin, Prod.Lex.toLex_le_toLex]
    simp only [isAtLeast, Dialect.fullJoinRelease]
    split
    · split
      · simp; omega
      · simp; omega
    · simp; omega
  have made :
      clickHouseOf (releaseText major minor suffix) =
        .ok (.ofServer
          (some (major :: minorRead minor suffix :: further.map fun signs => Numeral.valueOf signs))
          none) := by
    simp only [clickHouseOf, DialectFamily.dialect, Release.toVersion, ofText, read]
    rfl
  rw [made, ← since]
  rfl

theorem clickHouseOf_of_noNumeral
    {version : String}
    {signs : List Char}
    (member : signs ∈ countedSigns (components version.toList))
    (noNumeral : isNumeral signs = false) :
    ∃ error, clickHouseOf version = .error (.badRelease error) := by
  obtain ⟨error, refused⟩ := ofComponents_of_noNumeral member noNumeral
  exact ⟨error, by simp [clickHouseOf, DialectFamily.dialect, Release.toVersion, ofText, refused]⟩

/-- The digits of a release tag make a difference only in the last releases without full joins. -/
theorem since_minorRead_iff
    (major minor : Nat)
    (suffix : List Char) :
    (HasFullJoin major (minorRead minor suffix) ↔ HasFullJoin major minor) ↔
      ¬ (major = 21 ∧ minor < 8 ∧ 8 ≤ minorRead minor suffix) := by
  have grows := le_minorRead minor suffix
  simp only [HasFullJoin, Prod.Lex.toLex_le_toLex]
  omega

/-- A ClickHouse dialect that is made for a version text knows full joins exactly if the release, as
it is read, is at or after the first one with them, and a query with a full join that is otherwise
well formed is compiled exactly then.  A dialect is made exactly if the components that count are
numerals that can be read.  The release as it is read and the release as it is written decide alike
unless the digits of the suffix lift the second number over the first release with full joins. -/
theorem clickHouseOf_release
    (major minor : Nat)
    (suffix : List Char) :
    ((∃ dialect, clickHouseOf (releaseText major minor suffix) = .ok dialect) ↔
        ∀ signs ∈ countedSigns (components (releaseText major minor suffix).toList),
          isNumeral signs = true) ∧
      (∀ dialect,
        clickHouseOf (releaseText major minor suffix) = .ok dialect →
          (dialect.supportsFullJoin = true ↔ HasFullJoin major (minorRead minor suffix)) ∧
            ∀ query : VisualQuery,
              query.isWellFormed (.clickHouse true) = true →
              query.hasShortLiterals = true →
              query.hasShortBounds = true →
              (∃ join ∈ query.joins, join.kind = .full) →
                ((∃ compiled, query.compile dialect = .ok compiled) ↔
                    HasFullJoin major (minorRead minor suffix)) ∧
                  (¬ HasFullJoin major (minorRead minor suffix) →
                    query.compile dialect =
                      .error (.fault .join (.fullJoinUnsupported "clickhouse")))) ∧
      ((HasFullJoin major (minorRead minor suffix) ↔ HasFullJoin major minor) ↔
        ¬ (major = 21 ∧ minor < 8 ∧ 8 ≤ minorRead minor suffix)) ∧
      (straySigns suffix = [] → minorRead minor suffix = minor) := by
  have readable
      {dialect : Dialect}
      (made : clickHouseOf (releaseText major minor suffix) = .ok dialect) :
      ∀ signs ∈ countedSigns (components (releaseText major minor suffix).toList),
        isNumeral signs = true := by
    intro signs member
    cases noNumeral : isNumeral signs with
    | true =>
        rfl
    | false =>
        obtain ⟨error, refused⟩ := clickHouseOf_of_noNumeral member noNumeral
        rw [made] at refused
        cases refused
  refine ⟨⟨fun ⟨_, made⟩ => readable made, fun numerals => ⟨_, clickHouseOf_of_numerals numerals⟩⟩,
    fun dialect made => ?_, since_minorRead_iff major minor suffix, minorRead_of_noSigns minor⟩
  have decided := clickHouseOf_of_numerals (readable made)
  rw [made, Except.ok.injEq] at decided
  subst decided
  refine ⟨decide_eq_true_iff, fun query wellFormed shortLiterals shortBounds full => ?_⟩
  have succeeds := VisualQuery.failure_of_wellFormed wellFormed shortLiterals shortBounds
  by_cases known : HasFullJoin major (minorRead minor suffix)
  · rw [decide_eq_true known]
    exact ⟨⟨fun _ => known, fun _ => ⟨_, VisualQuery.compile_of_ok succeeds⟩⟩,
      fun unknown => absurd known unknown⟩
  · have refused :=
      VisualQuery.compile_of_failure (VisualQuery.failure_of_unknownFull succeeds full)
    rw [decide_eq_false known, refused]
    exact ⟨⟨fun ⟨_, compiled⟩ => (nomatch compiled), fun since => absurd since known⟩,
      fun _ => rfl⟩

/-- A query with a full join. -/
def fullJoined : VisualQuery where
  source := { table := "sales", schema := none, label := none }
  joins :=
    [{ table := "regions", schema := none, label := none, kind := .full,
       condition := some (.isNull (some (.column none (some "id"))) false) }]
  columns :=
    [{ table := none, column := some "id", expression := none, label := none, aggregate := false }]
  filters := []
  groupBy := []
  having := []
  orderBy := []
  limit := none
  offset := none
  distinct := false

/-- The tag of a release without full joins makes it pass for one with them. -/
theorem clickHouseOf_release_tagged :
    ∃ dialect,
      clickHouseOf (releaseText 21 7 ['-', 'l', 't', 's', '2']) = .ok dialect ∧
        dialect.supportsFullJoin = true ∧
        ∃ compiled, fullJoined.compile dialect = .ok compiled := by
  obtain ⟨readable, decides, _⟩ := clickHouseOf_release 21 7 ['-', 'l', 't', 's', '2']
  have since : HasFullJoin 21 (minorRead 7 ['-', 'l', 't', 's', '2']) := by
    decide +kernel
  obtain ⟨dialect, made⟩ := readable.mpr (by decide +kernel)
  obtain ⟨knows, compiles⟩ := decides dialect made
  exact ⟨dialect, made, knows.mpr since,
    (compiles fullJoined (by decide +kernel) (by decide +kernel) (by decide +kernel)
      (by decide +kernel)).1.mpr since⟩

/-- A release without full joins passes for one with them if its tag has digits. -/
theorem clickHouseOf_taggedRelease :
    clickHouseOf "21.7-lts2" = .ok (.clickHouse true) ∧ ¬ HasFullJoin 21 7 := by
  decide +kernel

end Sql

end QueryGateway
