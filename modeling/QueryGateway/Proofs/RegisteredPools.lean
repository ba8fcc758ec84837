import QueryGateway.Proofs.PoolHistory
import QueryGateway.Session.Status

/-!
# Registered pools

What is known of the registry after any number of steps, what a further step
makes of it, and what the state of the pools lists.
-/

namespace QueryGateway

open List Sql

/-! ## Listing the pools -/

theorem Sql.Dialect.isWritable_defaultPort
    (dialect : Dialect) :
    Numeral.isWritable dialect.defaultPort = true := by
  apply Numeral.isWritable_of_lt
  cases dialect with
  | postgres =>
      exact (by decide : Int.natAbs 5432 < Nat.pow 10 4)
  | clickHouse fullJoin =>
      exact (by decide : Int.natAbs 8123 < Nat.pow 10 4)

/-- The text of an address with a port is missing only if a port was chosen that is too long. -/
theorem DataSource.text?_address_eq_none_iff
    (source : DataSource)
    (driver : String)
    {defaultPort : Int}
    (short : Numeral.isWritable defaultPort = true)
    (hidePassword : Bool) :
    (source.address driver (some defaultPort)).text? hidePassword = none ↔
      source.hasWritablePort = false := by
  rw [Address.text?, hasWritablePort, address]
  cases source.chosenPort with
  | none =>
      simp [short]
  | some port =>
      simp

theorem DataSource.hasWritablePort_ported
    {port : Int}
    (long : Numeral.isWritable port = false) :
    (ported port).hasWritablePort = false := by
  have chosen : port ≠ 0 := by
    rintro rfl
    have short : Numeral.isWritable 0 = true := Numeral.isWritable_of_lt (by decide)
    exact Bool.false_ne_true (long.symm.trans short)
  have own : (ported port).chosenPort = some port :=
    Option.filter_some_pos (by simpa using chosen)
  rw [hasWritablePort, own, Option.map_some, Option.getD_some, long]

theorem Pool.status?_eq_none_iff
    (pool : Pool)
    (session : Session)
    (source : SourceId) :
    pool.status? session source = none ↔ pool.origin.hasWritablePort = false := by
  rw [Pool.status?, Option.map_eq_none_iff, Pool.address,
    DataSource.text?_address_eq_none_iff _ _ (Dialect.isWritable_defaultPort _)]

theorem Pool.source_of_status?
    {pool : Pool}
    {session : Session}
    {source : SourceId}
    {state : PoolStatus}
    (shown : pool.status? session source = some state) :
    state.source = source := by
  obtain ⟨url, _, rfl⟩ := Option.map_eq_some_iff.mp shown
  rfl

namespace Session

/-- Whether states are those of the registered pools, each listed once. -/
def Lists (session : Session) (states : List PoolStatus) : Prop :=
  (states.map PoolStatus.source).Perm (session.registry.map Prod.fst) ∧
    ∀ state ∈ states,
      ∃ number pool,
        session.registered? state.source = some number ∧
          session.pools[number]? = some pool ∧
          pool.status? session state.source = some state

theorem mapM_status?_cases
    (session : Session)
    (entries : List (SourceId × Pool)) :
    match entries.mapM fun entry => entry.2.status? session entry.1 with
    | some states =>
        states.map PoolStatus.source = entries.map Prod.fst ∧
          ∀ state ∈ states,
            ∃ pool, (state.source, pool) ∈ entries ∧
              pool.status? session state.source = some state
    | none => ∃ entry ∈ entries, entry.2.status? session entry.1 = none := by
  induction entries with
  | nil =>
      exact ⟨rfl, fun state listed => absurd listed not_mem_nil⟩
  | cons entry entries inductionHypothesis =>
      rw [mapM_cons]
      cases found : entry.2.status? session entry.1 with
      | none =>
          exact ⟨entry, .head _, found⟩
      | some state =>
          cases rest : entries.mapM fun entry => entry.2.status? session entry.1 with
          | none =>
              rw [rest] at inductionHypothesis
              obtain ⟨other, listed, absent⟩ := inductionHypothesis
              exact ⟨other, .tail _ listed, absent⟩
          | some states =>
              rw [rest] at inductionHypothesis
              obtain ⟨same, sources⟩ := inductionHypothesis
              have source := Pool.source_of_status? found
              refine ⟨congr (congrArg cons source) same, fun other listed => ?_⟩
              rcases mem_cons.mp listed with rfl | later
              · rw [source]
                exact ⟨entry.2, .head _, found⟩
              · obtain ⟨pool, member, shows⟩ := sources other later
                exact ⟨pool, .tail _ member, shows⟩

variable
  {session : Session}

theorem Consistent.mem_registeredPools
    (consistent : session.Consistent)
    {source : SourceId}
    {pool : Pool}
    (listed : (source, pool) ∈ session.registeredPools) :
    ∃ number,
      session.registered? source = some number ∧ session.pools[number]? = some pool := by
  obtain ⟨⟨id, number⟩, member, shape⟩ := mem_filterMap.mp listed
  obtain ⟨other, found, same⟩ := Option.map_eq_some_iff.mp shape
  cases same
  exact ⟨number, consistent.registered?_eq_some_iff.mpr member, found⟩

theorem Consistent.map_fst_registeredPools
    (consistent : session.Consistent) :
    session.registeredPools.map Prod.fst = session.registry.map Prod.fst := by
  have named (entry : SourceId × Nat) (member : entry ∈ session.registry) :
      (session.pools[entry.2]?.map fun pool => (entry.1, pool)).map Prod.fst = some entry.1 := by
    rw [List.getElem?_eq_getElem (consistent.lt_length_of_mem member)]
    rfl
  rw [registeredPools, map_filterMap, filterMap_congr named, filterMap_eq_map']

/-- The state of the pools lists every pool that is registered, and nothing else, unless the port
of one of them is too long to be written. -/
theorem Consistent.status?_cases
    (consistent : session.Consistent) :
    match session.status? with
    | some states => session.Lists states
    | none =>
        ∃ id number pool,
          session.registered? id = some number ∧
            session.pools[number]? = some pool ∧
            pool.origin.hasWritablePort = false := by
  have found := session.mapM_status?_cases session.registeredPools
  have listing :
      session.status? =
        (session.registeredPools.mapM fun (entry : SourceId × Pool) =>
            entry.2.status? session entry.1).map
          fun states => states.mergeSort fun left right => left.source.precedes right.source :=
    rfl
  rw [listing]
  cases collected : session.registeredPools.mapM fun (entry : SourceId × Pool) =>
      entry.2.status? session entry.1 with
  | some states =>
      rw [collected] at found
      obtain ⟨sources, shown⟩ := found
      constructor
      · have sorted := (mergeSort_perm states
          fun left right => left.source.precedes right.source).map PoolStatus.source
        rwa [sources, consistent.map_fst_registeredPools] at sorted
      · intro state listed
        obtain ⟨pool, member, shows⟩ := shown state (mem_mergeSort.mp listed)
        obtain ⟨number, registered, known⟩ := consistent.mem_registeredPools member
        exact ⟨number, pool, registered, known, shows⟩
  | none =>
      rw [collected] at found
      obtain ⟨⟨source, pool⟩, member, missing⟩ := found
      obtain ⟨number, registered, known⟩ := consistent.mem_registeredPools member
      exact ⟨source, number, pool, registered, known, (pool.status?_eq_none_iff ..).mp missing⟩

/-! ## The registry -/

/-- What is known of the registry of a session after some deeds, and what a further turn makes of
it. -/
structure KeepsRegistry
    (settings : EngineSettings)
    (deeds : List Deed)
    (session : Session)
    (turn : Turn) :
    Prop where
  /-- An identifier has at most one pool. -/
  nodup : (session.registry.map Prod.fst).Nodup
  /-- The pool of an identifier was built for the source that first used one. -/
  firstUse : ∀ id, session.books.sourceOf? id = Deed.firstUse? id deeds
  /-- The pool of an identifier stays until it is taken out of the registry. -/
  stays :
    ∀ id number,
      session.registered? id = some number →
        (∀ deed ∈ turn.deeds settings (session.step settings turn.server turn.step).2.2,
          deed.removes id = false) →
        (session.next settings turn).registered? id = some number
  /-- A step uses the registered pool of its source, unless another caller evicts it. -/
  used :
    ∀ source number,
      turn.step.source? settings = some source →
        turn.evictions (session.step settings turn.server turn.step).2.2 = 0 →
        .checkedOut number ∈ (session.step settings turn.server turn.step).2.2 →
        (session.next settings turn).registered? source.id = some number
  /-- A pool is asked for by a probe, and by a use that finds none registered. -/
  asked :
    (session.step settings turn.server turn.step).2.2.filterMap Event.asked? =
      session.books.asked
        (turn.deeds settings (session.step settings turn.server turn.step).2.2)
  /-- A pool that cannot be built leaves the session as it is. -/
  unbuilt :
    ∀ source failure,
      turn.step.source? settings = some source →
        session.registered? source.id = none →
        turn.server.factoryError = some failure →
        (session.step settings turn.server turn.step).1 =
            .error (.session failure.toSessionError) ∧
          session.next settings turn = session
  /-- Evicting tells whether there was a pool. -/
  evicted :
    ∀ id,
      turn.step = .evict id →
        (session.step settings turn.server turn.step).1 =
          .ok (.evicted (session.registered? id).isSome)
  /-- Closing tells how many pools there were. -/
  closed :
    turn.step = .closeAll →
      (session.step settings turn.server turn.step).1 =
        .ok (.closed session.registry.length)
  /-- A pool that is not registered any more is disposed of and never used again, and so is one that
  was built in the turn and is not registered. -/
  disposed :
    ∀ number,
      session.Offers number →
        number < (session.next settings turn).pools.length →
        number ∉ (session.next settings turn).registry.map Prod.snd →
        .disposed number ∈ (session.step settings turn.server turn.step).2.2 ∧
          ∀ further,
            ∀ reply ∈ (session.next settings turn).replies settings further,
              .checkedOut number ∉ reply.2
  /-- The state of the pools lists the registered ones, unless a port is too long to be written. -/
  listed :
    turn.step = .status →
      (∃ states,
        (session.step settings turn.server turn.step).1 = .ok (.status states) ∧
          session.Lists states) ∨
      ((session.step settings turn.server turn.step).1 = .error (.session .longNumber) ∧
        ∃ id number pool,
          session.registered? id = some number ∧
            session.pools[number]? = some pool ∧
            pool.origin.hasWritablePort = false)

/-- The registry follows the deeds of a session as long as nobody else has a pool built. -/
theorem keepsRegistry_after
    (backend : Backend)
    (bounds : PoolSettings)
    (settings : EngineSettings)
    {turns : List Turn}
    {turn : Turn}
    (alone : ∀ earlier ∈ turns, earlier.server.buildsAlone = true)
    (aloneNow : turn.server.buildsAlone = true) :
    KeepsRegistry settings (history settings (start backend bounds) turns)
      ((start backend bounds).after settings turns) turn := by
  have consistent := consistent_after settings backend bounds turns
  have firstUse := sourceOf?_after settings backend bounds alone
  generalize (start backend bounds).after settings turns = session at consistent firstUse ⊢
  obtain ⟨books, asked⟩ := follows_turn settings consistent aloneNow
  refine
    { nodup := consistent.nodup
      firstUse := firstUse
      stays := ?stays
      used := fun source number uses =>
        registered?_of_checkedOut settings consistent aloneNow uses
      asked := asked
      unbuilt := ?unbuilt
      evicted := ?evicted
      closed := ?closed
      disposed := ?disposed
      listed := ?listed }
  case stays =>
    intro id number registered kept
    have before : session.books.registry.lookup id = some number := registered
    have still := Books.lookup_after before kept
    rw [← books] at still
    exact still
  case unbuilt =>
    intro source failure uses absent unbuilt
    have stepped := step_of_unbuilt settings session uses absent unbuilt
    rw [next, stepped]
    exact ⟨rfl, rfl⟩
  case evicted =>
    intro id evicts
    rw [evicts, step, Run.perform, Run.evict_eq]
    dsimp only
    cases session.registered? id <;> rfl
  case closed =>
    intro closes
    rw [closes]
    rfl
  case disposed =>
    intro number offered known removed
    have retired : ¬ (session.next settings turn).Offers number := by
      rintro (again | beyond)
      · exact removed again
      · exact absurd known (Nat.not_lt.mpr beyond)
    exact ⟨consistent.disposed_of_removed settings turn offered known removed,
      fun further => checkedOut_not_mem_replies settings retired further⟩
  case listed =>
    intro lists
    have cases := consistent.status?_cases
    rw [lists, step, Run.perform]
    dsimp only
    cases listing : session.status? with
    | some states =>
        rw [listing] at cases
        exact .inl ⟨states, rfl, cases⟩
    | none =>
        rw [listing] at cases
        exact .inr ⟨rfl, cases⟩

/-- The second of two sources with one identifier uses the pool of the first, until that is evicted
while a connection of it is opened. -/
theorem keepsRegistry_after_reuse :
    let evicting : Server := { Server.willing with openings := [.evicted] }
    let turns : List Turn :=
      [⟨.willing, .getPool (.ported 5433)⟩, ⟨evicting, .hold (.ported 5434) "kept"⟩,
        ⟨.willing, .getPool (.ported 5434)⟩]
    let begun := start ⟨"postgresql", true, ""⟩ .standard
    (∀ turn ∈ turns, turn.server.buildsAlone = true) ∧
      history .standard begun turns =
        [.used (.ported 5433) true, .used (.ported 5434) true, .removed (.text "ds"),
          .used (.ported 5434) true] ∧
      (begun.after .standard turns).books.sourceOf? (.text "ds") = some (.ported 5434) ∧
      KeepsRegistry .standard (history .standard begun turns) (begun.after .standard turns)
        ⟨.willing, .status⟩ := by
  intro evicting turns begun
  have alone : ∀ turn ∈ turns, turn.server.buildsAlone = true := by
    simp [turns, evicting, Server.buildsAlone, Server.willing]
  have kept :
      KeepsRegistry .standard (history .standard begun turns) (begun.after .standard turns)
        ⟨.willing, .status⟩ :=
    keepsRegistry_after _ _ _ alone rfl
  have deeds :
      history .standard begun turns =
        [.used (.ported 5433) true, .used (.ported 5434) true, .removed (.text "ds"),
          .used (.ported 5434) true] := rfl
  have firstUse :
      Deed.firstUse? (.text "ds") (history .standard begun turns) = some (.ported 5434) := by
    rw [deeds]
    rfl
  exact ⟨alone, deeds, (kept.firstUse (.text "ds")).trans firstUse, kept⟩

/-- The state of the pools is not given if the port of one is too long. -/
theorem status?_after_longPort
    (backend : Backend)
    (bounds : PoolSettings)
    (settings : EngineSettings)
    {port : Int}
    (long : Numeral.isWritable port = false) :
    let session :=
      (start backend bounds).after settings [⟨.willing, .getPool (.ported port)⟩]
    session.registered? (.text "ds") = some 0 ∧
      session.status? = none := by
  intro session
  have missing :
      (Pool.fresh (.ported port)).status? session (.text "ds") = none :=
    (Pool.status?_eq_none_iff ..).mpr (DataSource.hasWritablePort_ported long)
  have pools :
      session.registeredPools = [(.text "ds", Pool.fresh (.ported port))] := rfl
  refine ⟨rfl, ?_⟩
  rw [status?, pools, mapM_cons]
  dsimp only
  rw [missing]
  rfl

/-- A pool that is registered is not listed if its port is too long. -/
theorem status_after_longPort :
    let session :=
      (start ⟨"postgresql", true, ""⟩ .standard).after .standard
        [⟨.willing, .getPool (.ported (Int.pow 10 Numeral.digitBound))⟩]
    session.registered? (.text "ds") = some 0 ∧
      (session.step .standard .willing .status).1 = .error (.session .longNumber) := by
  intro session
  obtain ⟨registered, unlisted⟩ :=
    status?_after_longPort ⟨"postgresql", true, ""⟩ .standard .standard
      Numeral.isWritable_pow_digitBound
  refine ⟨registered, ?_⟩
  rw [step, Run.perform]
  dsimp only
  rw [unlisted]

end Session

end QueryGateway
