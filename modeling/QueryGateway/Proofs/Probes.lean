import QueryGateway.Proofs.Interventions
import QueryGateway.Proofs.RegisteredPools

/-!
# Probes

A probe fails with the first of its stages that fails: building a pool,
connecting, executing the probing statement, and fetching from it.  Whatever
happens, it leaves the registered pools as they are, and its own pool is
disposed of once, with no connection of it out.

A failure of a source whose port is too long to be written is an error, not an
answer.
-/

namespace QueryGateway

open List Sql

/-! ## The stages of a probe -/

/-- Why a pool that was just built hands out no connection, if it hands out none. -/
def Session.freshFailure? (session : Session) (server : Server) : Option ConnectFailure :=
  if session.backend.keepsIdle = true ∧ session.settings.maxSize = 0 then
    some session.exhaustion
  else
    match server.nextOpening.1 with
    | .fails message => some (.refused message)
    | _ => none

/-- Why nothing can be fetched from a statement, if nothing can. -/
def Server.fetchFailure? (server : Server) : Option String :=
  if server.columns.isSome then
    server.fetchError.map ServerFailure.message
  else
    some noRowsMessage

/-- The stages of a probe, each with what is told if it fails. -/
def Session.probeStages (session : Session) (server : Server) : List (Option String) :=
  [server.factoryError.map ServerFailure.message,
    (session.freshFailure? server).map ConnectFailure.message,
    server.executeError,
    server.fetchFailure?]

/-- The result of a probe, from what is told about its first failure. -/
def ProbeResult.of : Option String → ProbeResult
  | none => .succeeded
  | some message => .failed message

/-- A probe succeeds if its statement runs and its row can be fetched. -/
theorem Server.probeOutcome_eq
    (server : Server) :
    server.probeOutcome = .of (server.executeError.or server.fetchFailure?) := by
  rw [probeOutcome, fetchFailure?]
  cases server.executeError with
  | some message =>
      rfl
  | none =>
      cases server.columns with
      | none =>
          rfl
      | some columns =>
          cases server.fetchError <;> rfl

namespace Run

/-- A run in which a pool was built for a source and is not registered. -/
def withFresh (run : Run) (source : DataSource) : Run :=
  { run.note (.building source.id) with session := run.session.withPool source }

/-- A probe builds a pool, asks it for a connection, and disposes of it. -/
theorem attemptProbe_eq
    (run : Run)
    (source : DataSource) :
    run.attemptProbe source =
      match run.server.factoryError with
      | some failure => (.failed failure.message, run.note (.building source.id))
      | none =>
          match (run.withFresh source).connect run.session.pools.length with
          | (.error failure, later) =>
              (.failed failure.message, later.dispose run.session.pools.length)
          | (.ok connection, later) =>
              let statement := (Dialect.ofEngine true source.engine).probeStatement
              (later.server.probeOutcome,
                ((later.note (.executing statement)).giveBack connection).dispose
                  run.session.pools.length) := by
  rw [attemptProbe, build_eq]
  cases run.server.factoryError <;> rfl

/-- A fresh pool stands behind the pools that were there. -/
theorem pools_withFresh
    (run : Run)
    (source : DataSource) :
    (run.withFresh source).session.pools[run.session.pools.length]? = some (.fresh source) := by
  simp [withFresh, Session.withPool]

/-- A fresh pool opens a connection, unless it may keep none. -/
theorem connect_withFresh
    (run : Run)
    (source : DataSource) :
    (run.withFresh source).connect run.session.pools.length =
      if run.session.backend.keepsIdle = true ∧ run.session.settings.maxSize = 0 then
        (.error run.session.exhaustion, run.withFresh source)
      else
        (run.withFresh source).openConnection run.session.pools.length (.fresh source) := by
  rw [connect_eq (run.pools_withFresh source), if_neg (fun idle => Nat.lt_irrefl 0 idle.2)]
  simp only [Pool.fresh, Nat.le_zero]
  rfl

/-- A fresh pool fails for the reasons of a fresh pool. -/
theorem errorOf?_connect_withFresh
    (run : Run)
    (source : DataSource) :
    errorOf? ((run.withFresh source).connect run.session.pools.length).1 =
      run.session.freshFailure? run.server := by
  rw [connect_withFresh, Session.freshFailure?]
  split
  · rfl
  · have same : (run.withFresh source).server = run.server := rfl
    rw [openConnection_eq, same]
    cases run.server.nextOpening.1 <;> rfl

/-- A probe has the result of its first stage that fails. -/
theorem attemptProbe_fst
    (run : Run)
    (source : DataSource) :
    (run.attemptProbe source).1 =
      .of ((run.session.probeStages run.server).findSome? id) := by
  have connecting := run.errorOf?_connect_withFresh source
  have frame := (run.withFresh source).frame_connect run.session.pools.length
  rw [attemptProbe_eq, Session.probeStages]
  cases run.server.factoryError with
  | some failure =>
      rfl
  | none =>
      dsimp only
      generalize (run.withFresh source).connect run.session.pools.length = outcome
        at connecting frame
      obtain ⟨failure | connection, later⟩ := outcome
      · rw [← connecting]
        rfl
      · -- Opening a connection does not change how the servers go on.
        have executing : later.server.executeError = run.server.executeError :=
          congrArg (fun frame => frame.2.2.2.1.executeError) frame
        have fetching : later.server.fetchFailure? = run.server.fetchFailure? :=
          congrArg (fun frame => frame.2.2.2.1.fetchFailure?) frame
        rw [← connecting]
        dsimp only
        rw [Server.probeOutcome_eq, executing, fetching]
        cases run.server.executeError with
        | some message =>
            rfl
        | none =>
            cases run.server.fetchFailure? <;> rfl

/-! ## What a probe leaves alone -/

/-- A later run in which only one pool has changed, and has been disposed of so often. -/
structure Spares
    (number : Nat)
    (run later : Run)
    (disposals : Nat) :
    Prop where
  registry : later.session.registry = run.session.registry
  otherPools :
    ∀ other, other ≠ number → later.session.pools[other]? = run.session.pools[other]?
  disposed : later.log.count (.disposed number) = run.log.count (.disposed number) + disposals

namespace Spares

variable
  {number : Nat}
  {run later : Run}
  {disposals : Nat}

/-- Where nothing happens everything is spared. -/
theorem refl
    (run : Run) :
    Spares number run run 0 where
  registry := rfl
  otherPools _ _ := rfl
  disposed := rfl

/-- Logging anything but a disposal of the pool spares the others, and leaves its disposals. -/
theorem note
    (spares : Spares number run later disposals)
    {event : Event}
    (other : event ≠ .disposed number) :
    Spares number run (later.note event) disposals where
  registry := spares.registry
  otherPools := spares.otherPools
  disposed := by
    rw [Run.note, count_append, spares.disposed, count_singleton, if_neg (by simpa using other),
      Nat.add_zero]

/-- A change of the pool spares the others. -/
theorem updatePool
    (spares : Spares number run later disposals)
    (change : Pool → Pool) :
    Spares number run (later.updatePool number change) disposals where
  registry := spares.registry
  otherPools other different :=
    (getElem?_modify_ne _ _ different.symm).trans (spares.otherPools other different)
  disposed := spares.disposed

/-- Taking an idle connection of the pool spares the others. -/
theorem take
    (spares : Spares number run later disposals)
    (idle : Nat → Nat) :
    Spares number run (later.take number idle) disposals :=
  (spares.updatePool _).note Event.noConfusion

/-- Opening a connection for the pool spares the others. -/
theorem opened
    (spares : Spares number run later disposals)
    (pool : Pool) :
    Spares number run (later.opened pool) disposals where
  registry := spares.registry
  otherPools := spares.otherPools
  disposed := (spares.note Event.noConfusion).disposed

/-- A connection is asked for without another caller. -/
theorem connect
    (spares : Spares number run later disposals)
    (calm : later.server.nextOpening.1.isCalm = true) :
    Spares number run (later.connect number).2 disposals := by
  cases found : later.session.pools[number]? with
  | none =>
      rw [Run.connect, found]
      exact spares
  | some pool =>
      rw [connect_eq found]
      split
      · exact spares.take _
      split
      · exact spares
      rw [openConnection_eq]
      cases foreseen : later.server.nextOpening.1 with
      | fails message =>
          exact spares.opened pool
      | succeeds =>
          exact (spares.opened pool).take id
      | evicted | replaced =>
          rw [foreseen] at calm
          cases calm

/-- Giving a connection of the pool back spares the others. -/
theorem giveBack
    {connection : Connection}
    (spares : Spares connection.pool run later disposals) :
    Spares connection.pool run (later.giveBack connection) disposals := by
  cases found : later.session.pools[connection.pool]? with
  | none =>
      rw [Run.giveBack, found]
      exact spares
  | some pool =>
      rw [giveBack_eq found]
      split
      · exact (spares.updatePool _).note Event.noConfusion
      · split
        · exact (spares.updatePool _).note Event.noConfusion
        · exact ((spares.updatePool _).note Event.noConfusion).note Event.noConfusion

/-- Disposing of the pool is logged once more. -/
theorem dispose
    (spares : Spares number run later disposals)
    (known : number < later.session.pools.length) :
    Spares number run (later.dispose number) (disposals + 1) := by
  have found := List.getElem?_eq_getElem known
  have closing (idle : Nat) (source : SourceId) :
      (replicate idle (Event.closing source)).count (.disposed number) = 0 :=
    count_eq_zero_of_not_mem fun listed => Event.noConfusion (mem_replicate.mp listed).2
  refine ⟨?_, fun other different => ?_, ?_⟩
  · rw [registry_dispose, spares.registry]
  · rw [pools_dispose_of_ne _ different.symm, spares.otherPools other different]
  · rw [Run.dispose, found]
    simp only [count_append, closing, spares.disposed, count_singleton_self]
    rfl

end Spares

section

variable
  (run : Run)
  (source : DataSource)

/-- A fresh pool spares those that were there. -/
theorem spares_withFresh :
    Spares run.session.pools.length run (run.withFresh source) 0 where
  registry := rfl
  otherPools other different := by
    change (run.session.pools ++ [_])[other]? = _
    rcases Nat.lt_or_gt_of_ne different with earlier | beyond
    · exact getElem?_append_left earlier
    · rw [List.getElem?_eq_none (Nat.le_of_lt beyond), List.getElem?_eq_none]
      rw [length_append, length_singleton]
      exact beyond
  disposed := ((Spares.refl run).note Event.noConfusion).disposed

/-- What follows on the building of a pool for a probe. -/
theorem attemptProbe_of_built
    {motive : Run → Prop}
    (built : run.server.factoryError = none)
    (refused :
      ∀ {later failure},
        (run.withFresh source).connect run.session.pools.length = (.error failure, later) →
        motive (later.dispose run.session.pools.length))
    (connected :
      ∀ {later connection statement},
        (run.withFresh source).connect run.session.pools.length = (.ok connection, later) →
        connection.pool = run.session.pools.length →
        motive
          (((later.note (.executing statement)).giveBack connection).dispose
            run.session.pools.length)) :
    motive (run.attemptProbe source).2 := by
  have own := ((run.withFresh source).handsOut_connect run.session.pools.length).own
  rw [attemptProbe_eq, built]
  dsimp only
  cases asked : (run.withFresh source).connect run.session.pools.length with
  | mk outcome later =>
      rw [asked] at own
      cases outcome with
      | error failure =>
          exact refused asked
      | ok connection =>
          exact connected asked (own connection rfl)

/-- Without another caller, a probe changes no pool but its own, which is disposed of once. -/
theorem spares_attemptProbe
    (built : run.server.factoryError = none)
    (calm : run.server.nextOpening.1.isCalm = true) :
    Spares run.session.pools.length run (run.attemptProbe source).2 1 := by
  have connecting := (run.spares_withFresh source).connect calm
  obtain ⟨events, led, _⟩ :=
    ((run.withFresh source).handsOut_connect run.session.pools.length).leads
  have known :
      run.session.pools.length <
        ((run.withFresh source).connect run.session.pools.length).2.session.origins.length := by
    refine Nat.lt_of_lt_of_le ?_ led.origins.length_le
    simp [withFresh, Session.withPool]
  refine run.attemptProbe_of_built source
    (motive := fun later => Spares run.session.pools.length run later 1) built
    (fun {later failure} asked => ?_) (fun {later connection statement} asked own => ?_)
  · rw [asked, Session.length_origins] at known
    rw [asked] at connecting
    exact connecting.dispose known
  · rw [asked] at known connecting
    rw [← own] at known connecting ⊢
    refine ((connecting.note Event.noConfusion).giveBack).dispose ?_
    rwa [← Session.length_origins, origins_giveBack]

/-- What is held stays the same during a probe, and the pool of the probe stays out of use. -/
theorem leads_attemptProbe
    (built : run.server.factoryError = none) :
    ∃ events, Leads (run.withFresh source) (run.attemptProbe source).2 events := by
  obtain ⟨asking, led, _⟩ :=
    ((run.withFresh source).handsOut_connect run.session.pools.length).leads
  refine run.attemptProbe_of_built source
    (motive := fun later => ∃ events, Leads (run.withFresh source) later events) built
    (fun {later failure} asked => ?_) (fun {later connection statement} asked own => ?_)
  · rw [asked] at led
    obtain ⟨disposing, disposed, _⟩ := later.leads_dispose run.session.pools.length
    exact ⟨_, led.trans disposed⟩
  · rw [asked] at led
    have executed := led.trans (later.leads_note (.executing statement))
    have known : connection.pool < (later.note (.executing statement)).session.origins.length := by
      refine Nat.lt_of_lt_of_le ?_ executed.origins.length_le
      simp [own, withFresh, Session.withPool]
    obtain ⟨behind, returned, _⟩ := leads_giveBack known
    obtain ⟨disposing, disposed, _⟩ :=
      ((later.note (.executing statement)).giveBack connection).leads_dispose
        run.session.pools.length
    exact ⟨_, (executed.trans returned).trans disposed⟩

/-- A pool that cannot be built leaves only the attempt in the log. -/
theorem attemptProbe_of_unbuilt
    {failure : ServerFailure}
    (unbuilt : run.server.factoryError = some failure) :
    (run.attemptProbe source).2 = run.note (.building source.id) := by
  rw [attemptProbe_eq, unbuilt]

/-- What is held stays the same during a probe. -/
theorem held_attemptProbe :
    (run.attemptProbe source).2.session.held = run.session.held := by
  cases built : run.server.factoryError with
  | some failure =>
      rw [run.attemptProbe_of_unbuilt source built]
      rfl
  | none =>
      obtain ⟨events, led⟩ := run.leads_attemptProbe source built
      exact led.held

/-- The pool of a probe is not registered. -/
theorem unregistered_attemptProbe
    (consistent : run.session.Consistent)
    (built : run.server.factoryError = none) :
    run.session.pools.length ∉ (run.attemptProbe source).2.session.registry.map Prod.snd := by
  obtain ⟨events, led⟩ := run.leads_attemptProbe source built
  intro registered
  rcases led.offers _ (.inl registered) with earlier | beyond
  · obtain ⟨entry, member, same⟩ := mem_map.mp earlier
    exact Nat.ne_of_lt (consistent.lt_length_of_mem member) same
  · simp only [withFresh, Session.withPool, length_append, length_singleton] at beyond
    exact Nat.not_succ_le_self _ beyond

/-- Without another caller, a probe leaves the registry and the pools alone. -/
theorem spared_attemptProbe
    (calm : run.server.nextOpening.1.isCalm = true) :
    (run.attemptProbe source).2.session.registry = run.session.registry ∧
      ∀ number < run.session.pools.length,
        (run.attemptProbe source).2.session.pools[number]? = run.session.pools[number]? := by
  cases built : run.server.factoryError with
  | some failure =>
      rw [run.attemptProbe_of_unbuilt source built]
      exact ⟨rfl, fun _ _ => rfl⟩
  | none =>
      have spares := run.spares_attemptProbe source built calm
      exact ⟨spares.registry, fun number known =>
        spares.otherPools number (Nat.ne_of_lt known)⟩

/-- A probe reports what it met, unless it fails and its source cannot be described. -/
theorem probe_eq :
    run.probe source =
      (if (run.attemptProbe source).1.success || source.hasWritablePort then
        .ok (run.attemptProbe source).1
      else
        .error .longNumber,
        (run.attemptProbe source).2) := by
  have described : source.describe?.isSome = source.hasWritablePort := by
    rw [DataSource.describe?]
    cases source.hasWritablePort <;> rfl
  rw [probe, described]
  dsimp only
  split <;> rfl

end

end Run

/-! ## Probes in a session -/

namespace Session

/-- What comes of probing a source in a session. -/
structure ProbeSettled
    (session : Session)
    (server : Server)
    (source : DataSource)
    (answer : Except RequestError Answer)
    (later : Session)
    (log : List Event) :
    Prop where
  /-- A probe succeeds exactly if all of its stages do. -/
  succeeded :
    answer = .ok (.probed .succeeded) ↔
      ∀ stage ∈ session.probeStages server, stage = none
  /-- The first failure is the answer, if the source can be described. -/
  failed :
    ∀ message,
      (session.probeStages server).findSome? id = some message →
        source.hasWritablePort = true →
        answer = .ok (.probed (.failed message))
  /-- A failure of a source that cannot be described is an error. -/
  undescribed :
    ∀ message,
      (session.probeStages server).findSome? id = some message →
        source.hasWritablePort = false →
        answer = .error (.session .longNumber)
  /-- Nothing is left of a pool that cannot be built. -/
  unbuilt :
    ∀ failure,
      server.factoryError = some failure →
        later = session ∧ log = [.building source.id]
  /-- No more connections are out than before. -/
  checkedOut : ∀ number, later.checkedOut number = session.checkedOut number
  /-- The pool of the probe is not registered, and no connection of it is out. -/
  disused :
    server.factoryError = none →
      session.pools.length ∉ later.registry.map Prod.snd ∧
        later.checkedOut session.pools.length = 0
  /-- Without another caller, no other pool is changed. -/
  spared :
    server.nextOpening.1.isCalm = true →
      later.registry = session.registry ∧
        ∀ number < session.pools.length,
          later.pools[number]? = session.pools[number]?
  /-- Without another caller, the pool of the probe is disposed of once. -/
  disposed :
    server.nextOpening.1.isCalm = true →
      server.factoryError = none →
        log.count (.disposed session.pools.length) = 1

variable
  {session : Session}
  (settings : EngineSettings)
  (server : Server)
  (source : DataSource)

/-- The answer to a probe is decided by the first stage that fails. -/
theorem step_probe_fst :
    (session.step settings server (.probe source)).1 =
      match (session.probeStages server).findSome? id with
      | none => .ok (.probed .succeeded)
      | some message =>
          if source.hasWritablePort then
            .ok (.probed (.failed message))
          else
            .error (.session .longNumber) := by
  rw [step, Run.perform, Run.probe_eq, Run.attemptProbe_fst]
  cases (session.probeStages server).findSome? id with
  | none =>
      rfl
  | some message =>
      cases source.hasWritablePort <;> rfl

/-- A probe leaves what its attempt leaves. -/
theorem step_probe_snd :
    (session.step settings server (.probe source)).2 =
      (((Run.mk session server []).attemptProbe source).2.session,
        ((Run.mk session server []).attemptProbe source).2.log) := by
  rw [step, Run.perform, Run.probe_eq]

/-- The next pool to be built has no connections out. -/
theorem checkedOut_length
    (session : Session) :
    session.checkedOut session.pools.length = 0 := by
  rw [checkedOut, List.getElem?_eq_none (Nat.le_refl _)]
  rfl

/-- Probing a source in any session with right books. -/
theorem probeSettled_step
    (consistent : session.Consistent)
    (balanced : Balanced session.pools session.heldConnections) :
    ProbeSettled session server source
      (session.step settings server (.probe source)).1
      (session.step settings server (.probe source)).2.1
      (session.step settings server (.probe source)).2.2 := by
  have answer : (session.step settings server (.probe source)).1 = _ :=
    step_probe_fst settings server source
  let run : Run := ⟨session, server, []⟩
  have held := run.held_attemptProbe source
  have begun : Run.Reached session run [] [] := .begun server
  have reached := (begun.probe source).balanced balanced
  rw [Run.probe_eq] at reached
  rw [step_probe_snd]
  have checkedOut (number : Nat) :
      (run.attemptProbe source).2.session.checkedOut number = session.checkedOut number := by
    rw [checkedOut_eq_of_balanced reached, checkedOut_eq_of_balanced balanced, nil_append,
      heldConnections, heldConnections, held]
  constructor
  case succeeded =>
    have first :
        (session.probeStages server).findSome? id = none ↔
          ∀ stage ∈ session.probeStages server, stage = none :=
      findSome?_eq_none_iff
    rw [answer]
    cases stages : (session.probeStages server).findSome? id with
    | none =>
        exact ⟨fun _ => first.mp stages, fun _ => rfl⟩
    | some message =>
        refine ⟨fun same => ?_, fun all => ?_⟩
        · cases writable : source.hasWritablePort <;>
            simp [writable, ProbeResult.succeeded, ProbeResult.failed] at same
        · rw [first.mpr all] at stages
          cases stages
  case failed =>
    intro message first writable
    rw [answer, first, writable]
    rfl
  case undescribed =>
    intro message first unwritable
    rw [answer, first, unwritable]
    rfl
  case unbuilt =>
    intro failure isFailure
    rw [run.attemptProbe_of_unbuilt source isFailure]
    exact ⟨rfl, rfl⟩
  case checkedOut =>
    exact checkedOut
  case disused =>
    intro built
    exact ⟨run.unregistered_attemptProbe source consistent built,
      (checkedOut session.pools.length).trans session.checkedOut_length⟩
  case spared =>
    exact run.spared_attemptProbe source
  case disposed =>
    intro calm built
    exact (run.spares_attemptProbe source built calm).disposed

/-- In every session that comes of its first step, a probe settles like this. -/
theorem probeSettled_after
    (backend : Backend)
    (bounds : PoolSettings)
    (turns : List Turn) :
    let session := (start backend bounds).after settings turns
    ProbeSettled session server source
      (session.step settings server (.probe source)).1
      (session.step settings server (.probe source)).2.1
      (session.step settings server (.probe source)).2.2 :=
  probeSettled_step settings server source (consistent_after settings backend bounds turns)
    (balanced_after settings backend bounds turns)

/-- A failure is an error if the port of the source is too long. -/
theorem probe_longPort :
    let session := start ⟨"postgresql", true, ""⟩ .standard
    let server := { Server.willing with factoryError := some (.refused "boom") }
    let source := DataSource.ported (Int.pow 10 Numeral.digitBound)
    session.probeStages server = [some "boom", none, none, some noRowsMessage] ∧
      (session.step .standard server (.probe source)).1 =
        .error (.session .longNumber) := by
  intro session server source
  have unwritable : source.hasWritablePort = false :=
    DataSource.hasWritablePort_ported Numeral.isWritable_pow_digitBound
  refine ⟨rfl, ?_⟩
  rw [step_probe_fst, unwritable]
  rfl

end Session

end QueryGateway
