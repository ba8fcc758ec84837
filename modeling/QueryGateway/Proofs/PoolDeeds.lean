import QueryGateway.Proofs.PoolBooks
import QueryGateway.Proofs.SessionMoves

/-!
# Deeds of a session

The deeds of a turn follow from its step, and from how often another caller
evicts the pool while connections of it are opened; its log tells how many were.
Each operation on pools is a deed, or it opens a connection, or it is quiet.
-/

namespace QueryGateway

open List Sql

/-! ## Deeds -/

namespace Server

/-- Whether no other caller has a pool built while a connection is opened. -/
def buildsAlone (server : Server) : Bool :=
  server.openings.all (· ≠ .replaced)

/-- How often another caller evicts a pool during some openings. -/
def evictions (server : Server) (openings : Nat) : Nat :=
  (server.openings.take openings).count .evicted

/-- The deed of using the pool of a source. -/
def use (server : Server) (source : DataSource) : Deed :=
  .used source (server.factoryError).isNone

/-- The deeds of a step that uses the pool of a source while another caller evicts it so often; the
step starts again after each eviction, or never. -/
def deeds (server : Server) (source : DataSource) (again : Bool) (evictions : Nat) : List Deed :=
  server.use source ::
    (replicate evictions
      (.removed source.id :: if again then [server.use source] else [])).flatten

end Server

/-- The source that a pool is asked for, in a log. -/
def Event.asked? : Event → Option SourceId
  | .building source => some source
  | _ => none

/-- Whether a connection is opened. -/
def Event.isOpening : Event → Bool
  | .opening _ => true
  | _ => false

/-- The source of a query, unless the query is refused before a connection is needed. -/
def DataSource.queried? (source : DataSource) (statement : String) (limit : Int) :
    Option DataSource :=
  if 1 ≤ limit ∧ (capped? statement (limit + 1)).isSome then some source else none

/-- A statement is sent to its own source, if the bound is positive and can be written. -/
theorem DataSource.queried?_eq_some_iff
    {target source : DataSource}
    {statement : String}
    {limit : Int} :
    target.queried? statement limit = some source ↔
      target = source ∧ 1 ≤ limit ∧ ∃ bounded, capped? statement (limit + 1) = some bounded := by
  rw [queried?, Option.ite_none_right_eq_some, Option.some.injEq, Option.isSome_iff_exists]
  exact ⟨fun ⟨⟨positive, short⟩, same⟩ => ⟨same, positive, short⟩,
    fun ⟨same, positive, short⟩ => ⟨⟨positive, short⟩, same⟩⟩

namespace Step

/-- The source whose registered pool a step uses. -/
def source? (settings : EngineSettings) : Step → Option DataSource
  | .executeQuery source statement limit => source.queried? statement limit
  | .execute source request parameters limit =>
      match settings.resolvedStatement source request parameters with
      | .ok statement => source.queried? statement (settings.rowLimit limit)
      | .error _ => none
  | .schema source | .getPool source | .hold source _ => some source
  | .probe _ | .evict _ | .closeAll | .release _ | .status => none

/-- Whether a step starts again with a new pool if the pool is evicted while a connection of it is
opened. -/
def startsAgain : Step → Bool
  | .executeQuery .. | .execute .. => true
  | _ => false

/-- The deeds of a step during which another caller evicts the pool of its source so often. -/
def deeds
    (settings : EngineSettings)
    (server : Server)
    (evictions : Nat) :
    Step → List Deed
  | .probe source =>
      .probed source (server.factoryError).isNone ::
        replicate evictions (.removed source.id)
  | .evict id => [.removed id]
  | .closeAll => [.cleared]
  | step =>
      match step.source? settings with
      | some source => server.deeds source step.startsAgain evictions
      | none => []

/-- A step that uses a source does what its server lets it do. -/
theorem deeds_of_source?
    {settings : EngineSettings}
    {step : Step}
    {source : DataSource}
    (uses : step.source? settings = some source)
    (server : Server)
    (evictions : Nat) :
    step.deeds settings server evictions = server.deeds source step.startsAgain evictions := by
  cases step with
  | executeQuery | execute | schema | getPool | hold =>
      simp only [deeds, uses]
  | probe | evict | closeAll | release | status =>
      cases uses

end Step

namespace Turn

/-- How often another caller evicts the pool of a source during a turn, as its log shows. -/
def evictions (turn : Turn) (log : List Event) : Nat :=
  turn.server.evictions (log.countP Event.isOpening)

/-- The deeds of a turn with some log. -/
def deeds (settings : EngineSettings) (turn : Turn) (log : List Event) : List Deed :=
  turn.step.deeds settings turn.server (turn.evictions log)

end Turn

namespace Session

/-- What a session knows of its pools. -/
def books (session : Session) : Books :=
  ⟨session.registry, session.origins⟩

/-- The deeds of some turns of a session. -/
def history (settings : EngineSettings) : Session → List Turn → List Deed
  | _, [] => []
  | session, turn :: turns =>
      turn.deeds settings (session.step settings turn.server turn.step).2.2 ++
        history settings (session.next settings turn) turns

end Session

/-! ## Evictions -/

namespace Server

/-- Asking for the next opening uses up one of those that are planned. -/
theorem nextOpening_snd
    (server : Server) :
    server.nextOpening.2 = { server with openings := server.openings.drop 1 } := by
  obtain ⟨_, openings, _⟩ := server
  cases openings <;> rfl

/-- A server on which no one else builds stays so. -/
theorem buildsAlone_drop
    {server : Server}
    (alone : server.buildsAlone = true)
    (openings : Nat) :
    { server with openings := server.openings.drop openings }.buildsAlone = true :=
  all_eq_true.mpr fun opening listed =>
    all_eq_true.mp alone opening (mem_of_mem_drop listed)

/-- Where no one else builds, no opening replaces a pool. -/
theorem nextOpening_ne_replaced
    {server : Server}
    (alone : server.buildsAlone = true) :
    server.nextOpening.1 ≠ .replaced := by
  rw [nextOpening]
  cases listed : server.openings with
  | nil =>
      cases server.connectError <;> exact Opening.noConfusion
  | cons opening rest =>
      have foreseen : opening ∈ server.openings := listed ▸ .head rest
      simpa using all_eq_true.mp alone opening foreseen

/-- At most one pool is evicted for each opening. -/
theorem evictions_le
    (server : Server)
    (openings : Nat) :
    server.evictions openings ≤ openings :=
  Nat.le_trans count_le_length (length_take_le ..)

/-- A single opening evicts a pool just if the server says so. -/
theorem evictions_one
    (server : Server) :
    server.evictions 1 = if server.nextOpening.1 = .evicted then 1 else 0 := by
  rw [evictions, nextOpening]
  cases server.openings with
  | nil =>
      cases server.connectError <;> rfl
  | cons opening rest =>
      cases opening <;> rfl

/-- The evictions of two series of openings add up. -/
theorem evictions_add
    (server : Server)
    (openings further : Nat) :
    server.evictions (openings + further) =
      server.evictions openings +
        { server with openings := server.openings.drop openings }.evictions further := by
  rw [evictions, evictions, evictions, take_add, count_append]

end Server

namespace Run

/-! ## What follows of a run -/

/-- A later run, in which some connections were opened and the deeds were done to the books. -/
structure Follows
    (run later : Run)
    (openings : Nat)
    (deeds : List Deed) :
    Prop where
  opened :
    later.log.countP Event.isOpening = run.log.countP Event.isOpening + openings
  server : later.server = { run.server with openings := run.server.openings.drop openings }
  books : later.session.books = run.session.books.after deeds
  asked :
    later.log.filterMap Event.asked? =
      run.log.filterMap Event.asked? ++ run.session.books.asked deeds

/-- A later run in which no pool was asked for or used, and none was taken out of the registry. -/
structure Quiet (run later : Run) : Prop where
  log :
    ∃ events,
      later.log = run.log ++ events ∧
        ∀ event ∈ events, event.isPlain = true ∨ ∃ number, event = .disposed number
  server : later.server = run.server
  books : later.session.books = run.session.books

section

variable
  {run later latest : Run}

namespace Quiet

/-- A quiet change does no deed. -/
theorem follows
    (quiet : Quiet run later) :
    Follows run later 0 [] := by
  obtain ⟨events, shape, quietly⟩ := quiet.log
  have unopened : events.countP Event.isOpening = 0 := by
    refine countP_eq_zero.mpr fun event listed => ?_
    rcases quietly event listed with plain | ⟨number, rfl⟩
    · cases event <;> first | exact Bool.false_ne_true | cases plain
    · exact Bool.false_ne_true
  have unasked : events.filterMap Event.asked? = [] := by
    refine filterMap_eq_nil_iff.mpr fun event listed => ?_
    rcases quietly event listed with plain | ⟨number, rfl⟩
    · cases event <;> first | rfl | cases plain
    · rfl
  exact
    { opened := by rw [shape, countP_append, unopened]
      server := quiet.server
      books := quiet.books
      asked := by rw [shape, filterMap_append, unasked]; rfl }

/-- A quiet change hands no connection out. -/
theorem checkedOut
    {number : Nat}
    (quiet : Quiet run later)
    (handedOut : .checkedOut number ∈ later.log) :
    .checkedOut number ∈ run.log := by
  obtain ⟨events, shape, quietly⟩ := quiet.log
  rw [shape] at handedOut
  rcases mem_append.mp handedOut with earlier | now
  · exact earlier
  · rcases quietly _ now with plain | ⟨other, disposed⟩
    · cases plain
    · cases disposed

end Quiet

/-- Logging plain events is quiet. -/
theorem quiet_notes
    (run : Run)
    {events : List Event}
    (plain : ∀ event ∈ events, event.isPlain = true) :
    Quiet run (run.notes events) where
  log := ⟨events, rfl, fun event listed => .inl (plain event listed)⟩
  server := rfl
  books := rfl

/-- Keeping a connection under a name is quiet. -/
theorem quiet_keep
    (run : Run)
    (name : String)
    (connection : Connection) :
    Quiet run (run.keep name connection) where
  log := ⟨[], (append_nil _).symm, fun _ listed => absurd listed not_mem_nil⟩
  server := rfl
  books := rfl

/-- Disposing of a pool is quiet. -/
theorem quiet_dispose
    (run : Run)
    (number : Nat) :
    Quiet run (run.dispose number) := by
  obtain ⟨events, shape, quietly, _⟩ := log_dispose run number
  exact
    { log := ⟨events, shape, fun event listed =>
        (quietly event listed).imp_right fun same => ⟨number, same⟩⟩
      server := server_dispose run number
      books := by rw [Session.books, registry_dispose, origins_dispose]; rfl }

/-- Giving a connection back is quiet. -/
theorem quiet_giveBack
    (run : Run)
    (connection : Connection) :
    Quiet run (run.giveBack connection) := by
  obtain ⟨events, shape, plain⟩ := log_giveBack run connection
  exact
    { log := ⟨events, shape, fun event listed => .inl (plain event listed)⟩
      server := server_giveBack run connection
      books := by rw [Session.books, registry_giveBack, origins_giveBack]; rfl }

namespace Follows

/-- A run follows itself without a deed. -/
theorem refl
    (run : Run) :
    Follows run run 0 [] where
  opened := rfl
  server := rfl
  books := rfl
  asked := (append_nil _).symm

/-- Deeds that follow each other are done one after the other. -/
theorem trans
    {openings further : Nat}
    {deeds more : List Deed}
    (first : Follows run later openings deeds)
    (second : Follows later latest further more) :
    Follows run latest (openings + further) (deeds ++ more) where
  opened := by rw [second.opened, first.opened, Nat.add_assoc]
  server := by rw [second.server, first.server, ← drop_drop]
  books := by rw [second.books, first.books, Books.after_append]
  asked := by rw [second.asked, first.asked, first.books, append_assoc, Books.asked_append]

/-- A quiet change may come after any deeds. -/
theorem quietly
    {openings : Nat}
    {deeds : List Deed}
    (follows : Follows run later openings deeds)
    (quiet : Quiet later latest) :
    Follows run latest openings deeds := by
  have joined := follows.trans quiet.follows
  rwa [append_nil] at joined

/-- How the server treats a source outlasts any deeds. -/
theorem use
    {openings : Nat}
    {deeds : List Deed}
    (follows : Follows run later openings deeds)
    (source : DataSource) :
    later.server.use source = run.server.use source := by
  rw [follows.server]
  rfl

/-- The evictions ahead are counted from where the deeds left off. -/
theorem evictions_add
    {openings : Nat}
    {deeds : List Deed}
    (follows : Follows run later openings deeds)
    (further : Nat) :
    run.server.evictions (openings + further) =
      run.server.evictions openings + later.server.evictions further := by
  rw [follows.server, run.server.evictions_add]

/-- No one else comes to build later on. -/
theorem buildsAlone
    {openings : Nat}
    {deeds : List Deed}
    (follows : Follows run later openings deeds)
    (alone : run.server.buildsAlone = true) :
    later.server.buildsAlone = true := by
  rw [follows.server]
  exact Server.buildsAlone_drop alone openings

end Follows

end

/-! ## Single operations -/

/-- Acquiring the pool of a source is a use of it. -/
theorem follows_acquirePool
    (run : Run)
    (source : DataSource) :
    Follows run (run.acquirePool source).2 0 [run.server.use source] := by
  have registered : run.session.books.registry.lookup source.id = run.session.registered? source.id :=
    rfl
  have length : run.session.books.origins.length = run.session.pools.length :=
    run.session.length_origins
  rw [acquirePool_eq, Server.use]
  cases present : run.session.registered? source.id with
  | some number =>
      rw [present] at registered
      exact
        { opened := rfl
          server := rfl
          books := by simp [Books.after, Deed.enter, registered]
          asked := by simp [Books.asked, Deed.asked, registered] }
  | none =>
      rw [present] at registered
      cases run.server.factoryError with
      | some failure =>
          exact
            { opened := by simp [note, Event.isOpening]
              server := rfl
              books := by simp [Books.after, Deed.enter, note]
              asked := by simp [Books.asked, Deed.asked, registered, note, Event.asked?] }
      | none =>
          exact
            { opened := by simp [register, note, Event.isOpening]
              server := rfl
              books := by
                simp only [Books.after, foldl_cons, foldl_nil, Deed.enter, registered, length,
                  Option.isNone_none, and_self, if_true]
                simp only [Session.books, origins_register, Session.origins_withPool]
                rfl
              asked := by simp [Books.asked, Deed.asked, registered, register, note, Event.asked?] }

/-- Removing a source from the registry does just that. -/
theorem follows_evict
    (run : Run)
    (id : SourceId) :
    Follows run (run.evict id).2 0 [.removed id] := by
  rw [evict_eq]
  cases absent : run.session.registered? id with
  | none =>
      have kept :
          (run.session.registry.filter fun entry => entry.1 ≠ id) = run.session.registry := by
        refine filter_eq_self.mpr fun entry listed => ?_
        have different : id ≠ entry.1 := by
          simpa using lookup_eq_none_iff.mp absent entry listed
        simpa using different.symm
      exact
        { opened := rfl
          server := rfl
          books := by rw [Books.after, foldl_cons, foldl_nil, Deed.enter, Session.books, kept]
          asked := (append_nil _).symm }
  | some number =>
      have removed :
          Follows run { run with session := run.session.without id } 0 [.removed id] :=
        { opened := rfl
          server := rfl
          books := rfl
          asked := (append_nil _).symm }
      exact removed.quietly (quiet_dispose ..)

/-- Emptying the registry does just that. -/
theorem follows_closeAll
    (run : Run) :
    Follows run run.closeAll.2 0 [.cleared] := by
  have cleared :
      Follows run { run with session := { run.session with registry := [] } } 0 [.cleared] :=
    { opened := rfl
      server := rfl
      books := rfl
      asked := (append_nil _).symm }
  have disposed
      (entries : List (SourceId × Nat))
      {later : Run}
      (follows : Follows run later 0 [.cleared]) :
      Follows run (entries.foldl (fun run entry => run.dispose entry.2) later) 0 [.cleared] := by
    induction entries generalizing later with
    | nil =>
        exact follows
    | cons entry entries inductionHypothesis =>
        exact inductionHypothesis (follows.quietly (quiet_dispose later entry.2))
  exact disposed run.session.registry cleared

/-- Taking an idle connection does no deed. -/
theorem follows_take
    (run : Run)
    (number : Nat)
    (idle : Nat → Nat) :
    Follows run (run.take number idle) 0 [] where
  opened := by simp [take, note, updatePool, Event.isOpening]
  server := rfl
  books := by rw [Session.books, origins_take]; rfl
  asked := by simp [take, note, updatePool, Event.asked?, Books.asked]

/-- Opening a connection uses up an opening, and does no deed. -/
theorem follows_opened
    (run : Run)
    (pool : Pool) :
    Follows run (run.opened pool) 1 [] where
  opened := by simp [opened, note, Event.isOpening]
  server := run.server.nextOpening_snd
  books := rfl
  asked := by simp [opened, note, Event.asked?, Books.asked]

/-- Handing out a connection of a pool opens at most one, during which another caller may evict the
pool; then a connection is handed out nevertheless. -/
theorem follows_connect
    {run : Run}
    {number : Nat}
    {source : DataSource}
    (origin : run.session.origins[number]? = some source)
    (alone : run.server.buildsAlone = true) :
    ∃ openings ≤ 1,
      Follows run (run.connect number).2 openings
          (replicate (run.server.evictions openings) (.removed source.id)) ∧
        ∀ failure,
          (run.connect number).1 = .error failure →
            run.server.evictions openings = 0 := by
  rw [Session.origins, getElem?_map] at origin
  obtain ⟨pool, found, rfl⟩ := Option.map_eq_some_iff.mp origin
  rw [connect_eq found]
  split
  · exact ⟨0, Nat.zero_le 1, follows_take .., fun failure refused => by cases refused⟩
  split
  · exact ⟨0, Nat.zero_le 1, .refl run, fun _ _ => rfl⟩
  have opened := run.follows_opened pool
  have taken := opened.trans (follows_take (run.opened pool) number id)
  refine ⟨1, Nat.le_refl 1, ?_⟩
  rw [openConnection_eq, Server.evictions_one]
  cases opening : run.server.nextOpening.1 with
  | fails message =>
      exact ⟨opened, fun _ _ => rfl⟩
  | succeeds =>
      exact ⟨taken, fun failure refused => by cases refused⟩
  | evicted =>
      exact ⟨taken.trans (follows_evict ..), fun failure refused => by cases refused⟩
  | replaced =>
      exact absurd opening (Server.nextOpening_ne_replaced alone)

/-! ## Which pools hand out connections -/

section

variable
  {run : Run}
  {number : Nat}

/-- Acquiring a pool hands no connection out. -/
theorem checkedOut_of_acquirePool
    {source : DataSource}
    (handedOut : .checkedOut number ∈ (run.acquirePool source).2.log) :
    .checkedOut number ∈ run.log := by
  rw [acquirePool_eq] at handedOut
  split at handedOut <;> simpa [register, note] using handedOut

/-- Removing a source from the registry hands no connection out. -/
theorem checkedOut_of_evict
    {id : SourceId}
    (handedOut : .checkedOut number ∈ (run.evict id).2.log) :
    .checkedOut number ∈ run.log := by
  rw [evict_eq] at handedOut
  split at handedOut
  · exact handedOut
  · have removed :=
      (quiet_dispose { run with session := run.session.without id } _).checkedOut handedOut
    exact removed

/-- What another caller does meanwhile hands no connection out. -/
theorem checkedOut_of_disturb
    {source : DataSource}
    {opening : Opening}
    (handedOut : .checkedOut number ∈ (run.disturb source opening).log) :
    .checkedOut number ∈ run.log := by
  cases opening with
  | succeeds | fails message =>
      exact handedOut
  | evicted =>
      exact checkedOut_of_evict handedOut
  | replaced =>
      exact checkedOut_of_evict (checkedOut_of_acquirePool handedOut)

/-- Connecting hands out a connection of the pool that was asked, and of no other. -/
theorem checkedOut_of_connect
    {other : Nat}
    (handedOut : .checkedOut other ∈ (run.connect number).2.log) :
    .checkedOut other ∈ run.log ∨ other = number := by
  have taken
      {start : Run}
      {idle : Nat → Nat}
      (handedOut : .checkedOut other ∈ (start.take number idle).log) :
      .checkedOut other ∈ start.log ∨ other = number := by
    rcases mem_append.mp handedOut with earlier | now
    · exact .inl earlier
    · rw [mem_singleton, Event.checkedOut.injEq] at now
      exact .inr now
  have opened
      {pool : Pool}
      (handedOut : .checkedOut other ∈ (run.opened pool).log) :
      .checkedOut other ∈ run.log := by
    simpa [Run.opened, note] using handedOut
  cases found : run.session.pools[number]? with
  | none =>
      rw [connect, found] at handedOut
      exact .inl handedOut
  | some pool =>
      rw [connect_eq found] at handedOut
      split at handedOut
      · exact taken handedOut
      split at handedOut
      · exact .inl handedOut
      rw [openConnection_eq] at handedOut
      split at handedOut
      · exact .inl (opened handedOut)
      · exact (taken (checkedOut_of_disturb handedOut)).imp_left opened

end

namespace Uses

variable
  {start run : Run}
  {number : Nat}
  {hand : List Connection}

/-- Connections are handed out of the pool that is used. -/
theorem eq_of_checkedOut
    {other : Nat}
    (used : Uses start number run hand)
    (handedOut : .checkedOut other ∈ run.log) :
    .checkedOut other ∈ start.log ∨ other = number := by
  induction used with
  | begun =>
      exact .inl handedOut
  | noted plain used inductionHypothesis =>
      exact inductionHypothesis ((quiet_notes _ plain).checkedOut handedOut)
  | connected used inductionHypothesis =>
      rcases checkedOut_of_connect handedOut with earlier | same
      · exact inductionHypothesis earlier
      · exact .inr same
  | givenBack used inductionHypothesis =>
      exact inductionHypothesis ((quiet_giveBack ..).checkedOut handedOut)
  | kept name used inductionHypothesis =>
      exact inductionHypothesis handedOut

/-- Using a pool does nothing to the books but what other callers do to them. -/
theorem follows
    {source : DataSource}
    (used : Uses start number run hand)
    (origin : start.session.origins[number]? = some source)
    (alone : start.server.buildsAlone = true) :
    ∃ openings,
      Follows start run openings
        (replicate (start.server.evictions openings) (.removed source.id)) := by
  induction used with
  | begun =>
      exact ⟨0, .refl start⟩
  | noted plain used inductionHypothesis =>
      obtain ⟨openings, follows⟩ := inductionHypothesis
      exact ⟨openings, follows.quietly (quiet_notes _ plain)⟩
  | @connected run hand used inductionHypothesis =>
      obtain ⟨openings, follows⟩ := inductionHypothesis
      have still : run.session.origins[number]? = some source := by
        have origins : run.session.origins = _ := congrArg Books.origins follows.books
        rw [origins, Books.origins_after_removed]
        exact origin
      obtain ⟨further, _, connecting, _⟩ := follows_connect still (follows.buildsAlone alone)
      have joined := follows.trans connecting
      rw [replicate_append_replicate, ← follows.evictions_add] at joined
      exact ⟨_, joined⟩
  | givenBack used inductionHypothesis =>
      obtain ⟨openings, follows⟩ := inductionHypothesis
      exact ⟨openings, follows.quietly (quiet_giveBack ..)⟩
  | kept name used inductionHypothesis =>
      obtain ⟨openings, follows⟩ := inductionHypothesis
      exact ⟨openings, follows.quietly (quiet_keep ..)⟩

end Uses

end Run

end QueryGateway
