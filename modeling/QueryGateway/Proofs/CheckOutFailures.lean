import QueryGateway.Proofs.PoolHistory
import QueryGateway.Proofs.RequestChecks

/-!
# Failures of a check-out

Whether a connection is handed out, and if not why not, depends on the pool that
is registered for the source and on what is foreseen for the openings.
-/

namespace QueryGateway

open List

/-- The statement that is sent, in a log. -/
def Event.statement? : Event → Option String
  | .executing statement => some statement
  | _ => none

/-- Whether an opening goes by without another caller. -/
def Opening.isCalm : Opening → Bool
  | .succeeds | .fails _ => true
  | .evicted | .replaced => false

namespace Run

/-! ## What a check-out leaves alone -/

/-- What no check-out changes: how a session is set up, what it holds, how the servers behave once
connections are open, and the statements that were sent. -/
def frame (run : Run) :
    Backend × PoolSettings × List (String × Connection) × Server × List String :=
  (run.session.backend, run.session.settings, run.session.held,
    { run.server with openings := [] }, run.log.filterMap Event.statement?)

/-- Logging an event that sends no statement keeps the frame. -/
theorem frame_note
    (run : Run)
    {event : Event}
    (unsent : event.statement? = none) :
    (run.note event).frame = run.frame := by
  simp only [frame, note, filterMap_append]
  rw [filterMap_cons_none unsent, filterMap_nil, append_nil]

/-- Taking an idle connection keeps the frame. -/
@[simp]
theorem frame_take
    (run : Run)
    (number : Nat)
    (idle : Nat → Nat) :
    (run.take number idle).frame = run.frame :=
  frame_note _ rfl

/-- Opening a connection keeps the frame. -/
@[simp]
theorem frame_opened
    (run : Run)
    (pool : Pool) :
    (run.opened pool).frame = run.frame := by
  have server :
      { run.server.nextOpening.2 with openings := [] } = { run.server with openings := [] } := by
    rw [Server.nextOpening]
    cases run.server.openings <;> rfl
  have noted : (run.note (.opening pool.origin.id)).frame = run.frame := frame_note _ rfl
  rw [← noted]
  simp only [frame, opened, server]
  rfl

/-- Acquiring a pool keeps the frame. -/
@[simp]
theorem frame_acquirePool
    (run : Run)
    (source : DataSource) :
    (run.acquirePool source).2.frame = run.frame := by
  have noted : (run.note (.building source.id)).frame = run.frame := frame_note _ rfl
  rw [acquirePool_eq]
  split
  · rfl
  · exact noted
  · exact noted

/-- Disposing of a pool keeps the frame. -/
@[simp]
theorem frame_dispose
    (run : Run)
    (number : Nat) :
    (run.dispose number).frame = run.frame := by
  rw [dispose]
  cases run.session.pools[number]? with
  | none =>
      rfl
  | some pool =>
      have unsent :
          (replicate pool.idle (Event.closing pool.origin.id)).filterMap Event.statement? = [] :=
        filterMap_eq_nil_iff.mpr fun event listed => by
          rw [(mem_replicate.mp listed).2]
          rfl
      simp only [frame, filterMap_append, unsent, append_nil]
      rw [filterMap_cons_none rfl, filterMap_nil, append_nil]
      rfl

/-- Removing a source from the registry keeps the frame. -/
@[simp]
theorem frame_evict
    (run : Run)
    (source : SourceId) :
    (run.evict source).2.frame = run.frame := by
  rw [evict_eq]
  cases run.session.registered? source with
  | none =>
      rfl
  | some number =>
      exact frame_dispose ..

/-- What another caller does meanwhile keeps the frame. -/
@[simp]
theorem frame_disturb
    (run : Run)
    (source : DataSource)
    (opening : Opening) :
    (run.disturb source opening).frame = run.frame := by
  cases opening with
  | succeeds | fails message =>
      rfl
  | evicted =>
      exact frame_evict ..
  | replaced =>
      exact (frame_acquirePool ..).trans (frame_evict ..)

/-- Asking a pool for a connection keeps the frame. -/
@[simp]
theorem frame_connect
    (run : Run)
    (number : Nat) :
    (run.connect number).2.frame = run.frame := by
  cases found : run.session.pools[number]? with
  | none =>
      rw [connect, found]
  | some pool =>
      have disturbed (opening : Opening) :
          (((run.opened pool).take number id).disturb pool.origin opening).frame = run.frame := by
        rw [frame_disturb, frame_take, frame_opened]
      rw [connect_eq found]
      split
      · exact frame_take ..
      · split
        · rfl
        · rw [openConnection_eq]
          cases run.server.nextOpening.1 with
          | fails message =>
              exact frame_opened ..
          | succeeds =>
              exact disturbed .succeeds
          | evicted =>
              exact disturbed .evicted
          | replaced =>
              exact disturbed .replaced

/-- Giving a connection back keeps the frame. -/
@[simp]
theorem frame_giveBack
    (run : Run)
    (connection : Connection) :
    (run.giveBack connection).frame = run.frame := by
  have noted (change : Pool → Pool) :
      ((run.updatePool connection.pool change).note (.returned connection.pool)).frame =
        run.frame :=
    frame_note _ rfl
  cases found : run.session.pools[connection.pool]? with
  | none =>
      rw [giveBack, found]
  | some pool =>
      rw [giveBack_eq found]
      split
      · exact noted _
      · split
        · exact noted _
        · exact (frame_note _ rfl).trans (noted _)

/-- Checking a connection out keeps the frame, whether it succeeds or not. -/
@[simp]
theorem frame_checkOut
    (run : Run)
    (source : DataSource) :
    (run.checkOut source).2.frame = run.frame := by
  refine checkOut_induction
    (motive := fun run outcome => outcome.2.frame = run.frame)
    ?unbuilt ?unconnected ?connected ?disturbed run
  case unbuilt =>
    intro run later failure acquired
    have kept := run.frame_acquirePool source
    rwa [acquired] at kept
  case unconnected =>
    intro run holding later number failure acquired refused
    have kept := run.frame_acquirePool source
    have connected := holding.frame_connect number
    rw [acquired] at kept
    rw [refused] at connected
    exact connected.trans kept
  case connected =>
    intro run holding later number connection acquired opened _
    have kept := run.frame_acquirePool source
    have connected := holding.frame_connect number
    rw [acquired] at kept
    rw [opened] at connected
    exact connected.trans kept
  case disturbed =>
    intro run holding later number connection outcome acquired opened _ _ inductionHypothesis
    have kept := run.frame_acquirePool source
    have connected := holding.frame_connect number
    rw [acquired] at kept
    rw [opened] at connected
    rw [inductionHypothesis, frame_dispose, frame_giveBack]
    exact connected.trans kept

end Run

/-! ## Why there is no connection -/

/-- Why no connection is opened, if none is.  An opening that another caller disturbs is followed by
one on a new pool, unless there is an obstacle to that. -/
def openingFailure? (obstacle : Option CheckOutFailure) (connectError : Option String) :
    List Opening → Option CheckOutFailure
  | [] => connectError.map fun message => .connect (.refused message)
  | .succeeds :: _ => none
  | .fails message :: _ => some (.connect (.refused message))
  | .evicted :: rest | .replaced :: rest =>
      obstacle.or (openingFailure? obstacle connectError rest)

namespace Session

/-- The failure of a pool whose connections are all out. -/
def exhaustion (session : Session) : ConnectFailure :=
  .exhausted session.settings.maxSize session.settings.connectTimeout
    session.backend.exhaustionNote

/-- What stands in the way of opening a connection of a new pool. -/
def obstacle? (session : Session) (server : Server) : Option CheckOutFailure :=
  match server.factoryError with
  | some failure => some (.build failure)
  | none =>
      if session.backend.keepsIdle = true ∧ session.settings.maxSize = 0 then
        some (.connect session.exhaustion)
      else
        none

/-- Why a pool hands out no connection, if it hands out none. -/
def poolFailure? (session : Session) (server : Server) (pool : Pool) : Option CheckOutFailure :=
  if session.backend.keepsIdle = true ∧ 0 < pool.idle then
    none
  else if session.backend.keepsIdle = true ∧ session.settings.maxSize ≤ pool.out then
    some (.connect session.exhaustion)
  else
    openingFailure? (session.obstacle? server) server.connectError server.openings

/-- Why no connection to a source is handed out, if none is. -/
def checkOutFailure? (session : Session) (server : Server) (source : DataSource) :
    Option CheckOutFailure :=
  match (session.registered? source.id).bind (session.pools[·]?) with
  | some pool => session.poolFailure? server pool
  | none =>
      (session.obstacle? server).or
        (openingFailure? (session.obstacle? server) server.connectError server.openings)

/-- A fresh pool fails at an obstacle, or at the first opening that fails. -/
theorem poolFailure?_fresh
    (session : Session)
    {server : Server}
    (buildable : server.factoryError = none)
    (origin : DataSource) :
    session.poolFailure? server (.fresh origin) =
      (session.obstacle? server).or
        (openingFailure? (session.obstacle? server) server.connectError
          server.openings) := by
  have empty : ¬ (session.backend.keepsIdle = true ∧ 0 < (Pool.fresh origin).idle) :=
    fun idle => Nat.lt_irrefl 0 idle.2
  have full :
      (session.backend.keepsIdle = true ∧ session.settings.maxSize ≤ (Pool.fresh origin).out) ↔
        (session.backend.keepsIdle = true ∧ session.settings.maxSize = 0) :=
    and_congr_right fun _ => Nat.le_zero
  rw [poolFailure?, if_neg empty, obstacle?, buildable]
  dsimp only
  by_cases exhausted : session.backend.keepsIdle = true ∧ session.settings.maxSize = 0
  · rw [if_pos (full.mpr exhausted), if_pos exhausted, Option.some_or]
  · rw [if_neg (mt full.mp exhausted), if_neg exhausted, Option.none_or]

end Session

namespace Run

/-- Removing a source from the registry takes out its entries only. -/
theorem registry_evict
    (run : Run)
    (id : SourceId) :
    (run.evict id).2.session.registry =
      run.session.registry.filter fun entry => entry.1 ≠ id :=
  congrArg Books.registry (run.follows_evict id).books

/-- Disposing of a pool leaves the other pools alone. -/
theorem pools_dispose_of_ne
    (run : Run)
    {number other : Nat}
    (different : number ≠ other) :
    (run.dispose number).session.pools[other]? = run.session.pools[other]? := by
  rw [dispose]
  cases run.session.pools[number]? with
  | none =>
      rfl
  | some pool =>
      exact getElem?_modify_ne _ _ different

/-- Giving a connection back leaves the other pools alone. -/
theorem pools_giveBack_of_ne
    (run : Run)
    {connection : Connection}
    {other : Nat}
    (different : connection.pool ≠ other) :
    (run.giveBack connection).session.pools[other]? = run.session.pools[other]? := by
  cases found : run.session.pools[connection.pool]? with
  | none =>
      rw [giveBack, found]
  | some pool =>
      rw [giveBack_eq found]
      split
      · exact getElem?_modify_ne _ _ different
      · split <;> exact getElem?_modify_ne _ _ different

section

variable
  {run other : Run}
  (same : run.frame = other.frame)

include same

/-- Runs of one frame build pools alike. -/
theorem factoryError_of_frame :
    run.server.factoryError = other.server.factoryError :=
  congrArg (fun frame => frame.2.2.2.1.factoryError) same

/-- Runs of one frame meet the same obstacle. -/
theorem obstacle?_of_frame :
    run.session.obstacle? run.server = other.session.obstacle? other.server := by
  have backend : run.session.backend = other.session.backend :=
    congrArg (fun frame => frame.1) same
  have settings : run.session.settings = other.session.settings :=
    congrArg (fun frame => frame.2.1) same
  rw [Session.obstacle?, Session.obstacle?, Session.exhaustion, Session.exhaustion,
    factoryError_of_frame same, backend, settings]

/-- Runs of one frame and with the same openings ahead fail alike in a pool. -/
theorem poolFailure?_of_frame
    (openings : run.server.openings = other.server.openings)
    (pool : Pool) :
    run.session.poolFailure? run.server pool =
      other.session.poolFailure? other.server pool := by
  have backend : run.session.backend = other.session.backend :=
    congrArg (fun frame => frame.1) same
  have settings : run.session.settings = other.session.settings :=
    congrArg (fun frame => frame.2.1) same
  have connectError : run.server.connectError = other.server.connectError :=
    congrArg (fun frame => frame.2.2.2.1.connectError) same
  rw [Session.poolFailure?, Session.poolFailure?, Session.exhaustion, Session.exhaustion,
    obstacle?_of_frame same, backend, settings, connectError, openings]

end

/-- The pool of a source, acquired, fails in the way in which a check-out of the source fails. -/
theorem checkOutFailure?_of_acquired
    {run holding : Run}
    {source : DataSource}
    {number : Nat}
    (known :
      ∀ number,
        run.session.registered? source.id = some number →
          ∃ pool, run.session.pools[number]? = some pool ∧ pool.origin.id = source.id)
    (acquired : run.acquirePool source = (.ok number, holding)) :
    ∃ pool,
      holding.session.pools[number]? = some pool ∧
        pool.origin.id = source.id ∧
        run.session.checkOutFailure? run.server source =
          holding.session.poolFailure? holding.server pool := by
  have sameFrame := run.frame_acquirePool source
  have sameServer := run.server_acquirePool source
  rw [acquired] at sameFrame sameServer
  rw [acquirePool_eq] at acquired
  rw [Session.checkOutFailure?]
  cases registered : run.session.registered? source.id with
  | some found =>
      simp only [registered, Prod.mk.injEq, Except.ok.injEq] at acquired
      obtain ⟨rfl, rfl⟩ := acquired
      obtain ⟨pool, listed, own⟩ := known found registered
      refine ⟨pool, listed, own, ?_⟩
      rw [Option.bind_some, listed]
  | none =>
      cases buildable : run.server.factoryError with
      | some failure =>
          simp [registered, buildable] at acquired
      | none =>
          simp only [registered, buildable, Prod.mk.injEq, Except.ok.injEq] at acquired
          obtain ⟨rfl, shape⟩ := acquired
          refine ⟨.fresh source, ?_, rfl, ?_⟩
          · rw [← shape]
            simp [register, Session.withPool]
          · have openings : holding.server.openings = run.server.openings :=
              congrArg Server.openings sameServer
            rw [poolFailure?_of_frame sameFrame openings, Session.poolFailure?_fresh _ buildable]
            rfl

/-- A pool that cannot be built fails the check-out for that reason. -/
theorem checkOutFailure?_of_unbuilt
    {run later : Run}
    {source : DataSource}
    {failure : ServerFailure}
    (acquired : run.acquirePool source = (.error failure, later)) :
    run.session.checkOutFailure? run.server source = some (.build failure) := by
  rw [acquirePool_eq] at acquired
  rw [Session.checkOutFailure?, Session.obstacle?]
  cases registered : run.session.registered? source.id with
  | some number =>
      simp [registered] at acquired
  | none =>
      cases buildable : run.server.factoryError with
      | some other =>
          simp only [registered, buildable, Prod.mk.injEq, Except.error.injEq] at acquired
          rw [acquired.1]
          rfl
      | none =>
          simp [registered, buildable] at acquired

/-- A run in which another caller has evicted the pool of a connection that was being opened, and
the connection is gone. -/
def afterRace (run : Run) (number : Nat) (pool : Pool) (opening : Opening) : Run :=
  ((((run.opened pool).take number id).disturb pool.origin opening).giveBack
    ⟨number, pool.generation⟩).dispose number

/-- What happens in a race keeps the frame. -/
theorem frame_afterRace
    (run : Run)
    (number : Nat)
    (pool : Pool)
    (opening : Opening) :
    (run.afterRace number pool opening).frame = run.frame := by
  rw [afterRace, frame_dispose, frame_giveBack, frame_disturb, frame_take, frame_opened]

/-- A race uses up one opening. -/
theorem openings_afterRace
    (run : Run)
    (number : Nat)
    (pool : Pool)
    (opening : Opening) :
    (run.afterRace number pool opening).server.openings = run.server.openings.tail := by
  rw [afterRace, server_dispose, server_giveBack, server_disturb]
  rw [opened, Server.nextOpening_snd, drop_one]
  rfl

/-- After a race there is no pool registered for the source, or a new one. -/
theorem registered?_afterRace
    {run : Run}
    {number : Nat}
    {pool : Pool}
    {opening : Opening}
    {source : DataSource}
    (known : number < run.session.origins.length)
    (own : pool.origin.id = source.id)
    (raced : opening.isCalm = false) :
    (run.afterRace number pool opening).session.registered? source.id = none ∨
      run.server.factoryError = none ∧
        ∃ other,
          other ≠ number ∧
            (run.afterRace number pool opening).session.registered? source.id = some other ∧
            (run.afterRace number pool opening).session.pools[other]? =
              some (.fresh pool.origin) := by
  generalize taken : (run.opened pool).take number id = lent
  have shape :
      run.afterRace number pool opening =
        ((lent.disturb pool.origin opening).giveBack ⟨number, pool.generation⟩).dispose
          number := by
    rw [afterRace, taken]
  have frame : (lent.evict source.id).2.frame = run.frame := by
    rw [frame_evict, ← taken, frame_take, frame_opened]
  have origins : (lent.evict source.id).2.session.origins = run.session.origins := by
    have evicted := congrArg Books.origins (lent.follows_evict source.id).books
    rw [← taken] at evicted ⊢
    exact evicted.trans (origins_take ..)
  have absent : (lent.evict source.id).2.session.registered? source.id = none := by
    rw [Session.registered?, registry_evict, Books.lookup_without, if_pos rfl]
  have registered (id : SourceId) :
      (run.afterRace number pool opening).session.registered? id =
        (lent.disturb pool.origin opening).session.registered? id := by
    rw [shape, Session.registered?, registry_dispose, registry_giveBack]
    rfl
  cases opening with
  | succeeds | fails message =>
      cases raced
  | evicted =>
      left
      rw [registered, disturb, own, absent]
  | replaced =>
      have buildable := factoryError_of_frame frame
      generalize evicted : (lent.evict source.id).2 = empty at origins absent buildable
      have replaced :
          lent.disturb pool.origin .replaced = (empty.acquirePool pool.origin).2 := by
        rw [disturb, own, evicted]
      rw [acquirePool_eq, own, absent, buildable] at replaced
      cases built : run.server.factoryError with
      | some failure =>
          left
          rw [built] at replaced
          rw [registered, replaced]
          exact absent
      | none =>
          right
          rw [built] at replaced
          have count : empty.session.pools.length = run.session.origins.length := by
            rw [← origins, Session.length_origins]
          have different : number ≠ empty.session.pools.length := by
            rw [count]
            exact Nat.ne_of_lt known
          refine ⟨rfl, empty.session.pools.length, different.symm, ?_, ?_⟩
          · rw [registered, replaced]
            have none := absent
            rw [Session.registered?] at none
            simp [register, Session.registered?, Session.withPool, lookup_append, none]
          · rw [shape, pools_dispose_of_ne _ different, pools_giveBack_of_ne _ different, replaced]
            simp [register, Session.withPool]

/-- A check-out after a race goes on with a new pool, if there is no obstacle. -/
theorem checkOutFailure?_afterRace
    {run : Run}
    {number : Nat}
    {pool : Pool}
    {opening : Opening}
    {source : DataSource}
    (known : number < run.session.origins.length)
    (own : pool.origin.id = source.id)
    (raced : opening.isCalm = false) :
    (run.afterRace number pool opening).session.checkOutFailure?
        (run.afterRace number pool opening).server source =
      (run.session.obstacle? run.server).or
        (openingFailure? (run.session.obstacle? run.server) run.server.connectError
          run.server.openings.tail) := by
  have cases := registered?_afterRace known own raced
  have frame := run.frame_afterRace number pool opening
  have openings := run.openings_afterRace number pool opening
  generalize run.afterRace number pool opening = later at cases frame openings
  have obstacle := obstacle?_of_frame frame
  have connectError : later.server.connectError = run.server.connectError :=
    congrArg (fun frame => frame.2.2.2.1.connectError) frame
  rw [← obstacle, ← connectError, ← openings, Session.checkOutFailure?]
  rcases cases with absent | ⟨buildable, other, _, registered, fresh⟩
  · rw [absent]
    rfl
  · rw [registered, Option.bind_some, fresh]
    rw [← factoryError_of_frame frame] at buildable
    exact later.session.poolFailure?_fresh buildable pool.origin

/-- The first opening decides, unless another caller got in between. -/
theorem openingFailure?_eq
    (obstacle : Option CheckOutFailure)
    (server : Server) :
    openingFailure? obstacle server.connectError server.openings =
      match server.nextOpening.1 with
      | .fails message => some (.connect (.refused message))
      | .succeeds => none
      | .evicted | .replaced =>
          obstacle.or (openingFailure? obstacle server.connectError server.openings.tail) := by
  rw [Server.nextOpening]
  cases server.openings with
  | nil =>
      cases server.connectError <;> rfl
  | cons opening rest =>
      cases opening <;> rfl

/-- A race leaves no pool registered under the number that was used. -/
theorem registered?_disturb_ne
    {run : Run}
    {number : Nat}
    {pool : Pool}
    {opening : Opening}
    {source : DataSource}
    (known : number < run.session.origins.length)
    (own : pool.origin.id = source.id)
    (raced : opening.isCalm = false) :
    (((run.opened pool).take number id).disturb pool.origin opening).session.registered?
        source.id ≠ some number := by
  have cases := registered?_afterRace known own raced
  rw [afterRace, Session.registered?, registry_dispose, registry_giveBack] at cases
  intro registered
  rcases cases with absent | ⟨_, other, different, again, _⟩
  · cases registered.symm.trans absent
  · exact different (Option.some.inj (again.symm.trans registered))

/-- One round of a check-out from a pool. -/
theorem checkOut_round
    {run holding : Run}
    {source : DataSource}
    {number : Nat}
    {pool : Pool}
    (acquired : run.acquirePool source = (.ok number, holding))
    (found : holding.session.pools[number]? = some pool)
    (own : pool.origin.id = source.id) :
    errorOf? (run.checkOut source).1 =
      if holding.session.backend.keepsIdle = true ∧ 0 < pool.idle then
        none
      else if holding.session.backend.keepsIdle = true ∧
          holding.session.settings.maxSize ≤ pool.out then
        some (.connect holding.session.exhaustion)
      else
        match holding.server.nextOpening.1 with
        | .fails message => some (.connect (.refused message))
        | .succeeds => none
        | opening =>
            errorOf? ((holding.afterRace number pool opening).checkOut source).1 := by
  have registered := registered?_acquirePool acquired
  have known : number < holding.session.origins.length := by
    rw [Session.length_origins]
    exact (List.getElem?_eq_some_iff.mp found).1
  rw [checkOut_eq, acquired]
  dsimp only
  rw [connect_eq found]
  by_cases idle : holding.session.backend.keepsIdle = true ∧ 0 < pool.idle
  · have still :
        (holding.take number (· - 1)).session.registered? source.id = some number := registered
    rw [if_pos idle, if_pos idle]
    dsimp only
    rw [if_pos still]
    rfl
  · rw [if_neg idle, if_neg idle]
    by_cases full :
        holding.session.backend.keepsIdle = true ∧
          holding.session.settings.maxSize ≤ pool.out
    · rw [if_pos full, if_pos full]
      rfl
    · rw [if_neg full, if_neg full, openConnection_eq]
      cases holding.server.nextOpening.1 with
      | fails message =>
          rfl
      | succeeds =>
          have still :
              (((holding.opened pool).take number id).disturb pool.origin
                .succeeds).session.registered? source.id = some number := registered
          dsimp only
          rw [if_pos still]
          rfl
      | evicted =>
          dsimp only
          rw [if_neg (registered?_disturb_ne known own rfl)]
          rfl
      | replaced =>
          dsimp only
          rw [if_neg (registered?_disturb_ne known own rfl)]
          rfl

/-- A race uses up what was foreseen for it. -/
theorem length_openings_afterRace
    {run : Run}
    (number : Nat)
    (pool : Pool)
    (raced : run.server.nextOpening.1.isCalm = false) :
    (run.afterRace number pool run.server.nextOpening.1).server.openings.length <
      run.server.openings.length := by
  rw [openings_afterRace, length_tail]
  cases foreseen : run.server.openings with
  | nil =>
      rw [Server.nextOpening, foreseen] at raced
      cases error : run.server.connectError <;> rw [error] at raced <;> cases raced
  | cons opening rest =>
      exact Nat.lt_succ_self _

/-- Whether a connection is handed out, and why not, depends on the registered pool and on what is
foreseen. -/
theorem errorOf?_checkOut
    {run : Run}
    {source : DataSource}
    (known :
      ∀ number,
        run.session.registered? source.id = some number →
          ∃ pool, run.session.pools[number]? = some pool ∧ pool.origin.id = source.id) :
    errorOf? (run.checkOut source).1 = run.session.checkOutFailure? run.server source := by
  induction rounds : run.server.openings.length using Nat.strongRecOn generalizing run with
  | ind rounds inductionHypothesis =>
      cases acquired : run.acquirePool source with
      | mk outcome holding =>
          cases outcome with
          | error failure =>
              rw [checkOutFailure?_of_unbuilt acquired, checkOut_eq, acquired]
              rfl
          | ok number =>
              obtain ⟨pool, found, own, failure⟩ := checkOutFailure?_of_acquired known acquired
              have inside : number < holding.session.origins.length := by
                rw [Session.length_origins]
                exact (List.getElem?_eq_some_iff.mp found).1
              have sameServer := run.server_acquirePool source
              rw [acquired] at sameServer
              -- A race leaves fewer openings to be foreseen.
              have further
                  (raced : holding.server.nextOpening.1.isCalm = false) :
                  errorOf?
                      ((holding.afterRace number pool holding.server.nextOpening.1).checkOut
                        source).1 =
                    (holding.session.obstacle? holding.server).or
                      (openingFailure? (holding.session.obstacle? holding.server)
                        holding.server.connectError holding.server.openings.tail) := by
                rw [← checkOutFailure?_afterRace inside own raced]
                refine inductionHypothesis _ ?_ ?_ rfl
                · rw [← rounds, ← sameServer]
                  exact length_openings_afterRace number pool raced
                · intro other registered
                  rcases registered?_afterRace inside own raced with
                    absent | ⟨_, fresh, _, again, listed⟩
                  · cases registered.symm.trans absent
                  · rw [registered, Option.some.injEq] at again
                    exact ⟨.fresh pool.origin, again ▸ listed, own⟩
              rw [failure, checkOut_round acquired found own, Session.poolFailure?,
                openingFailure?_eq]
              cases opening : holding.server.nextOpening.1 with
              | succeeds | fails message =>
                  rfl
              | evicted | replaced =>
                  rw [opening] at further
                  dsimp only
                  rw [further rfl]

end Run

end QueryGateway
