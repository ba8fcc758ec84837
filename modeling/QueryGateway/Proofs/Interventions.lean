import QueryGateway.Proofs.CheckOutFailures
import QueryGateway.Proofs.ConnectionBalance
import QueryGateway.Session.Intervention

/-!
# Check-outs that others interfere with

Whatever other callers do while a pool is asked for a connection, a check-out
hands out a connection of the pool that is registered by then.  A pool that was
tried before is not registered any more, its connection went back, and the pool
was disposed of after that.
-/

namespace QueryGateway

open List

/-! ## Connections in a log -/

/-- Whether an event hands a connection out or takes one back. -/
def Event.isMove : Event → Bool
  | .checkedOut _ | .returned _ => true
  | _ => false

/-- What a log tells about connections that were handed out and taken back. -/
def moves (events : List Event) : List Event :=
  events.filter Event.isMove

/-- The moves of two stretches of a log follow each other. -/
@[simp]
theorem moves_append
    (events more : List Event) :
    moves (events ++ more) = moves events ++ moves more :=
  filter_append ..

/-- A round of a check-out that was given up: one connection was handed out, it went back, and the
pool was disposed of after that. -/
structure GivenUp
    (number : Nat)
    (events : List Event) :
    Prop where
  moves : moves events = [.checkedOut number, .returned number]
  disposed :
    ∃ before behind,
      events = before ++ .returned number :: behind ∧ .disposed number ∈ behind

namespace Run

/-! ## What leads from one run to another -/

/-- A later run, after some events.  What is held stays the same, and a pool that is out of use
stays so. -/
structure Leads
    (run later : Run)
    (events : List Event) :
    Prop where
  log : later.log = run.log ++ events
  held : later.session.held = run.session.held
  origins : run.session.origins <+: later.session.origins
  offers : ∀ number, later.session.Offers number → run.session.Offers number

namespace Leads

variable
  {run later latest : Run}
  {events more : List Event}

/-- A run leads to itself without an event. -/
theorem refl
    (run : Run) :
    Leads run run [] where
  log := (append_nil _).symm
  held := rfl
  origins := prefix_rfl
  offers _ := id

/-- What two stretches log is logged one after the other. -/
theorem trans
    (first : Leads run later events)
    (second : Leads later latest more) :
    Leads run latest (events ++ more) where
  log := by rw [second.log, first.log, append_assoc]
  held := second.held.trans first.held
  origins := first.origins.trans second.origins
  offers number := first.offers number ∘ second.offers number

/-- Events that leave the books alone. -/
theorem of_books
    (log : later.log = run.log ++ events)
    (held : later.session.held = run.session.held)
    (books : later.session.books = run.session.books) :
    Leads run later events := by
  have registry : later.session.registry = run.session.registry := congrArg Books.registry books
  have origins : later.session.origins = run.session.origins := congrArg Books.origins books
  refine ⟨log, held, origins ▸ prefix_rfl, fun number offered => ?_⟩
  rwa [Session.Offers, registry, ← Session.length_origins, origins, Session.length_origins]
    at offered

end Leads

/-- A later run.  No connection was handed out or taken back meanwhile. -/
def LeadsStill (run later : Run) : Prop :=
  ∃ events, Leads run later events ∧ moves events = []

namespace LeadsStill

/-- A run leads to itself without a move. -/
theorem refl
    (run : Run) :
    LeadsStill run run :=
  ⟨[], .refl run, rfl⟩

/-- Two stretches without a move make one. -/
theorem trans
    {run later latest : Run}
    (first : LeadsStill run later)
    (second : LeadsStill later latest) :
    LeadsStill run latest := by
  obtain ⟨events, led, still⟩ := first
  obtain ⟨more, ledOn, stillThen⟩ := second
  exact ⟨events ++ more, led.trans ledOn, by rw [moves_append, still, stillThen, append_nil]⟩

end LeadsStill

/-- Logging an event logs just that event. -/
theorem leads_note
    (run : Run)
    (event : Event) :
    Leads run (run.note event) [event] :=
  .of_books rfl rfl rfl

/-- Taking an idle connection hands it out. -/
theorem leads_take
    (run : Run)
    (number : Nat)
    (idle : Nat → Nat) :
    Leads run (run.take number idle) [.checkedOut number] :=
  .of_books rfl rfl (by rw [Session.books, origins_take]; rfl)

/-- Opening a connection logs the opening. -/
theorem leads_opened
    (run : Run)
    (pool : Pool) :
    Leads run (run.opened pool) [.opening pool.origin.id] :=
  .of_books rfl rfl rfl

/-- Disposing of a pool moves no connection, and a pool that exists is logged as disposed. -/
theorem leads_dispose
    (run : Run)
    (number : Nat) :
    ∃ events,
      Leads run (run.dispose number) events ∧
        moves events = [] ∧
        (number < run.session.origins.length → .disposed number ∈ events) := by
  have books : (run.dispose number).session.books = run.session.books :=
    (quiet_dispose run number).books
  have held : (run.dispose number).session.held = run.session.held :=
    congrArg (fun frame => frame.2.2.1) (run.frame_dispose number)
  cases found : run.session.pools[number]? with
  | none =>
      refine ⟨[], .of_books ?_ held books, rfl, fun known => ?_⟩
      · rw [dispose, found, append_nil]
      · rw [Session.length_origins] at known
        rw [List.getElem?_eq_getElem known] at found
        cases found
  | some pool =>
      refine ⟨replicate pool.idle (.closing pool.origin.id) ++ [.disposed number],
        .of_books ?_ held books, ?_, fun _ => by simp⟩
      · rw [dispose, found]
        exact append_assoc ..
      · refine filter_eq_nil_iff.mpr fun event listed => ?_
        rcases mem_append.mp listed with closed | last
        · rw [(mem_replicate.mp closed).2]
          exact Bool.false_ne_true
        · rw [mem_singleton.mp last]
          exact Bool.false_ne_true

/-- A connection that is given back is logged as returned before anything else moves. -/
theorem leads_giveBack
    {run : Run}
    {connection : Connection}
    (known : connection.pool < run.session.origins.length) :
    ∃ behind,
      Leads run (run.giveBack connection) (.returned connection.pool :: behind) ∧
        moves behind = [] := by
  have books : (run.giveBack connection).session.books = run.session.books :=
    (quiet_giveBack run connection).books
  have held : (run.giveBack connection).session.held = run.session.held :=
    congrArg (fun frame => frame.2.2.1) (run.frame_giveBack connection)
  rw [Session.length_origins] at known
  have found := List.getElem?_eq_getElem known
  by_cases closes :
      ¬ connection.generation < run.session.pools[connection.pool].generation ∧
        ¬ run.session.backend.keepsIdle = true
  · refine ⟨[.closing run.session.pools[connection.pool].origin.id],
      .of_books ?_ held books, rfl⟩
    rw [giveBack_eq found, if_neg closes.1, if_neg closes.2]
    exact append_assoc ..
  · refine ⟨[], .of_books ?_ held books, rfl⟩
    rw [giveBack_eq found]
    split
    · rfl
    · rename_i current
      rw [if_pos (by_contra fun notKept => closes ⟨current, notKept⟩)]
      rfl

/-- Acquiring a pool moves no connection. -/
theorem leadsStill_acquirePool
    (run : Run)
    (source : DataSource) :
    LeadsStill run (run.acquirePool source).2 := by
  rw [acquirePool_eq]
  cases run.session.registered? source.id with
  | some number =>
      exact .refl run
  | none =>
      cases run.server.factoryError with
      | some failure =>
          exact ⟨_, leads_note run (.building source.id), rfl⟩
      | none =>
          refine ⟨[.building source.id], ⟨rfl, rfl, ?_, fun number offered => ?_⟩, rfl⟩
          · rw [origins_register]
            exact Session.origins_withPool run.session source ▸ prefix_append ..
          · rcases offered with registered | beyond
            · rw [register, map_append, mem_append] at registered
              rcases registered with earlier | last
              · exact .inl earlier
              · exact .inr (Nat.le_of_eq (mem_singleton.mp last).symm)
            · refine .inr (Nat.le_trans ?_ beyond)
              exact (length_append ▸ Nat.le_add_right ..)

/-- Removing a source from the registry moves no connection. -/
theorem leadsStill_evict
    (run : Run)
    (source : SourceId) :
    LeadsStill run (run.evict source).2 := by
  rw [evict_eq]
  cases run.session.registered? source with
  | none =>
      exact .refl run
  | some number =>
      have removed : Leads run { run with session := run.session.without source } [] :=
        { log := (append_nil _).symm
          held := rfl
          origins := prefix_rfl
          offers := fun _ =>
            Or.imp_left fun registered => (filter_sublist.map Prod.snd).subset registered }
      obtain ⟨events, disposed, still, _⟩ := leads_dispose _ number
      exact ⟨events, removed.trans disposed, still⟩

/-- What another caller does meanwhile moves no connection. -/
theorem leadsStill_disturb
    (run : Run)
    (source : DataSource)
    (opening : Opening) :
    LeadsStill run (run.disturb source opening) := by
  cases opening with
  | succeeds | fails message =>
      exact .refl run
  | evicted =>
      exact leadsStill_evict ..
  | replaced =>
      exact (run.leadsStill_evict source.id).trans (leadsStill_acquirePool _ source)

/-- What comes of asking a pool for a connection: nothing, or one of its connections. -/
structure HandsOut
    (run : Run)
    (number : Nat)
    (outcome : Except ConnectFailure Connection × Run) :
    Prop where
  own : ∀ connection, outcome.1 = .ok connection → connection.pool = number
  leads :
    ∃ events,
      Leads run outcome.2 events ∧
        moves events = outcome.1.toOption.toList.map fun connection => .checkedOut connection.pool

namespace HandsOut

variable
  {run later : Run}
  {number : Nat}
  {events : List Event}

/-- A call that fails hands nothing out. -/
theorem refused
    {failure : ConnectFailure}
    (led : Leads run later events)
    (still : moves events = []) :
    HandsOut run number (.error failure, later) where
  own _ same := nomatch same
  leads := ⟨events, led, still⟩

/-- A call that succeeds hands out a connection of its own pool. -/
theorem handed
    {generation : Nat}
    (led : Leads run later events)
    (moved : moves events = [.checkedOut number]) :
    HandsOut run number (.ok ⟨number, generation⟩, later) where
  own _ same := by cases same; rfl
  leads := ⟨events, led, moved⟩

/-- What happens before a pool is asked for a connection hands none out. -/
theorem after
    {outcome : Except ConnectFailure Connection × Run}
    (before : LeadsStill run later)
    (hands : HandsOut later number outcome) :
    HandsOut run number outcome := by
  obtain ⟨events, led, still⟩ := before
  obtain ⟨own, more, ledOn, moved⟩ := hands
  exact ⟨own, events ++ more, led.trans ledOn, by rw [moves_append, still, moved, nil_append]⟩

/-- What happens after a pool was asked for a connection hands no other one out. -/
theorem before
    {outcome : Except ConnectFailure Connection × Run}
    (hands : HandsOut run number outcome)
    (after : LeadsStill outcome.2 later) :
    HandsOut run number (outcome.1, later) := by
  obtain ⟨own, events, led, moved⟩ := hands
  obtain ⟨more, ledOn, still⟩ := after
  exact ⟨own, events ++ more, led.trans ledOn, by rw [moves_append, still, moved, append_nil]⟩

end HandsOut

/-- Opening a connection hands it out, or fails without a move. -/
theorem handsOut_openConnection
    (run : Run)
    (number : Nat)
    (pool : Pool) :
    HandsOut run number (run.openConnection number pool) := by
  have opened := run.leads_opened pool
  have taken
      (opening : Opening) :
      HandsOut run number
        (.ok ⟨number, pool.generation⟩,
          ((run.opened pool).take number id).disturb pool.origin opening) :=
    (HandsOut.handed (opened.trans (leads_take _ number id)) rfl).before
      (leadsStill_disturb _ pool.origin opening)
  rw [openConnection_eq]
  cases run.server.nextOpening.1 with
  | fails message =>
      exact .refused opened rfl
  | succeeds =>
      exact taken .succeeds
  | evicted =>
      exact taken .evicted
  | replaced =>
      exact taken .replaced

/-- Connecting hands a connection of the pool out, or fails without a move. -/
theorem handsOut_connect
    (run : Run)
    (number : Nat) :
    HandsOut run number (run.connect number) := by
  cases found : run.session.pools[number]? with
  | none =>
      rw [connect, found]
      exact .refused (.refl run) rfl
  | some pool =>
      rw [connect_eq found]
      split
      · exact .handed (leads_take run number _) rfl
      · split
        · exact .refused (.refl run) rfl
        · exact handsOut_openConnection run number pool

/-- Whatever others do meanwhile, the call's own connections stay. -/
theorem leadsStill_intervene
    (run : Run)
    (interventions : List Intervention) :
    LeadsStill run (interventions.foldl intervene run) := by
  induction interventions generalizing run with
  | nil =>
      exact .refl run
  | cons intervention rest inductionHypothesis =>
      refine LeadsStill.trans ?_ (inductionHypothesis (run.intervene intervention))
      cases intervention with
      | evicts source => exact leadsStill_evict run source
      | acquires source => exact leadsStill_acquirePool run source

/-- Connecting amid others hands a connection of the pool out, or fails without a move. -/
theorem handsOut_connectAmid
    (run : Run)
    (number : Nat)
    (call : Call) :
    HandsOut run number (run.connectAmid number call) := by
  have before := run.leadsStill_intervene call.before
  rw [connectAmid]
  cases call.failure with
  | some failure =>
      obtain ⟨events, led, still⟩ := before
      exact .refused led still
  | none =>
      exact ((handsOut_connect _ number).after before).before
        (leadsStill_intervene _ call.after)

/-- A pool that was acquired is asked for a connection. -/
theorem handsOut_acquired
    {run holding : Run}
    {source : DataSource}
    {number : Nat}
    (acquired : run.acquirePool source = (.ok number, holding))
    (call : Call) :
    HandsOut run number (holding.connectAmid number call) := by
  have acquiring := run.leadsStill_acquirePool source
  rw [acquired] at acquiring
  exact (handsOut_connectAmid holding number call).after acquiring

/-! ## Rounds amid other callers -/

/-- A call that nobody disturbs is the plain one. -/
theorem connectAmid_undisturbed
    (run : Run)
    (number : Nat) :
    run.connectAmid number .undisturbed = run.connect number := by
  rfl

/-- Without other callers a check-out is an ordinary one. -/
theorem checkOutAmid_undisturbed
    (source : DataSource)
    (calls : Nat)
    (run : Run) :
    run.checkOutAmid source (replicate calls .undisturbed) = run.checkOut source := by
  induction calls generalizing run with
  | zero =>
      rfl
  | succ calls inductionHypothesis =>
      rw [replicate_succ, checkOutAmid, checkOut_eq]
      obtain ⟨failure | number, holding⟩ := run.acquirePool source
      · rfl
      · dsimp only
        rw [connectAmid_undisturbed]
        obtain ⟨failure | connection, later⟩ := holding.connect number
        · rfl
        · dsimp only
          rw [inductionHypothesis]

/-- What holds of a check-out that ends in its first round, and of one that goes on if it holds of
the rest, holds of every check-out amid other callers. -/
theorem checkOutAmid_induction
    {source : DataSource}
    {motive : Run → Except CheckOutFailure Connection × Run → Prop}
    (unbuilt :
      ∀ {run later failure},
        run.acquirePool source = (.error failure, later) →
        motive run (.error (.build failure), later))
    (unconnected :
      ∀ {run holding later number call failure},
        run.acquirePool source = (.ok number, holding) →
        holding.connectAmid number call = (.error failure, later) →
        motive run (.error (.connect failure), later))
    (connected :
      ∀ {run holding later number call connection},
        run.acquirePool source = (.ok number, holding) →
        holding.connectAmid number call = (.ok connection, later) →
        later.session.registered? source.id = some number →
        motive run (.ok connection, later))
    (disturbed :
      ∀ {run holding later number call connection outcome},
        run.acquirePool source = (.ok number, holding) →
        holding.connectAmid number call = (.ok connection, later) →
        later.session.registered? source.id ≠ some number →
        motive ((later.giveBack connection).dispose number) outcome →
        motive run outcome)
    (calls : List Call)
    (run : Run) :
    motive run (run.checkOutAmid source calls) := by
  induction calls generalizing run with
  | nil =>
      rw [checkOutAmid]
      refine checkOut_induction
        (fun acquired => unbuilt acquired)
        (fun {run holding later number failure} acquired refused => ?_)
        (fun {run holding later number connection} acquired opened registered => ?_)
        (fun {run holding later number connection outcome} acquired opened replaced _ rest => ?_)
        run
      · rw [← connectAmid_undisturbed] at refused
        exact unconnected acquired refused
      · rw [← connectAmid_undisturbed] at opened
        exact connected acquired opened registered
      · rw [← connectAmid_undisturbed] at opened
        exact disturbed acquired opened replaced rest
  | cons call calls inductionHypothesis =>
      rw [checkOutAmid]
      cases acquired : run.acquirePool source with
      | mk outcome holding =>
          cases outcome with
          | error failure =>
              exact unbuilt acquired
          | ok number =>
              dsimp only
              cases asked : holding.connectAmid number call with
              | mk outcome later =>
                  cases outcome with
                  | error failure =>
                      exact unconnected acquired asked
                  | ok connection =>
                      dsimp only
                      split
                      · rename_i registered
                        exact connected acquired asked registered
                      · rename_i replaced
                        exact disturbed acquired asked replaced (inductionHypothesis _)

namespace Reached

variable
  {start : Session}
  {run : Run}
  {hand : List Connection}
  {own : List Nat}

/-- What others do meanwhile only moves to a state that can be reached. -/
theorem intervene
    (reached : Reached start run hand own)
    (interventions : List Intervention) :
    Reached start (interventions.foldl Run.intervene run) hand own := by
  induction interventions generalizing run with
  | nil =>
      exact reached
  | cons intervention rest inductionHypothesis =>
      cases intervention with
      | evicts source =>
          exact inductionHypothesis (reached.evict source)
      | acquires source =>
          exact inductionHypothesis (reached.acquirePool source)

/-- Connecting amid others adds what it hands out to what is held. -/
theorem connectAmid
    {number : Nat}
    (reached : Reached start run hand own)
    (offered : start.Offers number)
    (call : Call) :
    Reached start (run.connectAmid number call).2
      ((run.connectAmid number call).1.toOption.toList ++ hand) own := by
  have before := reached.intervene call.before
  rw [Run.connectAmid]
  cases call.failure with
  | some failure =>
      exact before
  | none =>
      exact (before.connect offered).intervene call.after

/-- A pool that was acquired is asked for a connection. -/
theorem connectAmid_acquired
    {holding : Run}
    {source : DataSource}
    {number : Nat}
    (reached : Reached start run hand own)
    (acquired : run.acquirePool source = (.ok number, holding))
    (call : Call) :
    Reached start (holding.connectAmid number call).2
      ((holding.connectAmid number call).1.toOption.toList ++ hand) own := by
  have acquiring := reached.acquirePool source
  rw [acquired] at acquiring
  exact acquiring.connectAmid
    (acquiring.offers_of_registered (registered?_acquirePool acquired)) call

/-- A connection checked out amid others is added to what is held, and nothing else is. -/
theorem checkOutAmid
    (reached : Reached start run hand [])
    (source : DataSource)
    (calls : List Call) :
    Reached start (run.checkOutAmid source calls).2
      ((run.checkOutAmid source calls).1.toOption.toList ++ hand) [] := by
  refine checkOutAmid_induction
    (motive := fun run outcome =>
      Reached start run hand [] →
        Reached start outcome.2 (outcome.1.toOption.toList ++ hand) [])
    ?unbuilt ?unconnected ?connected ?disturbed calls run reached
  case unbuilt =>
    intro run later failure acquired reached
    have acquiring := reached.acquirePool source
    rwa [acquired] at acquiring
  case unconnected =>
    intro run holding later number call failure acquired refused reached
    have asking := reached.connectAmid_acquired acquired call
    rwa [refused] at asking
  case connected =>
    intro run holding later number call connection acquired opened _ reached
    have asking := reached.connectAmid_acquired acquired call
    rwa [opened] at asking
  case disturbed =>
    intro run holding later number call connection outcome acquired opened _
      inductionHypothesis reached
    have asking := reached.connectAmid_acquired acquired call
    rw [opened] at asking
    exact inductionHypothesis (asking.givenBack.disposed number)

end Reached

end Run

/-! ## The course of a check-out -/

/-- A pool that was built for a source is out of use if it is not registered for the source. -/
theorem Session.Consistent.not_offers
    {session : Session}
    (consistent : session.Consistent)
    {source : SourceId}
    {number : Nat}
    (origin : session.origins[number]?.map DataSource.id = some source)
    (unregistered : session.registered? source ≠ some number) :
    ¬ session.Offers number := by
  rintro (registered | beyond)
  · obtain ⟨entry, member, rfl⟩ := mem_map.mp registered
    have own := consistent.origin entry member
    rw [origin, Option.some.injEq] at own
    subst own
    exact unregistered (consistent.registered?_eq_some_iff.mpr member)
  · rw [← length_origins] at beyond
    rw [List.getElem?_eq_none beyond] at origin
    cases origin

namespace Run

/-- A connection that is not handed out in the end goes back, and its pool is disposed of and stays
out of use. -/
theorem givenUp_round
    {start : Session}
    {run holding later : Run}
    {hand : List Connection}
    {source : DataSource}
    {number : Nat}
    {call : Call}
    {connection : Connection}
    (begun : start.Consistent)
    (reached : Reached start run hand [])
    (acquired : run.acquirePool source = (.ok number, holding))
    (opened : holding.connectAmid number call = (.ok connection, later))
    (replaced : later.session.registered? source.id ≠ some number) :
    ∃ events,
      Leads run ((later.giveBack connection).dispose number) events ∧
        GivenUp number events ∧
        ¬ ((later.giveBack connection).dispose number).session.Offers number := by
  have holdingConsistent : holding.session.Consistent := by
    have acquiring := reached.acquirePool source
    rw [acquired] at acquiring
    exact acquiring.consistent begun
  have laterConsistent : later.session.Consistent := by
    have asking := reached.connectAmid_acquired acquired call
    rw [opened] at asking
    exact asking.consistent begun
  obtain ⟨own, asking, led, moved⟩ := handsOut_acquired acquired call
  obtain ⟨_, opening, ledOn, _⟩ := holding.handsOut_connectAmid number call
  rw [opened] at own led moved ledOn
  obtain rfl := own connection rfl
  -- The pool was built for the source: it was registered for it before.
  have origin : later.session.origins[connection.pool]?.map DataSource.id = some source.id := by
    have before :=
      holdingConsistent.origin _ (Session.mem_of_registered? (registered?_acquirePool acquired))
    obtain ⟨owner, found, isOwner⟩ := Option.map_eq_some_iff.mp before
    obtain ⟨added, shape⟩ := ledOn.origins
    rw [← shape, getElem?_append_left (List.getElem?_eq_some_iff.mp found).1, found,
      Option.map_some, isOwner]
  have known : connection.pool < later.session.origins.length := by
    obtain ⟨owner, found, _⟩ := Option.map_eq_some_iff.mp origin
    exact (List.getElem?_eq_some_iff.mp found).1
  obtain ⟨returning, returned, still⟩ := leads_giveBack known
  obtain ⟨disposing, disposed, stillThen, isDisposed⟩ :=
    (later.giveBack connection).leads_dispose connection.pool
  refine ⟨_, (led.trans returned).trans disposed, ⟨?_, ?_⟩, fun offered => ?_⟩
  · rw [moves_append, moves_append, moved, stillThen, append_nil, ← singleton_append,
      moves_append, still]
    rfl
  · refine ⟨asking, returning ++ disposing, append_assoc .., mem_append_right _ ?_⟩
    rw [origins_giveBack] at isDisposed
    exact isDisposed known
  · exact laterConsistent.not_offers origin replaced
      ((returned.trans disposed).offers _ offered)

/-- The course of a check-out: rounds that were given up, each with the pool that was tried in it,
and a last one. -/
structure Course
    (run : Run)
    (source : DataSource)
    (outcome : Except CheckOutFailure Connection × Run)
    (tried : List (Nat × List Event))
    (last : List Event) :
    Prop where
  leads : Leads run outcome.2 ((tried.map Prod.snd).flatten ++ last)
  givenUp :
    ∀ round ∈ tried,
      GivenUp round.1 round.2 ∧ ¬ outcome.2.session.Offers round.1
  handed :
    moves last = outcome.1.toOption.toList.map fun connection => .checkedOut connection.pool
  registered :
    ∀ connection,
      outcome.1 = .ok connection →
        outcome.2.session.registered? source.id = some connection.pool

/-- Every check-out takes such a course. -/
theorem course_checkOutAmid
    {start : Session}
    {run : Run}
    {hand : List Connection}
    (begun : start.Consistent)
    (reached : Reached start run hand [])
    (source : DataSource)
    (calls : List Call) :
    ∃ tried last, Course run source (run.checkOutAmid source calls) tried last := by
  refine checkOutAmid_induction
    (motive := fun run outcome =>
      Reached start run hand [] → ∃ tried last, Course run source outcome tried last)
    ?unbuilt ?unconnected ?connected ?disturbed calls run reached
  case unbuilt =>
    intro run later failure acquired _
    obtain ⟨events, led, still⟩ := run.leadsStill_acquirePool source
    rw [acquired] at led
    exact ⟨[], events, led, fun _ listed => absurd listed not_mem_nil, still,
      fun _ same => nomatch same⟩
  case unconnected =>
    intro run holding later number call failure acquired refused _
    obtain ⟨_, events, led, still⟩ := handsOut_acquired acquired call
    rw [refused] at led still
    exact ⟨[], events, led, fun _ listed => absurd listed not_mem_nil, still,
      fun _ same => nomatch same⟩
  case connected =>
    intro run holding later number call connection acquired opened registered _
    obtain ⟨own, events, led, moved⟩ := handsOut_acquired acquired call
    rw [opened] at own led moved
    refine ⟨[], events, led, fun _ listed => absurd listed not_mem_nil, moved,
      fun handed same => ?_⟩
    cases same
    rw [registered, own connection rfl]
  case disturbed =>
    intro run holding later number call connection outcome acquired opened replaced
      inductionHypothesis reached
    have asking := reached.connectAmid_acquired acquired call
    rw [opened] at asking
    obtain ⟨events, led, isGivenUp, outOfUse⟩ :=
      givenUp_round begun reached acquired opened replaced
    obtain ⟨tried, last, rest⟩ := inductionHypothesis (asking.givenBack.disposed number)
    refine ⟨(number, events) :: tried, last, ?_, ?_, rest.handed, rest.registered⟩
    · rw [map_cons, flatten_cons, append_assoc]
      exact led.trans rest.leads
    · intro round listed
      rcases mem_cons.mp listed with rfl | later
      · exact ⟨isGivenUp, mt (rest.leads.offers number) outOfUse⟩
      · exact rest.givenUp round later

end Run

namespace Session

/-- What comes of a check-out in a session, whatever other callers do meanwhile. -/
structure ChecksOut
    (session : Session)
    (source : DataSource)
    (outcome : Except CheckOutFailure Connection × Run) :
    Prop where
  /-- The pool of the connection is registered for the source, and one connection more is out. -/
  connected :
    ∀ connection,
      outcome.1 = .ok connection →
        outcome.2.session.registered? source.id = some connection.pool ∧
          ∀ number,
            outcome.2.session.checkedOut number =
              session.checkedOut number + if connection.pool = number then 1 else 0
  /-- No connection stays out if none is handed out. -/
  refused :
    ∀ failure,
      outcome.1 = .error failure →
        ∀ number, outcome.2.session.checkedOut number = session.checkedOut number
  /-- All pools that were tried before the last one were given up and are not registered any
  more. -/
  rounds :
    ∃ (tried : List (Nat × List Event)) (last : List Event),
      outcome.2.log = (tried.map Prod.snd).flatten ++ last ∧
        (∀ round ∈ tried,
          GivenUp round.1 round.2 ∧
            round.1 ∉ outcome.2.session.registry.map Prod.snd) ∧
        moves last =
          outcome.1.toOption.toList.map fun connection => .checkedOut connection.pool

/-- In every session that comes of its first step, a check-out hands out a connection of the pool
that is registered by then, and leaves nothing behind of the pools that it tried before. -/
theorem checksOut_after
    (backend : Backend)
    (bounds : PoolSettings)
    (settings : EngineSettings)
    (turns : List Turn)
    (server : Server)
    (source : DataSource)
    (calls : List Call) :
    let session := (start backend bounds).after settings turns
    session.ChecksOut source
      ((Run.mk session server []).checkOutAmid source calls) := by
  intro session
  have consistent : session.Consistent := consistent_after ..
  have balanced : Balanced session.pools session.heldConnections := balanced_after ..
  have begun : Run.Reached session ⟨session, server, []⟩ [] [] := .begun server
  obtain ⟨tried, last, course⟩ := Run.course_checkOutAmid consistent begun source calls
  have reached := (begun.checkOutAmid source calls).balanced balanced
  generalize (Run.mk session server []).checkOutAmid source calls = outcome at course reached
  -- The connections that are out are the held ones, as before, and the one that is handed out.
  have counted (number : Nat) :
      outcome.2.session.checkedOut number =
        session.checkedOut number +
          outcome.1.toOption.toList.countP fun connection => connection.pool = number := by
    have sameHeld : outcome.2.session.heldConnections = session.heldConnections :=
      congrArg (map Prod.snd) course.leads.held
    rw [checkedOut_eq_of_balanced reached, checkedOut_eq_of_balanced balanced, sameHeld,
      append_nil, countP_append, Nat.add_comm]
  refine ⟨fun connection isOk => ⟨course.registered connection isOk, fun number => ?_⟩,
    fun failure isError number => ?_, tried, last, course.leads.log, fun round listed => ?_,
    course.handed⟩
  · rw [counted, isOk]
    change _ + countP _ [connection] = _
    rw [countP_singleton]
    simp only [decide_eq_true_eq]
  · rw [counted, isError]
    rfl
  · obtain ⟨isGivenUp, outOfUse⟩ := course.givenUp round listed
    exact ⟨isGivenUp, fun registered => outOfUse (.inl registered)⟩

end Session

end QueryGateway
