import QueryGateway.Session.CheckOut

/-!
# Check-outs amid other callers

Other callers may evict pools and have new ones built while a pool is asked for
a connection.  What is foreseen for the openings of new connections covers only
a part of that: an idle connection is handed out without an opening.  Here it
is foreseen for every call of a pool, before and after it hands out a connection
of either kind, and a call may fail for whatever reason.
-/

namespace QueryGateway

/-- What another caller does to the pools of a session. -/
inductive Intervention where
  | evicts (source : SourceId)
  | acquires (source : DataSource)

/-- What happens while a pool is asked for a connection: what other callers do before it is handed
out and after that, and why it is not, if that is foreseen. -/
structure Call where
  before : List Intervention
  failure : Option ConnectFailure
  after : List Intervention

/-- A call during which nothing happens. -/
def Call.undisturbed : Call := ⟨[], none, []⟩

namespace Run

/-- What comes of another caller. -/
def intervene (run : Run) : Intervention → Run
  | .evicts source => (run.evict source).2
  | .acquires source => (run.acquirePool source).2

/-- Hand out a connection of a pool amid other callers. -/
def connectAmid (run : Run) (number : Nat) (call : Call) :
    Except ConnectFailure Connection × Run :=
  let run := call.before.foldl intervene run
  match call.failure with
  | some failure => (.error failure, run)
  | none =>
      let (outcome, run) := run.connect number
      (outcome, call.after.foldl intervene run)

/-- Check a connection to a source out of its pool amid other callers, who are quiet after the calls
that are foreseen. -/
def checkOutAmid (source : DataSource) :
    List Call → Run → Except CheckOutFailure Connection × Run
  | [], run => run.checkOut source
  | call :: calls, run =>
      match run.acquirePool source with
      | (.error failure, run) => (.error (.build failure), run)
      | (.ok number, run) =>
          match run.connectAmid number call with
          | (.error failure, run) => (.error (.connect failure), run)
          | (.ok connection, run) =>
              if run.session.registered? source.id = some number then
                (.ok connection, run)
              else
                checkOutAmid source calls ((run.giveBack connection).dispose number)

end Run

end QueryGateway
