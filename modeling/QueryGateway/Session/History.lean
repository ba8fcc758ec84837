import QueryGateway.Session.Gateway

/-!
# Sessions over many steps

The servers may behave differently during each step of a session.
-/

namespace QueryGateway

/-- A step of a session with the behaviour of the servers during it. -/
structure Turn where
  server : Server
  step : Step

namespace Session

/-- The session after a turn. -/
def next (session : Session) (settings : EngineSettings) (turn : Turn) : Session :=
  (session.step settings turn.server turn.step).2.1

/-- The session after some turns. -/
def after (session : Session) (settings : EngineSettings) (turns : List Turn) : Session :=
  turns.foldl (fun session turn => session.next settings turn) session

/-- What the steps of some turns answer, each with what happens during it. -/
def replies (settings : EngineSettings) :
    Session → List Turn → List (Except RequestError Answer × List Event)
  | _, [] => []
  | session, turn :: turns =>
      let (answer, later, log) := session.step settings turn.server turn.step
      (answer, log) :: replies settings later turns

end Session

end QueryGateway
