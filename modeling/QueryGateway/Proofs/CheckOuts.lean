import QueryGateway.Session.CheckOut

/-!
# Rounds of a check-out

Checking a connection out is a round that is repeated until the pool of the
connection is still registered.  `checkOut_eq` is one round, and
`checkOut_induction` goes along the rounds.
-/

namespace QueryGateway.Run

/-- One round of a check-out. -/
theorem checkOut_eq
    (run : Run)
    (source : DataSource) :
    run.checkOut source =
      match run.acquirePool source with
      | (.error failure, later) => (.error (.build failure), later)
      | (.ok number, holding) =>
          match holding.connect number with
          | (.error failure, later) => (.error (.connect failure), later)
          | (.ok connection, connected) =>
              if connected.session.registered? source.id = some number then
                (.ok connection, connected)
              else
                ((connected.giveBack connection).dispose number).checkOut source := by
  rw [checkOut]
  split <;> rename_i acquired
  · rw [acquired]
  · rw [acquired]
    dsimp only
    split <;> rename_i opened
    · rw [opened]
    · rw [opened]

/-- What holds of a check-out that ends in its first round, and of one that goes on if it holds of
the rest, holds of every check-out. -/
theorem checkOut_induction
    {source : DataSource}
    {motive : Run → Except CheckOutFailure Connection × Run → Prop}
    (unbuilt :
      ∀ {run later failure},
        run.acquirePool source = (.error failure, later) →
        motive run (.error (.build failure), later))
    (unconnected :
      ∀ {run holding later number failure},
        run.acquirePool source = (.ok number, holding) →
        holding.connect number = (.error failure, later) →
        motive run (.error (.connect failure), later))
    (connected :
      ∀ {run holding later number connection},
        run.acquirePool source = (.ok number, holding) →
        holding.connect number = (.ok connection, later) →
        later.session.registered? source.id = some number →
        motive run (.ok connection, later))
    (disturbed :
      ∀ {run holding later number connection outcome},
        run.acquirePool source = (.ok number, holding) →
        holding.connect number = (.ok connection, later) →
        later.session.registered? source.id ≠ some number →
        ((later.giveBack connection).dispose number).checkOut source = outcome →
        motive ((later.giveBack connection).dispose number) outcome →
        motive run outcome)
    (run : Run) :
    motive run (run.checkOut source) := by
  induction run using checkOut.induct source with
  | case1 run failure later acquired =>
      rw [checkOut_eq, acquired]
      exact unbuilt acquired
  | case2 run number holding acquired failure later opened =>
      rw [checkOut_eq, acquired]
      dsimp only
      rw [opened]
      exact unconnected acquired opened
  | case3 run number holding acquired connection later opened registered =>
      rw [checkOut_eq, acquired]
      dsimp only
      rw [opened]
      dsimp only
      rw [if_pos registered]
      exact connected acquired opened registered
  | case4 run number holding acquired connection later opened replaced
      inductionHypothesis =>
      rw [checkOut_eq, acquired]
      dsimp only
      rw [opened]
      dsimp only
      rw [if_neg replaced]
      exact disturbed acquired opened replaced rfl inductionHypothesis

end QueryGateway.Run
