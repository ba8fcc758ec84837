import QueryGateway.Session.Pool

/-!
# Checking connections out

A connection is handed out only if its pool is still registered once it is
open.  Another caller may have evicted the pool meanwhile; then the connection
goes back, the pool is disposed of once more, and the current pool is tried.
Each such round uses up an opening that was foreseen, so it ends.
-/

namespace QueryGateway

/-- Why no connection to a source was handed out: its pool could not be built or handed none
out. -/
inductive CheckOutFailure where
  | build (failure : ServerFailure)
  | connect (failure : ConnectFailure)
  deriving Repr, DecidableEq

namespace Run

@[simp]
theorem server_note
    (run : Run)
    (event : Event) :
    (run.note event).server = run.server := rfl

@[simp]
theorem session_note
    (run : Run)
    (event : Event) :
    (run.note event).session = run.session := rfl

@[simp]
theorem server_updatePool
    (run : Run)
    (number : Nat)
    (change : Pool → Pool) :
    (run.updatePool number change).server = run.server := rfl

@[simp]
theorem registry_updatePool
    (run : Run)
    (number : Nat)
    (change : Pool → Pool) :
    (run.updatePool number change).session.registry = run.session.registry := rfl

@[simp]
theorem server_build
    (run : Run)
    (source : DataSource) :
    (run.build source).2.server = run.server := by
  simp only [build]
  split <;> rfl

@[simp]
theorem registry_build
    (run : Run)
    (source : DataSource) :
    (run.build source).2.session.registry = run.session.registry := by
  simp only [build]
  split <;> rfl

@[simp]
theorem server_acquirePool
    (run : Run)
    (source : DataSource) :
    (run.acquirePool source).2.server = run.server := by
  unfold acquirePool
  split
  · rfl
  · have kept := server_build run source
    split <;> simp_all [register]

/-- Acquiring a pool leaves it registered. -/
theorem registered?_acquirePool
    {run acquired : Run}
    {source : DataSource}
    {number : Nat}
    (result : run.acquirePool source = (.ok number, acquired)) :
    acquired.session.registered? source.id = some number := by
  unfold acquirePool at result
  split at result
  · rename_i found
    simp only [Prod.mk.injEq, Except.ok.injEq] at result
    rw [← result.2, ← result.1, found]
  · rename_i absent
    have kept := registry_build run source
    split at result
    · rename_i number' built buildResult
      simp only [buildResult] at kept
      simp only [Prod.mk.injEq, Except.ok.injEq] at result
      rw [← result.2, ← result.1]
      simp only [Session.registered?] at absent ⊢
      simp [register, List.lookup_append, kept, absent]
    · simp at result

@[simp]
theorem server_dispose
    (run : Run)
    (number : Nat) :
    (run.dispose number).server = run.server := by
  unfold dispose
  split <;> rfl

@[simp]
theorem server_evict
    (run : Run)
    (source : SourceId) :
    (run.evict source).2.server = run.server := by
  unfold evict
  split <;> simp

@[simp]
theorem server_disturb
    (run : Run)
    (source : DataSource)
    (opening : Opening) :
    (run.disturb source opening).server = run.server := by
  cases opening <;> simp [disturb]

@[simp]
theorem server_giveBack
    (run : Run)
    (connection : Connection) :
    (run.giveBack connection).server = run.server := by
  unfold giveBack
  split
  · rfl
  · split
    · rfl
    · split <;> rfl

/-- Opening a connection uses up a foreseen opening, or leaves the registry alone. -/
theorem openConnection_progress
    {run opened : Run}
    {number : Nat}
    {pool : Pool}
    {connection : Connection}
    (result : run.openConnection number pool = (.ok connection, opened)) :
    opened.server.openings.length < run.server.openings.length ∨
      opened.session.registry = run.session.registry := by
  simp only [openConnection, Server.nextOpening] at result
  cases openings : run.server.openings with
  | cons opening rest =>
      left
      simp only [server_note, openings] at result
      split at result
      · simp at result
      · simp only [Prod.mk.injEq] at result
        rw [← result.2]
        simp
  | nil =>
      right
      simp only [server_note, openings] at result
      cases error : run.server.connectError with
      | none =>
          simp only [error, Option.map_none, Option.getD_none, Prod.mk.injEq] at result
          rw [← result.2]
          rfl
      | some message => simp [error] at result

/-- Connecting uses up a foreseen opening, or leaves the registry alone. -/
theorem connect_progress
    {run connected : Run}
    {number : Nat}
    {connection : Connection}
    (result : run.connect number = (.ok connection, connected)) :
    connected.server.openings.length < run.server.openings.length ∨
      connected.session.registry = run.session.registry := by
  unfold connect at result
  split at result
  · simp at result
  · split at result
    · exact openConnection_progress result
    · split at result
      · simp only [Prod.mk.injEq] at result
        rw [← result.2]
        exact Or.inr rfl
      · split at result
        · exact openConnection_progress result
        · simp at result

/-- Check a connection to a source out of its pool, which is built if there is none. -/
def checkOut (run : Run) (source : DataSource) : Except CheckOutFailure Connection × Run :=
  match _acquired : run.acquirePool source with
  | (.error failure, run) => (.error (.build failure), run)
  | (.ok number, holding) =>
      match _opened : holding.connect number with
      | (.error failure, run) => (.error (.connect failure), run)
      | (.ok connection, connected) =>
          if connected.session.registered? source.id = some number then
            (.ok connection, connected)
          else
            ((connected.giveBack connection).dispose number).checkOut source
termination_by run.server.openings.length
decreasing_by
  rename_i unregistered
  have same := server_acquirePool run source
  rw [_acquired] at same
  simp only [server_dispose, server_giveBack]
  rcases connect_progress _opened with progress | kept
  · rwa [← same]
  · refine absurd ?_ unregistered
    unfold Session.registered?
    rw [kept]
    exact registered?_acquirePool _acquired

end Run

end QueryGateway
