import QueryGateway.Session.Query

/-!
# Probing a source

Whether a source can be reached is tried out on a pool of its own, which is
never registered and is disposed of at the end.  A failure is an answer, not an
error; only a failure of a source that cannot be described is an error.
-/

namespace QueryGateway

open Sql

namespace ProbeResult

/-- The outcome of a probe that went through. -/
def succeeded : ProbeResult := ⟨true, "Connection successful", .ofInt 0⟩

/-- The outcome of a probe that failed. -/
def failed (message : String) : ProbeResult :=
  ⟨false, "Connection failed: " ++ message, .ofInt 0⟩

end ProbeResult

/-- What fetching from a statement without rows is told. -/
def noRowsMessage : String :=
  "This result object does not return rows. It has been closed automatically."

/-- The outcome of the statement that probes a server. -/
def Server.probeOutcome (server : Server) : ProbeResult :=
  match server.executeError, server.columns, server.fetchError with
  | some message, _, _ => .failed message
  | none, none, _ => .failed noRowsMessage
  | none, some _, some failure => .failed failure.message
  | none, some _, none => .succeeded

/-- Try a source out. -/
def Run.attemptProbe (run : Run) (source : DataSource) : ProbeResult × Run :=
  match run.build source with
  | (.error failure, run) => (.failed failure.message, run)
  | (.ok number, run) =>
      match run.connect number with
      | (.error failure, run) => (.failed failure.message, run.dispose number)
      | (.ok connection, run) =>
          let statement := (Dialect.ofEngine true source.engine).probeStatement
          let run := run.note (.executing statement)
          (run.server.probeOutcome, (run.giveBack connection).dispose number)

/-- Probe a source.  A failure is put on record with the description of the source, so the source
must have one. -/
def Run.probe (run : Run) (source : DataSource) : Except SessionError ProbeResult × Run :=
  let (result, run) := run.attemptProbe source
  if result.success || source.describe?.isSome then (.ok result, run) else (.error .longNumber, run)

end QueryGateway
