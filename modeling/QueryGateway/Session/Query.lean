import QueryGateway.Result.Basic
import QueryGateway.Session.CheckOut
import QueryGateway.Sql.RowCap
import QueryGateway.Sql.TypeName
import QueryGateway.Value.Cell

/-!
# Running a statement

A statement is sent with a bound of one row more than the caller may see, so
that a result that was cut off can be told from a complete one.  The connection
goes back whatever happens.
-/

namespace QueryGateway

open Sql

/-- Why a step of a session failed: a pool could not be built, a limit is not positive, a number is
too long to be written, a server could not be reached, or it refused a statement. -/
inductive SessionError where
  | factory (message : String)
  | nonPositiveLimit (limit : Int)
  | longNumber
  | connection (source : SourceId) (message : String)
  | execution (source : SourceId) (message statement : String)
  deriving Repr, DecidableEq

/-- The description of an error. -/
def SessionError.message : SessionError → String
  | .factory message => message
  | .nonPositiveLimit limit => "limit must be positive, got " ++ Numeral.ofInt limit
  | .longNumber => Numeral.unwritableMessage
  | .connection _ message => message
  | .execution _ message _ => message

/-- The number of rows that a caller may see unless told otherwise. -/
def standardLimit : Int := 1000

/-- The error of a step whose pool was not built. -/
def ServerFailure.toSessionError : ServerFailure → SessionError
  | .refused message => .factory message
  | .longNumber => .longNumber

/-- The error of a statement whose rows were not fetched. -/
def ServerFailure.toExecutionError (source : SourceId) (statement : String) :
    ServerFailure → SessionError
  | .refused message => .execution source message statement
  | .longNumber => .longNumber

/-- The error of a step that got no connection to a source.  Such a failure is put on record with
the description of the source, so the source must have one, and the error names the source. -/
def CheckOutFailure.toSessionError (source : DataSource) : CheckOutFailure → SessionError
  | .build failure => failure.toSessionError
  | .connect failure =>
      if source.describe?.isSome && source.id.isWritable then
        .connection source.id
          ("Could not connect to datasource " ++ source.id.shown ++ ": " ++ failure.message)
      else
        .longNumber

/-- A column of a result as a driver describes it, unless a number in its name or its type is too
long to be written.  It may hold nothing unless the driver says otherwise. -/
def ColumnDescription.column? (dialect : Dialect) (description : ColumnDescription) :
    Option Column := do
  let name ← description.name.plainText?
  let type ← dialect.columnTypeName? description.typeCode
  let nullable :=
    match description.nullOk with
    | .bool false => false
    | _ => true
  return { name, type, nullable }

/-- The error of a limit that is not positive. -/
def SessionError.ofLimit (limit : Int) : SessionError :=
  if Numeral.isWritable limit then .nonPositiveLimit limit else .longNumber

/-- The result with the rows that were fetched, at most as many as a limit, unless a value in one
of them has no cell. -/
def QueryResult.ofRows? (columns : List Column) (limit : Nat) (fetched : List (List Value)) :
    Option QueryResult := do
  let rows ← (fetched.take limit).mapM Value.toCells?
  return {
    columns
    rows
    rowCount := rows.length
    executionTimeMs := .ofInt 0
    truncated := limit < fetched.length }

namespace Run

/-- Send a bounded statement over a connection that is out, and fetch its rows. -/
def sendStatement
    (run : Run)
    (source : DataSource)
    (dialect : Dialect)
    (statement : String)
    (limit : Nat) :
    Except SessionError QueryResult × Run :=
  let run := run.note (.executing statement)
  match run.server.executeError, run.server.columns with
  | some message, _ => (.error (.execution source.id message statement), run)
  | none, none => (.ok .empty, run)
  | none, some descriptions =>
      match descriptions.mapM (ColumnDescription.column? dialect) with
      | none => (.error .longNumber, run)
      | some columns =>
          let run := run.note (.fetching (limit + 1))
          match run.server.fetchError with
          | some failure => (.error (failure.toExecutionError source.id statement), run)
          | none =>
              match QueryResult.ofRows? columns limit (run.server.rows.take (limit + 1)) with
              | some result => (.ok result, run)
              | none => (.error .longNumber, run)

/-- Run a statement on a source and return at most as many rows as a limit. -/
def executeQuery
    (run : Run)
    (source : DataSource)
    (statement : String)
    (limit : Int) :
    Except SessionError QueryResult × Run :=
  if limit < 1 then
    (.error (.ofLimit limit), run)
  else
    match capped? statement (limit + 1) with
    | none => (.error .longNumber, run)
    | some bounded =>
        match run.checkOut source with
        | (.error failure, run) => (.error (failure.toSessionError source), run)
        | (.ok connection, run) =>
            let (answer, run) :=
              run.sendStatement source (.ofEngine true source.engine) bounded limit.toNat
            (answer, run.giveBack connection)

end Run

end QueryGateway
