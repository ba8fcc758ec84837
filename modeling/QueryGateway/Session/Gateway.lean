import QueryGateway.Query.Compile
import QueryGateway.Query.Validation
import QueryGateway.Session.Listing
import QueryGateway.Session.Probe
import QueryGateway.Session.Status
import QueryGateway.Sql.Placeholder
import QueryGateway.Sql.ReadOnly

/-!
# The gateway

A visual query or a statement goes in and rows come out.  A query is validated
and compiled, parameters are put in, anything but a reading statement is
refused, and only then is a server touched.
-/

namespace QueryGateway

open Sql

/-- What a caller asks for: a query, or a statement with placeholders. -/
inductive Request where
  | query (query : VisualQuery)
  | statement (statement : String)
  deriving Repr

/-- Why a request was refused or failed. -/
inductive RequestError where
  | invalid (problems : List String)
  | compile (error : CompileError)
  | resolve (error : ResolveError)
  | notReadOnly
  | session (error : SessionError)
  deriving Repr

/-- The description of an error. -/
def RequestError.message : RequestError → String
  | .invalid problems => refusalMessage problems
  | .compile error => error.message
  | .resolve error => error.message
  | .notReadOnly => readOnlyMessage
  | .session error => error.message

/-- A compiled query for people to look at, with the problems that it has. -/
structure Preview where
  sql : Option String
  parameterNames : List String
  problems : List String
  deriving Repr, DecidableEq

/-- Whether a preview shows no problem. -/
def Preview.isValid (preview : Preview) : Bool := preview.problems.isEmpty

namespace EngineSettings

/-- The dialect that queries for a source are compiled for. -/
def dialectFor (settings : EngineSettings) (source : DataSource) : Dialect :=
  .ofEngine settings.clickhouseFullJoin source.engine

/-- Compile a query for a source without validating it. -/
def compile (settings : EngineSettings) (source : DataSource) (query : VisualQuery) :
    Except CompileError CompiledQuery :=
  query.compile (settings.dialectFor source)

/-- Compile a query for people to look at.  A fault in a clause is one more problem. -/
def preview (settings : EngineSettings) (source : DataSource) (query : VisualQuery) :
    Except CompileError Preview :=
  match settings.compile source query with
  | .ok compiled => .ok ⟨some compiled.sql, compiled.parameterNames, query.validate⟩
  | .error (.fault clause fault) =>
      .ok ⟨none, [], query.validate ++ [(CompileError.fault clause fault).message]⟩
  | .error .longInteger => .error .longInteger

/-- The statement of a request, with placeholders in it. -/
def statementOf (settings : EngineSettings) (source : DataSource) :
    Request → Except RequestError String
  | .statement statement => .ok statement
  | .query query =>
      match query.validate with
      | [] =>
          match settings.compile source query with
          | .ok compiled => .ok compiled.sql
          | .error error => .error (.compile error)
      | problems => .error (.invalid problems)

/-- The statement that a request comes to: without placeholders, and reading only. -/
def resolvedStatement
    (settings : EngineSettings)
    (source : DataSource)
    (request : Request)
    (parameters : Parameters) :
    Except RequestError String :=
  match settings.statementOf source request with
  | .error error => .error error
  | .ok statement =>
      match resolve (settings.dialectFor source) statement parameters with
      | .error error => .error (.resolve error)
      | .ok resolved => if isReadOnly resolved then .ok resolved else .error .notReadOnly

/-- The number of rows that a caller may see: as many as were asked for, or as the settings say,
but never more than the greatest number allowed. -/
def rowLimit (settings : EngineSettings) (limit : Option Int) : Int :=
  min ((limit.filter fun limit => limit ≠ 0).getD settings.defaultLimit) settings.maxRows

end EngineSettings

/-- Carry out a request. -/
def Run.execute
    (run : Run)
    (settings : EngineSettings)
    (source : DataSource)
    (request : Request)
    (parameters : Parameters)
    (limit : Option Int) :
    Except RequestError QueryResult × Run :=
  match settings.resolvedStatement source request parameters with
  | .error error => (.error error, run)
  | .ok statement =>
      match run.executeQuery source statement (settings.rowLimit limit) with
      | (.ok result, run) => (.ok result, run)
      | (.error error, run) => (.error (.session error), run)

/-- A step of a session. -/
inductive Step where
  | executeQuery (source : DataSource) (statement : String) (limit : Int)
  | execute (source : DataSource) (request : Request) (parameters : Parameters)
      (limit : Option Int)
  | probe (source : DataSource)
  | schema (source : DataSource)
  | getPool (source : DataSource)
  | evict (source : SourceId)
  | closeAll
  | hold (source : DataSource) (name : String)
  | release (name : String)
  | status

/-- What a step answers. -/
inductive Answer where
  | rows (result : QueryResult)
  | probed (result : ProbeResult)
  | tables (tables : List TableInfo)
  | pool (created : Bool)
  | evicted (registered : Bool)
  | closed (count : Nat)
  | done
  | status (pools : List PoolStatus)

namespace Run

/-- Acquire the pool of a source and say whether it had to be built. -/
def getPool (run : Run) (source : DataSource) : Except SessionError Bool × Run :=
  let created := (run.session.registered? source.id).isNone
  match run.acquirePool source with
  | (.ok _, run) => (.ok created, run)
  | (.error failure, run) => (.error failure.toSessionError, run)

/-- Check a connection out of the pool of a source and keep it under a name. -/
def hold (run : Run) (source : DataSource) (name : String) : Except SessionError Unit × Run :=
  match run.acquirePool source with
  | (.error failure, run) => (.error failure.toSessionError, run)
  | (.ok number, run) =>
      match run.connect number with
      | (.error failure, run) =>
          (.error ((CheckOutFailure.connect failure).toSessionError source), run)
      | (.ok connection, run) =>
          (.ok (), { run with
            session := { run.session with held := (name, connection) :: run.session.held } })

/-- Give back the connection that is kept under a name, if there is one. -/
def release (run : Run) (name : String) : Run :=
  match run.session.held.lookup name with
  | none => run
  | some connection =>
      let held := run.session.held.eraseP fun entry => entry.1 == name
      { run with session := { run.session with held } }.giveBack connection

/-- Carry out a step. -/
def perform (run : Run) (settings : EngineSettings) : Step → Except RequestError Answer × Run
  | .executeQuery source statement limit =>
      let (answer, run) := run.executeQuery source statement limit
      ((answer.map Answer.rows).mapError .session, run)
  | .execute source request parameters limit =>
      let (answer, run) := run.execute settings source request parameters limit
      (answer.map Answer.rows, run)
  | .probe source =>
      let (answer, run) := run.probe source
      ((answer.map Answer.probed).mapError .session, run)
  | .schema source =>
      let (answer, run) := run.schemaInfo source
      ((answer.map Answer.tables).mapError .session, run)
  | .getPool source =>
      let (answer, run) := run.getPool source
      ((answer.map Answer.pool).mapError .session, run)
  | .evict source =>
      let (registered, run) := run.evict source
      (.ok (.evicted registered), run)
  | .closeAll =>
      let (count, run) := run.closeAll
      (.ok (.closed count), run)
  | .hold source name =>
      let (answer, run) := run.hold source name
      ((answer.map fun _ => Answer.done).mapError .session, run)
  | .release name => (.ok .done, run.release name)
  | .status =>
      match run.session.status? with
      | some pools => (.ok (.status pools), run)
      | none => (.error (.session .longNumber), run)

end Run

/-- Carry out a step while the servers behave in a given way: its answer, the session after it, and
what happened. -/
def Session.step
    (session : Session)
    (settings : EngineSettings)
    (server : Server)
    (step : Step) :
    Except RequestError Answer × Session × List Event :=
  let (answer, run) := (Run.mk session server []).perform settings step
  (answer, run.session, run.log)

end QueryGateway
