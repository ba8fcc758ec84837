import QueryGateway.Document.Fields
import QueryGateway.Source.Basic

/-!
# Reading data sources

A decoded document as a data source, and the document that describes a source
with its password masked.
-/

namespace QueryGateway.DataSource

open Document

/-- Read an identifier: a text, or else a number. -/
def readId (value : Value) : Checked SourceId :=
  match value with
  | .text name => .ok (.text name)
  | .int n => .ok (.number n)
  | value =>
      match readText value, readInt value with
      | .ok name, _ => .ok (.text name)
      | .error _, .ok n => .ok (.number n)
      | .error textIssues, .error intIssues =>
          .error (textIssues.map (Issue.under (.name "str"))
            ++ intIssues.map (Issue.under (.name "int")))

/-- Read one option; its name has to be a text. -/
def readOption (entry : Value × Value) : Checked (String × Value) :=
  match readText entry.1 with
  | .ok name => .ok (name, entry.2)
  | .error issues =>
      .error (issues.map fun issue =>
        (issue.under (.name "[key]")).under (keyStep entry.1))

/-- Put an option among others.  An option of the same name keeps its place and takes the new
value. -/
def putOption (options : List (String × Value)) (entry : String × Value) : List (String × Value) :=
  if (options.lookup entry.1).isSome then
    options.map fun option => if option.1 = entry.1 then entry else option
  else
    options ++ [entry]

/-- Read options. -/
def readOptions : Value → Checked (List (String × Value))
  | .mapping entries =>
      (Checked.all (entries.map readOption)).map fun options => options.foldl putOption []
  | _ => .issue .dictType

/-- The fields of a source in order of declaration. -/
def fields : List Field :=
  [.simple "id", .simple "type", .simple "host", .simple "port", .simple "database",
    .simple "username", .simple "password", ⟨"schema", "schema_name"⟩, .simple "options"]

/-- An optional field that is nothing when absent. -/
def optionalPart {α : Type}
    (field : Field)
    (read : Value → Checked α) :
    Entries → Checked (Option α) :=
  field.optional none (readOptional read)

/-- Read a secret text.  Nothing is said about one that is refused. -/
def readSecret (value : Value) : Checked String :=
  match readText value with
  | .ok secret => .ok secret
  | .error _ => .issue .stringType

/-- Read a source from a decoded document. -/
def ofValue : Value → Checked DataSource :=
  readRecord (.modelType "DataSource") fields fun entries =>
    (((((((((Checked.and (.ok DataSource.mk)
      ((Field.simple "id").required readId entries)).and
      ((Field.simple "type").required (readChoice Sql.EngineType.all Sql.EngineType.name)
        entries)).and
      ((Field.simple "host").required readText entries)).and
      (optionalPart (.simple "port") readInt entries)).and
      ((Field.simple "database").required readText entries)).and
      (optionalPart (.simple "username") readText entries)).and
      (optionalPart (.simple "password") readSecret entries)).and
      (optionalPart ⟨"schema", "schema_name"⟩ readText entries)).and
      ((Field.simple "options").optional [] readOptions entries))

/-- What is shown in place of a password: nothing of it but whether it is empty. -/
def maskedPassword (source : DataSource) : Option String :=
  source.password.map fun password => if password.isEmpty then "" else "**********"

/-- A source as a document with its password masked. -/
def dump (source : DataSource) : List (String × Value) :=
  [("id", source.id.toValue), ("type", .text source.engine.name), ("host", .text source.host),
    ("port", .ofInt? source.port), ("database", .text source.database),
    ("username", .ofText? source.username), ("password", .ofText? source.maskedPassword),
    ("schema", .ofText? source.schema), ("options", .record source.options)]

end QueryGateway.DataSource
