import QueryGateway.Proofs.PreviewedQueries

/-!
# The checks of a request

A request is checked five times before a server is touched.  It is answered
with the error of the first check that it does not pass, and then nothing else
has happened.  The statement that a query comes to always passes for one that
reads, whatever its expressions, names and values are.
-/

namespace QueryGateway

open Sql

/-- The error of an outcome, if it is one. -/
def errorOf? : Except ε α → Option ε
  | .error error => some error
  | .ok _ => none

/-- The checks of a request. -/
inductive Check where
  | validity
  | compilation
  | resolution
  | reading
  | limit
  deriving Repr, DecidableEq

namespace EngineSettings

/-- The text of a request with placeholders in it; a query has none unless it compiles. -/
def text? (settings : EngineSettings) (source : DataSource) : Request → Option String
  | .query query => (settings.compile source query).toOption.map CompiledQuery.sql
  | .statement statement => some statement

/-- The text of a request without placeholders, unless they cannot be replaced. -/
def resolvedText?
    (settings : EngineSettings)
    (source : DataSource)
    (request : Request)
    (parameters : Parameters) :
    Option String :=
  (settings.text? source request).bind fun text =>
    (resolve (settings.dialectFor source) text parameters).toOption

end EngineSettings

namespace Check

/-- The checks in the order in which they are made. -/
def all : List Check := [.validity, .compilation, .resolution, .reading, .limit]

/-- Why a request does not pass a check, looked at by itself.  There is nothing to find fault with
in a text that does not exist. -/
def failure?
    (settings : EngineSettings)
    (source : DataSource)
    (request : Request)
    (parameters : Parameters)
    (limit : Option Int) :
    Check → Option RequestError
  | .validity =>
      match request with
      | .query query =>
          if query.validate = [] then none else some (.invalid query.validate)
      | .statement _ => none
  | .compilation =>
      match request with
      | .query query => (errorOf? (settings.compile source query)).map .compile
      | .statement _ => none
  | .resolution =>
      (settings.text? source request).bind fun text =>
        (errorOf? (resolve (settings.dialectFor source) text parameters)).map .resolve
  | .reading =>
      (settings.resolvedText? source request parameters).bind fun text =>
        if isReadOnly text then none else some .notReadOnly
  | .limit =>
      if settings.rowLimit limit < 1 then
        some (.session (.ofLimit (settings.rowLimit limit)))
      else
        none

end Check

section

variable
  (settings : EngineSettings)
  (source : DataSource)
  (request : Request)
  (parameters : Parameters)
  (limit : Option Int)

/-- The first two checks find what keeps a request from having a statement. -/
theorem Check.findSome?_statementOf :
    [validity, compilation].findSome?
        (failure? settings source request parameters limit) =
      errorOf? (settings.statementOf source request) := by
  cases request with
  | statement statement =>
      rfl
  | query query =>
      simp only [List.findSome?, failure?, EngineSettings.statementOf]
      cases problems : query.validate with
      | cons problem rest =>
          simp [errorOf?]
      | nil =>
          cases settings.compile source query with
          | error error =>
              simp [errorOf?]
          | ok compiled =>
              simp [errorOf?]

/-- The statement of a request is its text. -/
theorem EngineSettings.text?_of_statementOf
    {settings : EngineSettings}
    {source : DataSource}
    {request : Request}
    {text : String}
    (isStatement : settings.statementOf source request = .ok text) :
    settings.text? source request = some text := by
  cases request with
  | statement statement =>
      cases isStatement
      rfl
  | query query =>
      rw [statementOf] at isStatement
      rw [text?]
      split at isStatement
      · split at isStatement
        · rename_i compiles
          cases isStatement
          rw [compiles]
          rfl
        · cases isStatement
      · cases isStatement

/-- The checks find the error that keeps the text of a request from being sent; only without one is
the limit looked at. -/
theorem Check.findSome?_all :
    all.findSome? (failure? settings source request parameters limit) =
      (errorOf? (settings.resolvedStatement source request parameters)).or
        (failure? settings source request parameters limit .limit) := by
  have split : all = [validity, compilation] ++ [resolution, reading, .limit] := rfl
  rw [split, List.findSome?_append, findSome?_statementOf,
    EngineSettings.resolvedStatement]
  simp only [List.findSome?]
  generalize failure? settings source request parameters limit .limit = last
  cases outcome : settings.statementOf source request with
  | error error =>
      rfl
  | ok text =>
      have isText := EngineSettings.text?_of_statementOf outcome
      simp only [failure?, EngineSettings.resolvedText?, isText, Option.bind_some]
      cases resolve (settings.dialectFor source) text parameters with
      | error error =>
          rfl
      | ok resolved =>
          cases reads : isReadOnly resolved with
          | false =>
              simp [errorOf?, Except.toOption, reads]
          | true =>
              cases last <;> simp [errorOf?, Except.toOption, reads]

/-- What is resolved without an error is the text of the request without placeholders. -/
theorem EngineSettings.resolvedText?_of_resolvedStatement
    {settings : EngineSettings}
    {source : DataSource}
    {request : Request}
    {parameters : Parameters}
    {resolved : String}
    (isResolved :
      settings.resolvedStatement source request parameters = .ok resolved) :
    settings.resolvedText? source request parameters = some resolved := by
  rw [resolvedStatement] at isResolved
  split at isResolved
  · cases isResolved
  · rename_i text isStatement
    split at isResolved
    · cases isResolved
    · rename_i written isWritten
      split at isResolved
      · cases isResolved
        rw [resolvedText?, text?_of_statementOf isStatement, Option.bind_some,
          isWritten]
        rfl
      · cases isResolved

/-- A request that does not pass a check is answered with the error of the first one that it does
not pass, and neither the session nor the servers nor the log have changed.  One that passes all
of them is sent without its placeholders.  The text of a query never fails the check for one that
reads. -/
theorem Run.execute_checked
    (run : Run) :
    (∀ error,
      Check.all.findSome?
          (Check.failure? settings source request parameters limit) = some error →
        run.execute settings source request parameters limit = (.error error, run)) ∧
    (Check.all.findSome?
          (Check.failure? settings source request parameters limit) = none →
        ∃ statement,
          settings.resolvedText? source request parameters = some statement ∧
          run.execute settings source request parameters limit =
            ((run.executeQuery source statement (settings.rowLimit limit)).1.mapError
                .session,
              (run.executeQuery source statement (settings.rowLimit limit)).2)) ∧
    (∀ query resolved, request = .query query →
        settings.resolvedText? source request parameters = some resolved →
        isReadOnly resolved = true) := by
  rw [Check.findSome?_all]
  refine ⟨?failed, ?passed, ?reads⟩
  case failed =>
    intro error found
    rw [execute]
    cases outcome : settings.resolvedStatement source request parameters with
    | error cause =>
        rw [outcome] at found
        cases found
        rfl
    | ok statement =>
        -- Only the limit is left to be refused, before anything is done.
        rw [outcome] at found
        simp only [errorOf?, Option.none_or, Check.failure?] at found
        split at found
        · rename_i tooSmall
          cases found
          simp [executeQuery, tooSmall]
        · cases found
  case passed =>
    intro found
    rw [Option.or_eq_none_iff] at found
    cases outcome : settings.resolvedStatement source request parameters with
    | error cause =>
        rw [outcome] at found
        cases found.1
    | ok statement =>
        refine ⟨statement,
          EngineSettings.resolvedText?_of_resolvedStatement outcome, ?_⟩
        rw [execute, outcome]
        dsimp only
        split <;> simp_all [Except.mapError]
  case reads =>
    rintro query resolved rfl isResolved
    rw [EngineSettings.resolvedText?, EngineSettings.text?] at isResolved
    cases compiles : settings.compile source query with
    | error error =>
        rw [compiles] at isResolved
        cases isResolved
    | ok compiled =>
        cases outcome :
            resolve (settings.dialectFor source) compiled.sql parameters with
        | error error =>
            simp [compiles, Except.toOption, outcome] at isResolved
        | ok written =>
            simp only [compiles, Except.toOption, Option.map_some,
              Option.bind_some, outcome, Option.some.injEq] at isResolved
            subst isResolved
            have selected :=
              EngineSettings.resolvedStatement_selection settings source
                (VisualQuery.isPrefix_compile compiles) parameters
            rw [outcome] at selected
            exact (EngineSettings.resolvedStatement_statement.mp selected).2

end

end QueryGateway
