import QueryGateway.Sql.Literal

/-!
# Parameters of a statement

`parameterNames` lists the placeholders of a statement, and `resolve` puts the
literals of given values in their places.  Both read the statement as lexemes,
so what stands in a quoted token or a comment is never touched, and a value
that is put in is never read again.
-/

namespace QueryGateway.Sql

/-- Values by the name of the parameter they are for. -/
abbrev Parameters := List (String × Value)

/-- Why placeholders could not be replaced. -/
inductive ResolveError where
  | missing (names : List String)
  | literal (error : LiteralError)
  deriving Repr

/-- The description of a list of missing parameters. -/
def missingMessage (names : List String) : String :=
  "Missing required parameter(s): " ++ ", ".intercalate (names.map fun name => "'" ++ name ++ "'")

/-- The description of an error. -/
def ResolveError.message : ResolveError → String
  | .missing names => missingMessage names
  | .literal error => error.message

/-- The names of the placeholders of a statement in the order of their first use. -/
def parameterNames (dialect : Dialect) (statement : String) : List String :=
  distinct ((Lexeme.scan dialect statement.toList).filterMap Lexeme.name?)

/-- The names of the placeholders of a statement, which is read only if there is a colon in it. -/
def extractedNames (dialect : Dialect) (statement : String) : List String :=
  if statement.toList.contains ':' then parameterNames dialect statement else []

/-- The characters that a lexeme becomes when its placeholder is replaced. -/
def Lexeme.substituted
    (dialect : Dialect)
    (parameters : Parameters)
    (lexeme : Lexeme) :
    Except LiteralError (List Char) :=
  match lexeme.name? with
  | none => .ok lexeme.chars
  | some name =>
      (literal ((parameters.lookup name).getD .null)).map (Piece.allChars dialect)

/-- The characters that lexemes become, up to the first value without a literal. -/
def substitute
    (dialect : Dialect)
    (parameters : Parameters) :
    List Lexeme → Except LiteralError (List Char)
  | [] => .ok []
  | lexeme :: rest =>
      match lexeme.substituted dialect parameters with
      | .error error => .error error
      | .ok cs => (substitute dialect parameters rest).map (cs ++ ·)

/-- A statement with a literal in place of each placeholder.  Every placeholder has to have a
value. -/
def resolve
    (dialect : Dialect)
    (statement : String)
    (parameters : Parameters) :
    Except ResolveError String :=
  let missing :=
    (parameterNames dialect statement).filter fun name => (parameters.lookup name).isNone
  if missing.isEmpty then
    match substitute dialect parameters (Lexeme.scan dialect statement.toList) with
    | .ok cs => .ok (String.ofList cs)
    | .error error => .error (.literal error)
  else
    .error (.missing missing)

end QueryGateway.Sql
