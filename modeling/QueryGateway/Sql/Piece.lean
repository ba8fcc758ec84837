import QueryGateway.Sql.Lexeme

/-!
# Pieces of a statement

A statement is built from pieces that say what they are: bare text, truth
values, quoted tokens, placeholders.  Only here do they become text, so the two
dialects share everything before this step.
-/

namespace QueryGateway.Sql

/-- A part of a statement under construction.  `bare` holds keywords, marks and numbers, `raw` an
expression that its author wrote in SQL. -/
inductive Piece where
  | bare (text : String)
  | truth (value : Bool)
  | quoted (kind : QuoteKind) (content : String)
  | placeholder (name : String)
  | raw (text : String)
  deriving Repr, DecidableEq

namespace Piece

/-- A quoted name. -/
abbrev identifier (name : String) : Piece := .quoted .identifier name

/-- A quoted text. -/
abbrev text (content : String) : Piece := .quoted .text content

/-- The characters of a piece in a dialect. -/
def chars (dialect : Dialect) : Piece → List Char
  | .bare text => text.toList
  | .truth value => (dialect.truthText value).toList
  | .quoted kind content => (dialect.style kind).quote content.toList
  | .placeholder name => ':' :: name.toList
  | .raw text => text.toList

/-- The name of a placeholder. -/
def name? : Piece → Option String
  | .placeholder name => some name
  | _ => none

/-- The characters of a list of pieces. -/
def allChars (dialect : Dialect) (pieces : List Piece) : List Char :=
  pieces.flatMap (chars dialect)

/-- The text of a list of pieces. -/
def write (dialect : Dialect) (pieces : List Piece) : String :=
  String.ofList (allChars dialect pieces)

/-- Lists of pieces with a separator between them. -/
def joined (separator : String) : List (List Piece) → List Piece
  | [] => []
  | [pieces] => pieces
  | pieces :: rest => pieces ++ .bare separator :: joined separator rest

theorem joined_cons_cons
    (separator : String)
    (pieces next : List Piece)
    (rest : List (List Piece)) :
    joined separator (pieces :: next :: rest)
      = pieces ++ .bare separator :: joined separator (next :: rest) := rfl

@[simp]
theorem allChars_append
    (dialect : Dialect)
    (left right : List Piece) :
    allChars dialect (left ++ right) = allChars dialect left ++ allChars dialect right := by
  simp [allChars]

@[simp]
theorem toList_write
    (dialect : Dialect)
    (pieces : List Piece) :
    (write dialect pieces).toList = allChars dialect pieces := by
  simp [write]

end Piece

/-- The names in a list, each at its first place only. -/
def distinct (names : List String) : List String :=
  names.foldl (fun seen name => if seen.contains name then seen else seen ++ [name]) []

/-- A name with an optional qualifier before it; an empty qualifier counts as none. -/
def qualified (qualifier : Option String) (name : String) : List Piece :=
  match qualifier with
  | none | some "" => [.identifier name]
  | some qualifier => [.identifier qualifier, .bare ".", .identifier name]

/-- An optional new name after a reference; an empty one counts as none. -/
def aliased (name : Option String) : List Piece :=
  match name with
  | none | some "" => []
  | some name => [.bare " AS ", .identifier name]

/-- A reference to a column. -/
def columnReference (table : Option String) (column : String) : List Piece :=
  qualified table column

/-- A reference to a table with an optional new name. -/
def tableReference (schema : Option String) (table : String) (name : Option String) : List Piece :=
  qualified schema table ++ aliased name

/-- The greatest limit an engine takes. -/
def unboundedLimit : Int := Numeral.wordBound - 1

/-- The clause that bounds a result, from a limit and an offset as they are written; an engine that
takes no offset on its own is given the greatest limit with it. -/
def writtenLimitClause (dialect : Dialect) (limit offset : Option String) : List Piece :=
  let limit :=
    if limit.isNone && offset.isSome && !dialect.supportsStandaloneOffset then
      some (Numeral.ofInt unboundedLimit)
    else
      limit
  let part (keyword written : String) : List Piece := [.bare (keyword ++ written)]
  Piece.joined " " ((limit.map (part "LIMIT ")).toList ++ (offset.map (part "OFFSET ")).toList)

/-- The clause that bounds a result; an offset of zero counts as none. -/
def limitClause (dialect : Dialect) (limit offset : Option Int) : List Piece :=
  writtenLimitClause dialect (limit.map Numeral.ofInt)
    ((offset.filter (· ≠ 0)).map Numeral.ofInt)

end QueryGateway.Sql
