import QueryGateway.Sql.Lexeme
import QueryGateway.Text.Blank

/-!
# The read-only guard

Only statements that start with a reading keyword are let through.  Blanks,
comments and opening parentheses before the keyword do not count.
-/

namespace QueryGateway.Sql

/-- The keywords that a reading statement starts with. -/
def readingKeywords : List String := ["SELECT", "WITH"]

/-- What a refused statement is told. -/
def readOnlyMessage : String := "Only SELECT and WITH statements can be executed."

/-- How much of the front of a text does not count: a blank, a comment, or an opening
parenthesis. -/
def noiseLength? (cs : List Char) : Option Nat :=
  match cs with
  | [] => none
  | c :: _ => if Text.isBlank c || c = '(' then some 1 else commentLength? cs

/-- The text after everything at its front that does not count.  The number counts characters
that belong to a comment already read. -/
def dropNoise : Nat → List Char → List Char
  | _, [] => []
  | taken + 1, _ :: rest => dropNoise taken rest
  | 0, c :: rest =>
      match noiseLength? (c :: rest) with
      | some length => dropNoise (length - 1) rest
      | none => c :: rest

/-- The first word of a statement in upper case, of ASCII letters. -/
def leadingKeyword (statement : List Char) : String :=
  String.ofList (((dropNoise 0 statement).takeWhile Char.isAlpha).map Char.toUpper)

/-- Whether a statement starts with a reading keyword. -/
def isReadOnly (statement : String) : Bool :=
  readingKeywords.contains (leadingKeyword statement.toList)

end QueryGateway.Sql
