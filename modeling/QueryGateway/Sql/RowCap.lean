import QueryGateway.Number.Numeral
import QueryGateway.Text.Blank
import QueryGateway.Text.Word

/-!
# The row cap

A statement that is sent to an engine is bounded to a number of rows by a limit
of its own last line, unless it already holds a limit with a number somewhere.
-/

namespace QueryGateway.Sql

/-- Whether a character is one of the forms of a keyword's letter: either case of ASCII, and for
the letter I also the Turkish capital with a dot and the small one without. -/
def isLetterForm (letter c : Char) : Bool :=
  c = letter || c = letter.toLower || (letter = 'I' && (c = '\u0130' || c = '\u0131'))

/-- The text after a keyword at its front. -/
def afterKeyword? : List Char → List Char → Option (List Char)
  | [], cs => some cs
  | _ :: _, [] => none
  | letter :: letters, c :: rest =>
      if isLetterForm letter c then afterKeyword? letters rest else none

/-- Whether a text starts with a limit: the keyword, blanks, a digit. -/
def startsWithLimit (cs : List Char) : Bool :=
  match afterKeyword? "LIMIT".toList cs with
  | none => false
  | some rest =>
      match rest with
      | c :: _ =>
          Text.isBlank c && ((rest.dropWhile Text.isBlank).head?.map Text.isDecimalDigit).getD false
      | [] => false

/-- Whether a limit starts somewhere in a text, at a place without a word character before it. -/
def holdsLimitAfter : Option Char → List Char → Bool
  | _, [] => false
  | previous, c :: rest =>
      (!(previous.map Text.isWord).getD false && startsWithLimit (c :: rest))
        || holdsLimitAfter (some c) rest

/-- Whether a statement holds a limit. -/
def holdsLimit (statement : List Char) : Bool :=
  holdsLimitAfter none statement

/-- Whether a character at the end of a statement does not belong to it. -/
def isTrailing (c : Char) : Bool :=
  c = ';' || c = ' ' || c = '\t' || c = '\r' || c = '\n'

/-- A statement without blanks around it and semicolons at its end. -/
def trimmed (statement : List Char) : List Char :=
  Text.dropEndWhile isTrailing (Text.trimBlanks statement)

/-- A statement bounded by a limit as it is written. -/
def cappedAs (statement limit : String) : String :=
  let body := trimmed statement.toList
  if holdsLimit body then String.ofList body else String.ofList body ++ "\nLIMIT " ++ limit

/-- A statement bounded to a number of rows. -/
def capped (statement : String) (rows : Int) : String :=
  cappedAs statement (Numeral.ofInt rows)

/-- A statement bounded to a number of rows, unless that number has to be written and is too
long. -/
def capped? (statement : String) (rows : Int) : Option String :=
  if holdsLimit (trimmed statement.toList) || Numeral.isWritable rows then
    some (capped statement rows)
  else
    none

/-- A statement is sent as it is left by trimming if that holds a limit, and else with a limit in a
line of its own behind it. -/
theorem capped?_eq
    (statement : String)
    (rows : Int) :
    capped? statement rows =
      if holdsLimit (trimmed statement.toList) then
        some (String.ofList (trimmed statement.toList))
      else if Numeral.isWritable rows then
        some (String.ofList (trimmed statement.toList) ++ "\nLIMIT " ++ Numeral.ofInt rows)
      else
        none := by
  rw [capped?, capped, cappedAs]
  cases holdsLimit (trimmed statement.toList) <;> cases Numeral.isWritable rows <;> simp

end QueryGateway.Sql
