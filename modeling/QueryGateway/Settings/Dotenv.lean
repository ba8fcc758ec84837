import QueryGateway.Text.Blank
import QueryGateway.Text.Hex

/-!
# Environment files

A file of assignments, one a line.  A value may stand between quotation marks
or apostrophes, where it may go over several lines; otherwise it ends before a
comment.  A line that is no assignment is skipped.  A value may refer to other
variables and to earlier assignments.
-/

namespace QueryGateway.Dotenv

/-- Whether a character ends a line. -/
def isLineEnd (c : Char) : Bool := c = '\n' || c = '\r'

/-- Whether a character is a blank inside a line. -/
def isInlineBlank (c : Char) : Bool := Text.isBlank c && !isLineEnd c

/-- The text without the blanks at the front of its line. -/
def dropInline (cs : List Char) : List Char := cs.dropWhile isInlineBlank

/-- The text after the current line. -/
def skipLine (cs : List Char) : List Char :=
  match cs.dropWhile fun c => !isLineEnd c with
  | [] => []
  | _ :: rest => rest

/-- The text after the word that may introduce an assignment. -/
def dropExport : List Char → List Char
  | 'e' :: 'x' :: 'p' :: 'o' :: 'r' :: 't' :: c :: rest =>
      if isInlineBlank c then dropInline rest else 'e' :: 'x' :: 'p' :: 'o' :: 'r' :: 't' :: c :: rest
  | cs => cs

/-- The name that an assignment starts with, and what follows it.  A comment has no name. -/
def readName? : List Char → Option (Option (List Char) × List Char)
  | [] => none
  | '#' :: rest => some (none, '#' :: rest)
  | '\'' :: rest =>
      match rest.takeWhile (· ≠ '\''), rest.dropWhile (· ≠ '\'') with
      | c :: name, _ :: rest => some (some (c :: name), rest)
      | _, _ => none
  | cs =>
      let isNameChar (c : Char) : Bool := c ≠ '=' && c ≠ '#' && !Text.isBlank c
      match cs.takeWhile isNameChar with
      | [] => none
      | name => some (some name, cs.dropWhile isNameChar)

/-- The characters up to the mark that closes a quoted value, and what follows it.  A character
behind a backslash does not close. -/
def readQuoted? (mark : Char) : List Char → Option (List Char × List Char)
  | [] => none
  | [c] => if c = mark then some ([], []) else none
  | c :: next :: rest =>
      if c = mark then
        some ([], next :: rest)
      else if c = '\\' then
        (readQuoted? mark rest).map fun (value, rest) => (c :: next :: value, rest)
      else
        (readQuoted? mark (next :: rest)).map fun (value, rest) => (c :: value, rest)

/-- The character that an escape between quotation marks stands for. -/
def escaped? : Char → Option Char
  | '\\' => some '\\'
  | '\'' => some '\''
  | '"' => some '"'
  | 'a' => some '\x07'
  | 'b' => some '\x08'
  | 'f' => some '\x0c'
  | 'n' => some '\n'
  | 'r' => some '\r'
  | 't' => some '\t'
  | 'v' => some '\x0b'
  | _ => none

/-- The characters with the escapes of a class replaced. -/
def unescape (allowed : Char → Bool) : List Char → List Char
  | '\\' :: c :: rest =>
      match (escaped? c).filter fun _ => allowed c with
      | some meant => meant :: unescape allowed rest
      | none => '\\' :: unescape allowed (c :: rest)
  | c :: rest => c :: unescape allowed rest
  | [] => []

/-- A value without the comment after it: the comment starts at a `#` behind blanks. -/
def dropComment : List Char → List Char
  | [] => []
  | c :: rest =>
      if Text.isBlank c && (rest.dropWhile Text.isBlank).head? = some '#' then []
      else c :: dropComment rest

/-- The value of an assignment, and what follows it.  Blanks before a bare value belong to the
line, so a comment may stand in place of the value. -/
def readValue? (cs : List Char) : Option (List Char × List Char) :=
  match dropInline cs with
  | '\'' :: rest =>
      (readQuoted? '\'' rest).map fun (value, rest) =>
        (unescape (fun c => c = '\\' || c = '\'') value, rest)
  | '"' :: rest =>
      (readQuoted? '"' rest).map fun (value, rest) => (unescape (fun _ => true) value, rest)
  | _ =>
      let line := cs.takeWhile fun c => !isLineEnd c
      some (Text.trimBlanks (dropComment line), cs.dropWhile fun c => !isLineEnd c)

/-- The end of a line after an assignment: blanks and perhaps a comment. -/
def endLine? (cs : List Char) : Option (List Char) :=
  let cs :=
    match dropInline cs with
    | '#' :: rest => rest.dropWhile fun c => !isLineEnd c
    | rest => rest
  match cs with
  | [] => some []
  | '\r' :: '\n' :: rest => some rest
  | c :: rest => if isLineEnd c then some rest else none

/-- An assignment; a name alone has no value. -/
abbrev Assignment := String × Option (List Char)

/-- What the front of a text holds: an assignment, if it is one, and the text after it.  An
assignment that breaks off is skipped up to the end of the line where it does. -/
def readAssignment (cs : List Char) : Option Assignment × List Char :=
  match readName? (dropExport cs) with
  | none => (none, skipLine (dropExport cs))
  | some (name, rest) =>
      let value? :=
        match dropInline rest with
        | '=' :: rest =>
            (readValue? rest).map fun (value, rest) => (some value, rest)
        | rest => some (none, rest)
      match value? with
      | none => (none, skipLine rest)
      | some (value, rest) =>
          match endLine? rest with
          | none => (none, skipLine rest)
          | some rest => (name.map fun name => (String.ofList name, value), rest)

/-- The assignments of a text, at most as many as a bound. -/
def readAssignments : Nat → List Char → List Assignment
  | 0, _ => []
  | bound + 1, cs =>
      match cs.dropWhile Text.isBlank with
      | [] => []
      | cs =>
          let (assignment, rest) := readAssignment cs
          assignment.toList ++ readAssignments bound rest

/-- The name and the default text of a reference to a variable, and what follows it.  The text
starts behind the opening brace. -/
def readReference? (cs : List Char) : Option (String × String × List Char) :=
  let name := cs.takeWhile fun c => c ≠ '\x7d' && c ≠ ':'
  match cs.dropWhile fun c => c ≠ '\x7d' && c ≠ ':' with
  | '\x7d' :: rest => some (String.ofList name, "", rest)
  | ':' :: '-' :: rest =>
      match rest.dropWhile (· ≠ '\x7d') with
      | _ :: after => some (String.ofList name, String.ofList (rest.takeWhile (· ≠ '\x7d')), after)
      | [] => none
  | _ => none

/-- A value with its references replaced, in at most as many steps as a bound. -/
def expand (assigned : List (String × Option String)) : Nat → List Char → List Char
  | 0, cs => cs
  | _, [] => []
  | bound + 1, '$' :: '\x7b' :: rest =>
      match readReference? rest with
      | some (name, default, after) =>
          let value :=
            match assigned.lookup name with
            | some value => value.getD ""
            | none => default
          value.toList ++ expand assigned bound after
      | none => '$' :: expand assigned bound ('\x7b' :: rest)
  | bound + 1, c :: rest => c :: expand assigned bound rest

/-- Set a variable; it keeps its place if it is already there. -/
def setVariable (name : String) (value : Option String) :
    List (String × Option String) → List (String × Option String)
  | [] => [(name, value)]
  | (name', value') :: rest =>
      if name' = name then (name, value) :: rest else (name', value') :: setVariable name value rest

/-- Carry out assignments one after the other; each may refer to those before it and to the
variables of the environment. -/
def assign
    (environment : List (String × Option String)) :
    List (String × Option String) → List Assignment → List (String × Option String)
  | assigned, [] => assigned
  | assigned, (name, value) :: rest =>
      let value := value.map fun cs =>
        String.ofList (expand (assigned ++ environment) cs.length cs)
      assign environment (setVariable name value assigned) rest

/-- The variables that a file sets. -/
def assignedBy (environment : List (String × String)) (content : String) :
    List (String × Option String) :=
  let cs := content.toList
  assign (environment.map fun (name, value) => (name, some value)) []
    (readAssignments cs.length cs)

end QueryGateway.Dotenv
