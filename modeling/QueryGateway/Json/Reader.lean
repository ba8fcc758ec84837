import QueryGateway.Json.Basic
import QueryGateway.Number.Reading

/-!
# Reading JSON

A reader over characters that stops at the first fault and says where it is.
Beside standard JSON it takes the words `NaN`, `Infinity` and `-Infinity`; a
member name that occurs again replaces the earlier value; an integer of too
many digits is refused.  Every function returns what is left of the text, and a
fault is located by how much was left there.
-/

namespace QueryGateway.Json

/-- What is wrong with a text that is no JSON document. -/
inductive Fault where
  | missingValue
  | missingName
  | missingColon
  | missingComma
  | trailingText
  | openText
  | badEscape
  | badUnitEscape
  | controlCharacter
  | byteOrderMark
  deriving Repr, DecidableEq

/-- The description of a fault. -/
def Fault.message : Fault → String
  | .missingValue => "Expecting value"
  | .missingName => "Expecting property name enclosed in double quotes"
  | .missingColon => "Expecting ':' delimiter"
  | .missingComma => "Expecting ',' delimiter"
  | .trailingText => "Extra data"
  | .openText => "Unterminated string starting at"
  | .badEscape => "Invalid \\escape"
  | .badUnitEscape => "Invalid \\uXXXX escape"
  | .controlCharacter => "Invalid control character at"
  | .byteOrderMark => "Unexpected UTF-8 BOM (decode using utf-8-sig)"

/-- Why reading stopped: a fault with the number of characters left there, or an integer of too
many digits. -/
inductive Stop where
  | fault (fault : Fault) (remaining : Nat)
  | longInteger (digits : Nat)
  deriving Repr, DecidableEq

/-- Why a text could not be read: a fault and its place, or an integer of too many digits. -/
inductive ReadError where
  | fault (fault : Fault) (line column offset : Nat)
  | longInteger (digits : Nat)
  deriving Repr, DecidableEq

/-- The description of a reading error. -/
def ReadError.message : ReadError → String
  | .fault cause line column offset =>
      cause.message ++ ": line " ++ Numeral.ofNat line ++ " column " ++ Numeral.ofNat column
        ++ " (char " ++ Numeral.ofNat offset ++ ")"
  | .longInteger digits => Numeral.unreadableMessage digits

/-- Whether a character may stand between the tokens of a document. -/
def isSpace (c : Char) : Bool :=
  c = ' ' || c = '\t' || c = '\n' || c = '\r'

/-- The text without the white space at its front. -/
def skipSpace (cs : List Char) : List Char :=
  cs.dropWhile isSpace

/-- A fault at what is left of the text. -/
def fail {α : Type} (fault : Fault) (rest : List Char) : Except Stop α :=
  .error (.fault fault rest.length)

/-! ## Texts -/

/-- The character that a single letter stands for after a backslash. -/
def escapedChar? (c : Char) : Option Char :=
  if c = '"' || c = '\\' || c = '/' then some c
  else if c = 'b' then some '\x08'
  else if c = 'f' then some '\x0c'
  else if c = 'n' then some '\n'
  else if c = 'r' then some '\r'
  else if c = 't' then some '\t'
  else none

/-- The UTF-16 unit that four hexadecimal digits stand for. -/
def unit? (cs : List Char) : Option Nat :=
  if cs.length = 4 then Text.hexValue? cs else none

/-- Whether a UTF-16 unit is the first half of a pair. -/
def isHighHalf (unit : Nat) : Bool :=
  0xd800 ≤ unit && unit < 0xdc00

/-- Whether a UTF-16 unit is the second half of a pair. -/
def isLowHalf (unit : Nat) : Bool :=
  0xdc00 ≤ unit && unit < 0xe000

/-- The character of a UTF-16 unit that stands alone; half a pair is replaced. -/
def charOfUnit (unit : Nat) : Char :=
  if isHighHalf unit || isLowHalf unit then '\ufffd' else Char.ofNat unit

/-- The character of a pair of UTF-16 units. -/
def charOfPair (high low : Nat) : Char :=
  Char.ofNat (0x10000 + (high - 0xd800) * 0x400 + (low - 0xdc00))

/-- The character that an escape stands for and the number of characters it takes, where the
first argument is the text after the backslash and the letter `u`.  The text has to go on after
the digits.  Two escapes that are the halves of a pair are one character. -/
def unitEscape? (cs : List Char) : Except Stop (Char × Nat) :=
  let bad {α : Type} (length : Nat) : Except Stop α := .error (.fault .badUnitEscape (length + 1))
  match unit? (cs.take 4), cs.drop 4 with
  | none, _ | some _, [] => bad cs.length
  | some high, rest =>
      match isHighHalf high, rest with
      | true, '\\' :: 'u' :: more =>
          if more.length ≤ 4 then
            .ok (charOfUnit high, 5)
          else
            match unit? (more.take 4) with
            | none => bad more.length
            | some low =>
                if isLowHalf low then .ok (charOfPair high low, 11) else .ok (charOfUnit high, 5)
      | _, _ => .ok (charOfUnit high, 5)

/-- The character that an escape stands for and the number of characters it takes after the
backslash; `opening` is what was left of the text where it was opened. -/
def escape? (opening : Nat) : List Char → Except Stop (Char × Nat)
  | [] => .error (.fault .openText opening)
  | 'u' :: rest => unitEscape? rest
  | c :: rest =>
      match escapedChar? c with
      | some escaped => .ok (escaped, 1)
      | none => .error (.fault .badEscape (rest.length + 2))

/-- Read a text up to its closing mark.  The second argument counts characters that belong to an
escape already read. -/
def readTextBody (opening : Nat) : Nat → List Char → Except Stop (List Char × List Char)
  | _, [] => .error (.fault .openText opening)
  | skipped + 1, _ :: rest => readTextBody opening skipped rest
  | 0, c :: rest =>
      if c = '"' then
        .ok ([], rest)
      else if c = '\\' then do
        let (escaped, taken) ← escape? opening rest
        let (body, rest) ← readTextBody opening taken rest
        .ok (escaped :: body, rest)
      else if c.toNat < 0x20 then
        fail .controlCharacter (c :: rest)
      else do
        let (body, rest) ← readTextBody opening 0 rest
        .ok (c :: body, rest)

/-- Read a text from after its opening mark. -/
def readText (rest : List Char) : Except Stop (String × List Char) :=
  (readTextBody (rest.length + 1) 0 rest).map fun (body, rest) => (String.ofList body, rest)

/-! ## Numbers -/

/-- The digits of a fraction, with its point, at the front of a text. -/
def fractionPart (cs : List Char) : List Char :=
  match cs with
  | '.' :: rest =>
      let digits := rest.takeWhile Char.isDigit
      if digits.isEmpty then [] else '.' :: digits
  | _ => []

/-- The exponent at the front of a text. -/
def exponentPart (cs : List Char) : List Char :=
  match cs with
  | c :: rest =>
      if c = 'e' || c = 'E' then
        let sign := rest.takeWhile (fun c => c = '+' || c = '-') |>.take 1
        let digits := (rest.drop sign.length).takeWhile Char.isDigit
        if digits.isEmpty then [] else c :: sign ++ digits
      else
        []
  | [] => []

/-- The whole part of a number at the front of a text: one zero, or digits that do not start with
a zero. -/
def wholePart (cs : List Char) : List Char :=
  match cs with
  | '0' :: _ => ['0']
  | cs => cs.takeWhile Char.isDigit

/-- Read a number from the front of a text. -/
def readNumber (cs : List Char) : Except Stop (Json × List Char) :=
  let sign := cs.takeWhile (· = '-') |>.take 1
  let whole := wholePart (cs.drop sign.length)
  if whole.isEmpty then
    fail .missingValue cs
  else
    let rest := cs.drop (sign.length + whole.length)
    let fraction := fractionPart rest
    let exponent := exponentPart (rest.drop fraction.length)
    let rest := rest.drop (fraction.length + exponent.length)
    if fraction.isEmpty && exponent.isEmpty then
      if whole.length > Numeral.digitBound then
        .error (.longInteger whole.length)
      else
        let magnitude : Int := Numeral.valueOf whole
        .ok (.int (if sign.isEmpty then magnitude else -magnitude), rest)
    else
      let value := Binary64.ofText? (sign ++ whole ++ fraction ++ exponent)
      .ok (.float (value.getD .nan), rest)

/-! ## Documents -/

/-- The words that stand for a document. -/
def words : List (List Char × Json) :=
  [("null".toList, .null), ("true".toList, .bool true), ("false".toList, .bool false),
    ("NaN".toList, .float .nan), ("Infinity".toList, .float (.infinite false)),
    ("-Infinity".toList, .float (.infinite true))]

/-- Read a word, or else a number. -/
def readScalar (cs : List Char) : Except Stop (Json × List Char) :=
  match words.find? fun (word, _) => word.isPrefixOf cs with
  | some (word, value) => .ok (value, cs.drop word.length)
  | none => readNumber cs

mutual

/-- Read a document from the front of a text.  The first argument bounds the number of steps. -/
def readValue : Nat → List Char → Except Stop (Json × List Char)
  | 0, cs => fail .missingValue cs
  | fuel + 1, cs =>
      match cs with
      | '"' :: rest => (readText rest).map fun (value, rest) => (.text value, rest)
      | '[' :: rest =>
          match skipSpace rest with
          | ']' :: rest => .ok (.array [], rest)
          | rest => (readItems fuel rest).map fun (items, rest) => (.array items, rest)
      | '\x7b' :: rest =>
          match skipSpace rest with
          | '\x7d' :: rest => .ok (.object [], rest)
          | rest => (readMembers fuel rest).map fun (members, rest) => (ofMembers members, rest)
      | cs => readScalar cs

/-- Read the items of an array and its closing bracket. -/
def readItems : Nat → List Char → Except Stop (List Json × List Char)
  | 0, cs => fail .missingValue cs
  | fuel + 1, cs => do
      let (item, rest) ← readValue fuel cs
      match skipSpace rest with
      | ']' :: rest => .ok ([item], rest)
      | ',' :: rest =>
          let (items, rest) ← readItems fuel (skipSpace rest)
          .ok (item :: items, rest)
      | rest => fail .missingComma rest

/-- Read the members of an object and its closing brace. -/
def readMembers : Nat → List Char → Except Stop (List (String × Json) × List Char)
  | 0, cs => fail .missingValue cs
  | fuel + 1, cs =>
      match cs with
      | '"' :: rest => do
          let (name, rest) ← readText rest
          match skipSpace rest with
          | ':' :: rest =>
              let (value, rest) ← readValue fuel (skipSpace rest)
              match skipSpace rest with
              | '\x7d' :: rest => .ok ([(name, value)], rest)
              | ',' :: rest =>
                  let (members, rest) ← readMembers fuel (skipSpace rest)
                  .ok ((name, value) :: members, rest)
              | rest => fail .missingComma rest
          | rest => fail .missingColon rest
      | cs => fail .missingName cs

end

/-- Read a whole text as one document. -/
def readChars (cs : List Char) : Except Stop Json := do
  let (value, rest) ← readValue (2 * cs.length + 2) (skipSpace cs)
  match skipSpace rest with
  | [] => .ok value
  | rest => fail .trailingText rest

/-- The place in a text where so many characters are left. -/
def locate (cs : List Char) (fault : Fault) (remaining : Nat) : ReadError :=
  let offset := cs.length - remaining
  let before := cs.take offset
  let column := (before.reverse.takeWhile (· ≠ '\n')).length + 1
  .fault fault (before.count '\n' + 1) column offset

/-- The value that was read, or the place where reading a text stopped. -/
def located (cs : List Char) : Except Stop Json → Except ReadError Json
  | .ok value => .ok value
  | .error (.fault fault remaining) => .error (locate cs fault remaining)
  | .error (.longInteger digits) => .error (.longInteger digits)

/-- Read a decoded text as one document. -/
def readDecoded (text : String) : Except ReadError Json :=
  located text.toList (readChars text.toList)

/-- Read a text as one document.  A text may not start with a byte order mark. -/
def read (text : String) : Except ReadError Json :=
  match text.toList with
  | '\ufeff' :: rest => .error (locate ('\ufeff' :: rest) .byteOrderMark (rest.length + 1))
  | cs => located cs (readChars cs)

end QueryGateway.Json
