import QueryGateway.Json.Basic
import QueryGateway.Number.Shortest

/-!
# Writing JSON

A document on one line in ASCII, with a blank after each comma and colon.
Characters beyond ASCII and controls, delete among them, are written as escapes of UTF-16 units,
five controls by a letter.
-/

namespace QueryGateway.Json

/-- The escape of one UTF-16 unit. -/
def unitEscape (unit : Nat) : List Char :=
  '\\' :: 'u' :: Text.hexDigits 4 unit

/-- How one character stands in a written text. -/
def writeChar (c : Char) : List Char :=
  if c = '"' then ['\\', '"']
  else if c = '\\' then ['\\', '\\']
  else if c = '\n' then ['\\', 'n']
  else if c = '\r' then ['\\', 'r']
  else if c = '\t' then ['\\', 't']
  else if c = '\x08' then ['\\', 'b']
  else if c = '\x0c' then ['\\', 'f']
  else if 0x20 ≤ c.toNat && c.toNat < 0x7f then [c]
  else if c.toNat < 0x10000 then unitEscape c.toNat
  else
    let code := c.toNat - 0x10000
    unitEscape (0xd800 + code / 0x400) ++ unitEscape (0xdc00 + code % 0x400)

/-- A text between quotation marks. -/
def writeText (text : String) : String :=
  String.ofList ('"' :: text.toList.flatMap writeChar ++ ['"'])

/-- A floating-point number; the values that are no numbers have words. -/
def writeFloat : Binary64 → String
  | .nan => "NaN"
  | .infinite negative => if negative then "-Infinity" else "Infinity"
  | value => value.text

mutual

/-- A document as text. -/
def write : Json → String
  | .null => "null"
  | .bool value => if value then "true" else "false"
  | .int value => Numeral.ofInt value
  | .float value => writeFloat value
  | .text value => writeText value
  | .array items => "[" ++ ", ".intercalate (writeItems items) ++ "]"
  | .object members => "\x7b" ++ ", ".intercalate (writeMembers members) ++ "\x7d"

/-- The items of an array as texts. -/
def writeItems : List Json → List String
  | [] => []
  | item :: rest => item.write :: writeItems rest

/-- The members of an object as texts. -/
def writeMembers : List (String × Json) → List String
  | [] => []
  | (name, value) :: rest => (writeText name ++ ": " ++ value.write) :: writeMembers rest

end

mutual

/-- Whether all integers in a document are short enough to be written. -/
def isWritable : Json → Bool
  | .int value => Numeral.isWritable value
  | .array items => areWritable items
  | .object members => areWritableMembers members
  | .null | .bool _ | .float _ | .text _ => true

/-- Whether all documents of a list are writable. -/
def areWritable : List Json → Bool
  | [] => true
  | item :: rest => item.isWritable && areWritable rest

/-- Whether the values of all members of an object are writable. -/
def areWritableMembers : List (String × Json) → Bool
  | [] => true
  | (_, value) :: rest => value.isWritable && areWritableMembers rest

end

/-- A document as text, unless an integer in it is too long to be written. -/
def text? (json : Json) : Option String :=
  if json.isWritable then some json.write else none

end QueryGateway.Json
