import QueryGateway.Text.Hex
import QueryGateway.Text.Printable

/-!
# Quoted display form

The form in which a text or a byte string is shown inside a message: between
apostrophes, or between quotation marks if it holds an apostrophe and no
quotation mark, with an escape for the mark in use, the backslash and
everything that cannot be printed.
-/

namespace QueryGateway.Text

/-- The mark that a display form stands between. -/
def displayMark (cs : List Char) : Char :=
  if cs.contains '\'' && !cs.contains '"' then '"' else '\''

/-- The escape of a character by its code point, in the shortest of the three widths. -/
def codeEscape (code : Nat) : List Char :=
  if code < 0x100 then '\\' :: 'x' :: hexDigits 2 code
  else if code < 0x10000 then '\\' :: 'u' :: hexDigits 4 code
  else '\\' :: 'U' :: hexDigits 8 code

/-- The escape of a character that has a letter of its own, or that ends or escapes the form. -/
def namedEscape? (mark c : Char) : Option (List Char) :=
  if c = mark || c = '\\' then some ['\\', c]
  else if c = '\n' then some ['\\', 'n']
  else if c = '\r' then some ['\\', 'r']
  else if c = '\t' then some ['\\', 't']
  else none

/-- How one character of a text is shown. -/
def displayChar (mark c : Char) : List Char :=
  (namedEscape? mark c).getD (if isPrintable c then [c] else codeEscape c.toNat)

/-- A text in quoted display form. -/
def display (text : String) : String :=
  let cs := text.toList
  let mark := displayMark cs
  String.ofList (mark :: cs.flatMap (displayChar mark) ++ [mark])

/-- How one byte is shown: as its ASCII character if that can be printed.  A guarded apostrophe is
escaped whatever mark is in use. -/
def displayByte (guarded : Bool) (mark c : Char) : List Char :=
  if guarded && c = '\'' then
    ['\\', c]
  else
    (namedEscape? mark c).getD (if c.toNat < 0x80 && isPrintable c then [c] else codeEscape c.toNat)

/-- A byte string in quoted display form, with its apostrophes guarded or not. -/
def displayBytes (guarded : Bool) (data : List UInt8) : String :=
  let cs := data.map fun byte => Char.ofNat byte.toNat
  let mark := displayMark cs
  String.ofList ('b' :: mark :: cs.flatMap (displayByte guarded mark) ++ [mark])

end QueryGateway.Text
