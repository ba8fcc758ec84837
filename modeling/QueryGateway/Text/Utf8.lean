/-!
# UTF-8

Characters as bytes and back.  Decoding takes the shortest form of each
character only, and a fault names the byte it was found at: a byte that starts
no character, or a byte that does not go on with one.
-/

namespace QueryGateway.Text

/-- The bytes of a character. -/
def utf8OfChar (c : Char) : List UInt8 :=
  let code := c.toNat
  if code < 0x80 then [.ofNat code]
  else if code < 0x800 then [.ofNat (0xc0 + code / 0x40), .ofNat (0x80 + code % 0x40)]
  else if code < 0x10000 then
    [.ofNat (0xe0 + code / 0x1000), .ofNat (0x80 + code / 0x40 % 0x40),
      .ofNat (0x80 + code % 0x40)]
  else
    [.ofNat (0xf0 + code / 0x40000), .ofNat (0x80 + code / 0x1000 % 0x40),
      .ofNat (0x80 + code / 0x40 % 0x40), .ofNat (0x80 + code % 0x40)]

/-- The bytes of a text. -/
def utf8 (cs : List Char) : List UInt8 :=
  cs.flatMap utf8OfChar

/-- What is wrong with bytes that are no text. -/
inductive Utf8Fault where
  | badStart
  | badContinuation (length : Nat)
  | endOfData (length : Nat)
  deriving Repr, DecidableEq

/-- A fault with the number of bytes left where it was found. -/
structure Utf8Error where
  fault : Utf8Fault
  first : UInt8
  remaining : Nat
  deriving Repr, DecidableEq

/-- Whether a byte goes on with a character. -/
def isContinuation (byte : UInt8) : Bool :=
  0x80 ≤ byte && byte < 0xc0

/-- The character with a code point; half of a UTF-16 pair is replaced. -/
def charOfCode (code : Nat) : Char :=
  if 0xd800 ≤ code && code < 0xe000 then '\ufffd' else Char.ofNat code

/-- How many bytes follow the first byte of a character, and the least and greatest value that the
second of them may have.  The halves of UTF-16 pairs are characters only where `halves` says so. -/
def utf8Length? (halves : Bool) (first : UInt8) : Option (Nat × UInt8 × UInt8) :=
  if first < 0x80 then some (0, 0x80, 0xbf)
  else if first < 0xc2 then none
  else if first < 0xe0 then some (1, 0x80, 0xbf)
  else if first < 0xf0 then
    some (2, if first = 0xe0 then 0xa0 else 0x80,
      if first = 0xed && !halves then 0x9f else 0xbf)
  else if first < 0xf5 then
    some (3, if first = 0xf0 then 0x90 else 0x80, if first = 0xf4 then 0x8f else 0xbf)
  else none

/-- How many of the bytes after the first go on with a character. -/
def continuationCount (low high : UInt8) (count : Nat) (rest : List UInt8) : Nat :=
  match rest.take count with
  | [] => 0
  | second :: more =>
      if low ≤ second && second ≤ high then 1 + (more.takeWhile isContinuation).length else 0

/-- The code point of a first byte and the bytes that follow it. -/
def utf8Code (first : UInt8) (following : List UInt8) : Nat :=
  let lead :=
    match following.length with
    | 0 => first.toNat
    | 1 => first.toNat - 0xc0
    | 2 => first.toNat - 0xe0
    | _ => first.toNat - 0xf0
  following.foldl (fun code byte => code * 0x40 + (byte.toNat - 0x80)) lead

/-- The characters that bytes stand for.  The number counts bytes that belong to a character
already read. -/
def decodeUtf8From (halves : Bool) : Nat → List UInt8 → Except Utf8Error (List Char)
  | _, [] => .ok []
  | taken + 1, _ :: rest => decodeUtf8From halves taken rest
  | 0, first :: rest =>
      match utf8Length? halves first with
      | none => .error ⟨.badStart, first, rest.length + 1⟩
      | some (count, low, high) =>
          let found := continuationCount low high count rest
          if found < count then
            let fault :=
              if found = rest.length then .endOfData (found + 1) else .badContinuation (found + 1)
            .error ⟨fault, first, rest.length + 1⟩
          else
            (decodeUtf8From halves count rest).map
              (charOfCode (utf8Code first (rest.take count)) :: ·)

/-- The text that bytes stand for. -/
def decodeUtf8 (data : List UInt8) : Except Utf8Error String :=
  (decodeUtf8From false 0 data).map String.ofList

/-- The text that bytes stand for, if they stand for one. -/
def ofUtf8? (data : List UInt8) : Option String :=
  (decodeUtf8 data).toOption

end QueryGateway.Text
