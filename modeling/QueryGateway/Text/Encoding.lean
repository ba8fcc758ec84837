import QueryGateway.Number.Numeral
import QueryGateway.Text.Hex
import QueryGateway.Text.Utf8

/-!
# Encoded documents

A document may come as bytes.  Its encoding shows in the mark it starts with,
or else in where its first bytes are zero, because a document starts with an
ASCII character.
-/

namespace QueryGateway.Text

/-- The order of the bytes of a unit. -/
inductive ByteOrder where
  | little
  | big
  deriving Repr, DecidableEq

/-- The encodings of a document. -/
inductive Encoding where
  | utf8
  | utf16 (order : ByteOrder)
  | utf32 (order : ByteOrder)
  deriving Repr, DecidableEq

/-- The suffix that names a byte order. -/
def ByteOrder.name : ByteOrder → String
  | .little => "le"
  | .big => "be"

/-- The name of an encoding. -/
def Encoding.name : Encoding → String
  | .utf8 => "utf-8"
  | .utf16 order => "utf-16-" ++ order.name
  | .utf32 order => "utf-32-" ++ order.name

/-- The encoding of a document that starts with a mark, and the length of the mark. -/
def markedEncoding? : List UInt8 → Option (Encoding × Nat)
  | 0x00 :: 0x00 :: 0xfe :: 0xff :: _ => some (.utf32 .big, 4)
  | 0xff :: 0xfe :: 0x00 :: 0x00 :: _ => some (.utf32 .little, 4)
  | 0xfe :: 0xff :: _ => some (.utf16 .big, 2)
  | 0xff :: 0xfe :: _ => some (.utf16 .little, 2)
  | 0xef :: 0xbb :: 0xbf :: _ => some (.utf8, 3)
  | _ => none

/-- The encoding of a document without a mark. -/
def plainEncoding : List UInt8 → Encoding
  | [0, _] => .utf16 .big
  | [_, 0] => .utf16 .little
  | a :: b :: c :: d :: _ =>
      if a = 0 then
        if b = 0 then .utf32 .big else .utf16 .big
      else if b = 0 then
        if c = 0 && d = 0 then .utf32 .little else .utf16 .little
      else
        .utf8
  | _ => .utf8

/-- Bytes that are no text in their encoding: the bytes from `start` to before `stop`, the first of
them, and the reason. -/
structure DecodeError where
  encoding : Encoding
  first : UInt8
  start : Nat
  stop : Nat
  reason : String
  deriving Repr, DecidableEq

/-- The description of a decoding error. -/
def DecodeError.message (error : DecodeError) : String :=
  let place :=
    if error.stop = error.start + 1 then
      "byte 0x" ++ String.ofList (hexDigits 2 error.first.toNat) ++ " in position "
        ++ Numeral.ofNat error.start
    else
      "bytes in position " ++ Numeral.ofNat error.start ++ "-" ++ Numeral.ofNat (error.stop - 1)
  "'" ++ error.encoding.name ++ "' codec can't decode " ++ place ++ ": " ++ error.reason

/-- The unit that bytes make up. -/
def unitOfBytes (order : ByteOrder) (bytes : List UInt8) : Nat :=
  let ordered :=
    match order with
    | .little => bytes.reverse
    | .big => bytes
  ordered.foldl (fun unit byte => unit * 0x100 + byte.toNat) 0

/-- The characters of UTF-16 units; half a pair is replaced. -/
def charsOfUnits : List Nat → List Char
  | [] => []
  | [unit] => [charOfCode unit]
  | high :: low :: rest =>
      if 0xd800 ≤ high && high < 0xdc00 && 0xdc00 ≤ low && low < 0xe000 then
        Char.ofNat (0x10000 + (high - 0xd800) * 0x400 + (low - 0xdc00)) :: charsOfUnits rest
      else
        charOfCode high :: charsOfUnits (low :: rest)

/-- The units of two bytes from a position on. -/
def decodeUnits16 (order : ByteOrder) : Nat → List UInt8 → Except DecodeError (List Nat)
  | _, [] => .ok []
  | position, [a] => .error ⟨.utf16 order, a, position, position + 1, "truncated data"⟩
  | position, a :: b :: rest =>
      (decodeUnits16 order (position + 2) rest).map (unitOfBytes order [a, b] :: ·)

/-- The characters of units of four bytes from a position on. -/
def decodeUtf32 (order : ByteOrder) : Nat → List UInt8 → Except DecodeError (List Char)
  | _, [] => .ok []
  | position, a :: b :: c :: d :: rest =>
      let code := unitOfBytes order [a, b, c, d]
      if code < 0x110000 then
        (decodeUtf32 order (position + 4) rest).map (charOfCode code :: ·)
      else
        .error ⟨.utf32 order, a, position, position + 4, "code point not in range(0x110000)"⟩
  | position, a :: rest =>
      .error ⟨.utf32 order, a, position, position + 1 + rest.length, "truncated data"⟩

/-- The error of a document in UTF-8. -/
def DecodeError.ofUtf8 (length : Nat) (error : Utf8Error) : DecodeError :=
  let start := length - error.remaining
  let failed (count : Nat) (reason : String) : DecodeError :=
    ⟨.utf8, error.first, start, start + count, reason⟩
  match error.fault with
  | .badStart => failed 1 "invalid start byte"
  | .badContinuation count => failed count "invalid continuation byte"
  | .endOfData count => failed count "unexpected end of data"

/-- The text of an encoded document. -/
def decodeDocument (data : List UInt8) : Except DecodeError String :=
  let (encoding, markLength) := (markedEncoding? data).getD (plainEncoding data, 0)
  let body := data.drop markLength
  match encoding with
  | .utf8 =>
      match decodeUtf8From true 0 body with
      | .ok cs => .ok (String.ofList cs)
      | .error error => .error (.ofUtf8 body.length error)
  | .utf16 order =>
      (decodeUnits16 order markLength body).map fun units => String.ofList (charsOfUnits units)
  | .utf32 order => (decodeUtf32 order markLength body).map String.ofList

end QueryGateway.Text
