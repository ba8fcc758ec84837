import Mathlib.Data.List.Infix
import QueryGateway.Source.Address

/-!
# Escaped text

The escapes of an address can be undone: no character's escape starts that of
another one, so a login that is escaped is still told apart from every other
one.
-/

namespace QueryGateway

open List

/-- What is written item by item tells the items if each of them can be cut off the front. -/
theorem flatMap_injective_of_cancel
    {write : α → List β}
    (nonempty : ∀ item, write item ≠ [])
    (cancel :
      ∀ {item other rest otherRest},
        write item ++ rest = write other ++ otherRest →
        item = other ∧ rest = otherRest) :
    Function.Injective (flatMap write) := by
  intro items
  induction items with
  | nil =>
      rintro (_ | ⟨other, others⟩) same
      · rfl
      · simp [nonempty] at same
  | cons item items inductionHypothesis =>
      rintro (_ | ⟨other, others⟩) same
      · simp [nonempty] at same
      · rw [flatMap_cons, flatMap_cons] at same
        obtain ⟨rfl, rest⟩ := cancel same
        rw [inductionHypothesis rest]

namespace Text

/-- The greatest code point of a character. -/
theorem toNat_lt_codeBound
    (c : Char) :
    c.toNat < 0x110000 := by
  rcases c.valid with low | ⟨_, high⟩
  · exact Nat.lt_trans low (by decide)
  · exact high

/-- The bytes of a character as numbers. -/
theorem map_toNat_utf8OfChar
    (c : Char) :
    (utf8OfChar c).map UInt8.toNat =
      if c.toNat < 0x80 then [c.toNat]
      else if c.toNat < 0x800 then [0xc0 + c.toNat / 0x40, 0x80 + c.toNat % 0x40]
      else if c.toNat < 0x10000 then
        [0xe0 + c.toNat / 0x1000, 0x80 + c.toNat / 0x40 % 0x40, 0x80 + c.toNat % 0x40]
      else
        [0xf0 + c.toNat / 0x40000, 0x80 + c.toNat / 0x1000 % 0x40,
          0x80 + c.toNat / 0x40 % 0x40, 0x80 + c.toNat % 0x40] := by
  have bound := toNat_lt_codeBound c
  unfold utf8OfChar
  dsimp only
  split_ifs <;>
    simp only [map_cons, map_nil, UInt8.toNat_ofNat', cons.injEq, and_true]
  all_goals omega

theorem utf8_singleton
    (c : Char) :
    utf8 [c] = utf8OfChar c :=
  flatMap_singleton utf8OfChar c

theorem utf8OfChar_ne_nil
    (c : Char) :
    utf8OfChar c ≠ [] := by
  intro empty
  have numbers := map_toNat_utf8OfChar c
  rw [empty, map_nil] at numbers
  split_ifs at numbers

/-- The first byte of a character tells how many there are. -/
theorem length_utf8OfChar
    {c d : Char}
    (first : (utf8OfChar c).head? = (utf8OfChar d).head?) :
    (utf8OfChar c).length = (utf8OfChar d).length := by
  have bound := toNat_lt_codeBound c
  have otherBound := toNat_lt_codeBound d
  have firstNumber := congrArg (Option.map UInt8.toNat) first
  rw [← head?_map, ← head?_map, map_toNat_utf8OfChar,
    map_toNat_utf8OfChar] at firstNumber
  have count (e : Char) :
      (utf8OfChar e).length = ((utf8OfChar e).map UInt8.toNat).length :=
    (length_map ..).symm
  rw [count, count, map_toNat_utf8OfChar, map_toNat_utf8OfChar]
  split_ifs at firstNumber ⊢ <;>
    first
      | rfl
      | simp only [head?_cons, Option.some.injEq] at firstNumber
        omega

/-- Different characters have different bytes. -/
theorem utf8OfChar_injective : Function.Injective utf8OfChar := by
  intro c d same
  have numbers := congrArg (map UInt8.toNat) same
  rw [map_toNat_utf8OfChar, map_toNat_utf8OfChar] at numbers
  apply Char.toNat_inj.mp
  split_ifs at numbers <;>
    simp only [cons.injEq, reduceCtorEq, and_false, and_true] at numbers
  all_goals omega

end Text

namespace Address

theorem length_byteEscape
    (byte : UInt8) :
    (byteEscape byte).length = 3 := by
  simp [byteEscape]

/-- The escape of a byte is read back as the byte. -/
theorem hexValue?_byteEscape
    (byte : UInt8) :
    Text.hexValue? (byteEscape byte).tail = some byte.toNat := by
  have all :
      ∀ code : Fin 256,
        Text.hexValue? (byteEscape (.ofNat code)).tail = some code.val := by
    decide +kernel
  have here := all ⟨byte.toNat, byte.toNat_lt⟩
  simpa using here

theorem byteEscape_injective : Function.Injective byteEscape := by
  intro byte other same
  have values := congrArg (fun cs => Text.hexValue? cs.tail) same
  simp only [hexValue?_byteEscape, Option.some.injEq] at values
  exact UInt8.toNat_inj.mp values

/-- An escape can be cut off the front of a text. -/
theorem byteEscape_cancel
    {byte other : UInt8}
    {rest otherRest : List Char}
    (same : byteEscape byte ++ rest = byteEscape other ++ otherRest) :
    byte = other ∧ rest = otherRest := by
  have lengths : (byteEscape byte).length = (byteEscape other).length := by
    rw [length_byteEscape, length_byteEscape]
  obtain ⟨escapes, rests⟩ := append_inj same lengths
  exact ⟨byteEscape_injective escapes, rests⟩

/-- Escaped bytes that stand in front of a text can be cut off if their number is known. -/
theorem flatMap_byteEscape_cancel
    {bytes others : List UInt8}
    {rest otherRest : List Char}
    (lengths : bytes.length = others.length)
    (same :
      bytes.flatMap byteEscape ++ rest = others.flatMap byteEscape ++ otherRest) :
    bytes = others ∧ rest = otherRest := by
  have escapedLengths :
      (bytes.flatMap byteEscape).length = (others.flatMap byteEscape).length := by
    simp [length_flatMap, length_byteEscape, lengths]
  obtain ⟨escapes, rests⟩ := append_inj same escapedLengths
  have nonempty (byte : UInt8) : byteEscape byte ≠ [] := by
    simp [byteEscape]
  exact ⟨flatMap_injective_of_cancel nonempty byteEscape_cancel escapes, rests⟩

/-- What a character is written as can be cut off the front of a text, if the mark of an escape is
escaped itself. -/
theorem encodeChar_cancel
    {safe : Char → Bool}
    (marked : safe '%' = false)
    {c d : Char}
    {rest otherRest : List Char}
    (same : encodeChar safe c ++ rest = encodeChar safe d ++ otherRest) :
    c = d ∧ rest = otherRest := by
  have notMark
      {e : Char}
      (plain : (isUnreserved e || safe e) = true) :
      e ≠ '%' := by
    rintro rfl
    simp [marked, isUnreserved] at plain
  obtain ⟨byte, bytes, isBytes⟩ :=
    exists_cons_of_ne_nil (Text.utf8OfChar_ne_nil c)
  obtain ⟨other, others, isOthers⟩ :=
    exists_cons_of_ne_nil (Text.utf8OfChar_ne_nil d)
  unfold encodeChar at same
  rw [Text.utf8_singleton, Text.utf8_singleton, isBytes, isOthers] at same
  split_ifs at same with plain otherPlain otherPlain
  · simpa using same
  · exact absurd (cons.inj same).1 (notMark plain)
  · exact absurd (cons.inj same).1.symm (notMark otherPlain)
  · have firsts : byte = other := by
      rw [flatMap_cons, flatMap_cons, append_assoc, append_assoc] at same
      exact (byteEscape_cancel same).1
    have lengths : (byte :: bytes).length = (other :: others).length := by
      rw [← isBytes, ← isOthers]
      exact Text.length_utf8OfChar (by rw [isBytes, isOthers, firsts]; rfl)
    obtain ⟨sameBytes, rests⟩ := flatMap_byteEscape_cancel lengths same
    rw [← isBytes, ← isOthers] at sameBytes
    exact ⟨Text.utf8OfChar_injective sameBytes, rests⟩

/-- Different logins are escaped differently. -/
theorem encodeLogin_injective : Function.Injective encodeLogin := by
  intro login other same
  have nonempty (c : Char) :
      encodeChar (fun c => c = ' ' || c = '+') c ≠ [] := by
    obtain ⟨byte, bytes, isBytes⟩ :=
      exists_cons_of_ne_nil (Text.utf8OfChar_ne_nil c)
    rw [encodeChar, Text.utf8_singleton, isBytes]
    split_ifs <;> simp [byteEscape]
  have characters :=
    flatMap_injective_of_cancel nonempty (encodeChar_cancel (by decide))
      (String.ofList_injective same)
  exact String.toList_inj.mp characters

end Address

end QueryGateway
