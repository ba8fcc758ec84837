import QueryGateway.Json.Reader
import QueryGateway.Json.Writer
import QueryGateway.Proofs.EscapedText
import QueryGateway.Proofs.NumberText

/-!
# Texts and integers in JSON documents

A text is read back from between its marks character by character: each one is
written as itself, as an escape of one letter, as one UTF-16 unit, or as a pair
of units.  An integer is read back from its numeral if nothing that could go on
with the numeral stands behind it.
-/

namespace QueryGateway

open List

/-! ## Hexadecimal digits -/

namespace Text

theorem hexDigit?_hexDigit
    (n : Nat) :
    hexDigit? (hexDigit n) = some (n % 16) := by
  have all : ∀ digit : Fin 16, hexDigit? (hexDigit digit) = some digit.val := by
    decide
  have here := all ⟨n % 16, Nat.mod_lt n (by decide)⟩
  rwa [hexDigit, Nat.mod_mod] at here

/-- Digits are read back as the number, as far as they go. -/
theorem hexValue?_hexDigits
    (width n : Nat) :
    hexValue? (hexDigits width n) = some (n % Nat.pow 16 width) := by
  induction width generalizing n with
  | zero =>
      simp [hexDigits, hexValue?, Nat.mod_one]
  | succ width inductionHypothesis =>
      have front := inductionHypothesis (n / 16)
      have power : Nat.pow 16 (width + 1) = 16 * Nat.pow 16 width :=
        Nat.pow_succ'
      rw [hexValue?] at front
      rw [hexDigits, hexValue?, foldl_append, front, foldl_cons, foldl_nil,
        Option.bind_some, hexDigit?_hexDigit, Option.map_some, power, Nat.mod_mul]
      congr 1
      omega

end Text

namespace Json

/-! ## Characters -/

/-- A UTF-16 unit is read back from its digits. -/
theorem unit?_hexDigits
    {unit : Nat}
    (small : unit < 0x10000) :
    unit? (Text.hexDigits 4 unit) = some unit := by
  have bound : unit < Nat.pow 16 4 := small
  rw [unit?, if_pos (Text.length_hexDigits 4 unit), Text.hexValue?_hexDigits,
    Nat.mod_eq_of_lt bound]

/-- No character is half of a pair. -/
theorem charOfUnit_toNat
    (c : Char) :
    isHighHalf c.toNat = false ∧ charOfUnit c.toNat = c := by
  have notHalf : isHighHalf c.toNat = false ∧ isLowHalf c.toNat = false := by
    have valid : c.toNat < 0xd800 ∨ 0xdfff < c.toNat ∧ c.toNat < 0x110000 := c.valid
    simp only [isHighHalf, isLowHalf, Bool.and_eq_false_iff, decide_eq_false_iff_not]
    omega
  refine ⟨notHalf.1, ?_⟩
  rw [charOfUnit, notHalf.1, notHalf.2]
  exact Char.ofNat_toNat c

/-- A character of one unit is read back from its escape. -/
theorem unitEscape?_unit
    {c : Char}
    (small : c.toNat < 0x10000)
    {rest : List Char}
    (goesOn : rest ≠ []) :
    unitEscape? (Text.hexDigits 4 c.toNat ++ rest) = .ok (c, 5) := by
  obtain ⟨notHigh, isChar⟩ := charOfUnit_toNat c
  obtain ⟨next, rest, rfl⟩ := exists_cons_of_ne_nil goesOn
  have digits := Text.length_hexDigits 4 c.toNat
  rw [unitEscape?, take_left' digits, drop_left' digits, unit?_hexDigits small]
  simp [notHigh, isChar]

/-- A pair of units is read back from its escapes. -/
theorem unitEscape?_pair
    {high low : Nat}
    (highHalf : isHighHalf high = true)
    (lowHalf : isLowHalf low = true)
    {rest : List Char}
    (goesOn : rest ≠ []) :
    unitEscape?
        (Text.hexDigits 4 high ++ '\\' :: 'u' :: (Text.hexDigits 4 low ++ rest)) =
      .ok (charOfPair high low, 11) := by
  have highSmall : high < 0x10000 := by
    simp only [isHighHalf, Bool.and_eq_true, decide_eq_true_eq] at highHalf
    omega
  have lowSmall : low < 0x10000 := by
    simp only [isLowHalf, Bool.and_eq_true, decide_eq_true_eq] at lowHalf
    omega
  have highDigits := Text.length_hexDigits 4 high
  have lowDigits := Text.length_hexDigits 4 low
  have long : ¬(Text.hexDigits 4 low ++ rest).length ≤ 4 := by
    have positive := length_pos_of_ne_nil goesOn
    rw [length_append, lowDigits]
    omega
  rw [unitEscape?, take_left' highDigits, drop_left' highDigits,
    unit?_hexDigits highSmall]
  simp only [highHalf, if_neg long, take_left' lowDigits,
    unit?_hexDigits lowSmall, lowHalf, ↓reduceIte]

/-- The pair that a character beyond the units is written as. -/
theorem charOfPair_halves
    {c : Char}
    (large : 0x10000 ≤ c.toNat) :
    isHighHalf (0xd800 + (c.toNat - 0x10000) / 0x400) = true ∧
      isLowHalf (0xdc00 + (c.toNat - 0x10000) % 0x400) = true ∧
      charOfPair (0xd800 + (c.toNat - 0x10000) / 0x400)
          (0xdc00 + (c.toNat - 0x10000) % 0x400) = c := by
  have bound := Text.toNat_lt_codeBound c
  generalize high : (c.toNat - 0x10000) / 0x400 = front
  generalize low : (c.toNat - 0x10000) % 0x400 = back
  have code :
      0x10000 + (0xd800 + front - 0xd800) * 0x400 + (0xdc00 + back - 0xdc00) =
        c.toNat := by
    omega
  simp only [isHighHalf, isLowHalf, Bool.and_eq_true, decide_eq_true_eq]
  refine ⟨by omega, by omega, ?_⟩
  rw [charOfPair, code, Char.ofNat_toNat]

/-! ## Texts -/

/-- Characters that belong to an escape already read are passed over. -/
theorem readTextBody_skip
    (opening : Nat)
    (front rest : List Char) :
    readTextBody opening front.length (front ++ rest) =
      readTextBody opening 0 rest := by
  induction front with
  | nil =>
      rfl
  | cons c front inductionHypothesis =>
      rw [length_cons, cons_append, readTextBody, inductionHypothesis]

/-- A character is read in front of what is read of the rest. -/
def withChar (c : Char) : List Char × List Char → List Char × List Char
  | (body, rest) => (c :: body, rest)

/-- An escape is read as its character, and reading goes on behind it. -/
theorem readTextBody_escape
    (opening : Nat)
    {c : Char}
    {front rest : List Char}
    (escaped : escape? opening (front ++ rest) = .ok (c, front.length)) :
    readTextBody opening 0 ('\\' :: (front ++ rest)) =
      (readTextBody opening 0 rest).map (withChar c) := by
  rw [readTextBody, if_neg (by decide), if_pos rfl]
  simp only [escaped, bind, Except.bind, readTextBody_skip]
  cases readTextBody opening 0 rest <;> rfl

/-- A character that needs no escape is read as itself. -/
theorem readTextBody_plain
    (opening : Nat)
    {c : Char}
    (notMark : c ≠ '"')
    (notBackslash : c ≠ '\\')
    (notControl : 0x20 ≤ c.toNat)
    (rest : List Char) :
    readTextBody opening 0 (c :: rest) =
      (readTextBody opening 0 rest).map (withChar c) := by
  rw [readTextBody, if_neg notMark, if_neg notBackslash,
    if_neg (Nat.not_lt.mpr notControl)]
  simp only [bind, Except.bind]
  cases readTextBody opening 0 rest <;> rfl

/-- A pair of units is read as one character. -/
theorem readTextBody_pair
    (opening : Nat)
    {high low : Nat}
    (highHalf : isHighHalf high = true)
    (lowHalf : isLowHalf low = true)
    {rest : List Char}
    (goesOn : rest ≠ []) :
    readTextBody opening 0 (unitEscape high ++ unitEscape low ++ rest) =
      (readTextBody opening 0 rest).map (withChar (charOfPair high low)) := by
  have length :
      ('u' :: Text.hexDigits 4 high ++ unitEscape low).length = 11 := by
    simp [unitEscape]
  have escaped :
      escape? opening (('u' :: Text.hexDigits 4 high ++ unitEscape low) ++ rest) =
        .ok (charOfPair high low,
          ('u' :: Text.hexDigits 4 high ++ unitEscape low).length) := by
    rw [length, append_assoc]
    exact unitEscape?_pair highHalf lowHalf goesOn
  exact readTextBody_escape opening escaped

/-- Every character is read back from what it is written as. -/
theorem readTextBody_writeChar
    (opening : Nat)
    (c : Char)
    {rest : List Char}
    (goesOn : rest ≠ []) :
    readTextBody opening 0 (writeChar c ++ rest) =
      (readTextBody opening 0 rest).map (withChar c) := by
  have letter
      {letter : Char}
      (notUnit : letter ≠ 'u')
      (escaped : escapedChar? letter = some c) :
      readTextBody opening 0 ('\\' :: ([letter] ++ rest)) =
        (readTextBody opening 0 rest).map (withChar c) := by
    apply readTextBody_escape
    rw [singleton_append, escape?, escaped]
    · rfl
    · exact notUnit
  unfold writeChar
  split_ifs with isMark isBackslash isLine isReturn isTab isBack isPage isPlain isUnit
  · exact letter (by decide) (by rw [isMark]; rfl)
  · exact letter (by decide) (by rw [isBackslash]; rfl)
  · exact letter (by decide) (by rw [isLine]; rfl)
  · exact letter (by decide) (by rw [isReturn]; rfl)
  · exact letter (by decide) (by rw [isTab]; rfl)
  · exact letter (by decide) (by rw [isBack]; rfl)
  · exact letter (by decide) (by rw [isPage]; rfl)
  · rw [Bool.and_eq_true, decide_eq_true_eq] at isPlain
    exact readTextBody_plain opening isMark isBackslash isPlain.1 rest
  · have escaped :
        escape? opening (('u' :: Text.hexDigits 4 c.toNat) ++ rest) =
          .ok (c, ('u' :: Text.hexDigits 4 c.toNat).length) := by
      rw [length_cons, Text.length_hexDigits]
      exact unitEscape?_unit isUnit goesOn
    exact readTextBody_escape opening escaped
  · obtain ⟨highHalf, lowHalf, isChar⟩ := charOfPair_halves (Nat.not_lt.mp isUnit)
    have read := readTextBody_pair opening highHalf lowHalf goesOn
    rw [isChar] at read
    exact read

/-- A text is read back from between its marks. -/
theorem readText_writeText
    (text : String)
    (rest : List Char) :
    readText (text.toList.flatMap writeChar ++ '"' :: rest) = .ok (text, rest) := by
  have body
      (opening : Nat)
      (cs : List Char) :
      readTextBody opening 0 (cs.flatMap writeChar ++ '"' :: rest) = .ok (cs, rest) := by
    induction cs with
    | nil =>
        rw [flatMap_nil, nil_append, readTextBody, if_pos rfl]
    | cons c cs inductionHypothesis =>
        rw [flatMap_cons, append_assoc, readTextBody_writeChar opening c (by simp),
          inductionHypothesis]
        rfl
  rw [readText, body]
  simp [Except.map]

end Json

/-! ## Digits -/

namespace Numeral

theorem isDigit_of_mem_digitsOf
    {n : Nat}
    {c : Char}
    (member : c ∈ digitsOf n) :
    c.isDigit = true :=
  Nat.isDigit_of_mem_toDigits (by decide) (by decide) member

/-- A numeral starts with a digit. -/
theorem digitsOf_cons
    (n : Nat) :
    ∃ first digits, digitsOf n = first :: digits ∧ first.isDigit = true := by
  obtain ⟨first, digits, shape⟩ := exists_cons_of_ne_nil (Nat.toDigits_ne_nil : digitsOf n ≠ [])
  exact ⟨first, digits, shape, isDigit_of_mem_digitsOf (shape ▸ mem_cons_self)⟩

/-- A numeral stands for its number. -/
theorem valueOf_digitsOf
    (n : Nat) :
    valueOf (digitsOf n) = n := by
  have sameSteps :
      valueOf (digitsOf n) = Nat.ofDigitChars 10 (digitsOf n) 0 := by
    rw [valueOf, Nat.ofDigitChars_eq_foldl]
    apply foldl_ext
    intro value c member
    rw [Text.decimalDigit?_ascii (isDigit_of_mem_digitsOf member), Nat.mul_comm]
    rfl
  rw [sameSteps, digitsOf, Nat.ofDigitChars_ten_toDigits]

/-- Only the numeral of zero starts with a zero. -/
theorem digitsOf_head_ne_zero
    {n : Nat}
    (positive : 0 < n) :
    (digitsOf n).head? ≠ some '0' := by
  induction n using Nat.strongRecOn with
  | ind n inductionHypothesis =>
      by_cases small : n < 10
      · have all : ∀ digit : Fin 10, 0 < digit.val → Nat.digitChar digit ≠ '0' := by
          decide
        rw [digitsOf, Nat.toDigits_of_lt_base small, head?_cons, ne_eq,
          Option.some.injEq]
        exact all ⟨n, small⟩ positive
      · have front := inductionHypothesis (n / 10) (by omega) (by omega)
        obtain ⟨first, digits, shape, _⟩ := digitsOf_cons (n / 10)
        rw [shape] at front
        rw [digitsOf] at shape ⊢
        rw [Nat.toDigits_of_base_le (by decide) (Nat.not_lt.mp small), shape]
        exact front

/-- An integer that can be written has a numeral that can be read. -/
theorem length_digitsOf_natAbs
    {n : Int}
    (short : isWritable n = true) :
    (digitsOf n.natAbs).length ≤ digitBound := by
  have fewer
      (digits : Nat)
      (positive : 0 < digits)
      (small : n.natAbs < Nat.pow 10 digits) :
      (digitsOf n.natAbs).length ≤ digits :=
    (Nat.length_toDigits_le_iff (by decide) positive).mpr small
  exact fewer digitBound (by decide) (of_decide_eq_true short)

/-- The text of an integer: its sign and its numeral. -/
theorem toList_ofInt
    (n : Int) :
    (ofInt n).toList = (if n < 0 then ['-'] else []) ++ digitsOf n.natAbs := by
  cases n with
  | ofNat n =>
      simp [ofInt, ofNat]
  | negSucc n =>
      simp [ofInt, ofNat, Int.negSucc_lt_zero]

/-- The text of an integer starts with a digit or a sign. -/
theorem ofInt_cons
    (n : Int) :
    ∃ first rest,
      (ofInt n).toList = first :: rest ∧
        ∀ c : Char, c.isDigit = false → c ≠ '-' → first ≠ c := by
  have nonempty : (ofInt n).toList ≠ [] := by
    rw [toList_ofInt]
    exact append_ne_nil_of_right_ne_nil _ Nat.toDigits_ne_nil
  obtain ⟨first, rest, shape⟩ := exists_cons_of_ne_nil nonempty
  refine ⟨first, rest, shape, ?_⟩
  rintro c notDigit notSign rfl
  rcases ofInt_chars (shape ▸ mem_cons_self) with digit | sign
  · simp [notDigit] at digit
  · exact notSign sign

end Numeral

/-! ## Integers -/

namespace Json

/-- What may stand behind a numeral: nothing that goes on with it. -/
def EndsNumber (rest : List Char) : Prop :=
  ∀ c ∈ rest.head?, c.isDigit = false ∧ c ≠ '.' ∧ c ≠ 'e' ∧ c ≠ 'E'

namespace EndsNumber

variable {rest : List Char}

theorem nil :
    EndsNumber [] := by
  simp [EndsNumber]

theorem cons
    {c : Char}
    (ends : c.isDigit = false ∧ c ≠ '.' ∧ c ≠ 'e' ∧ c ≠ 'E')
    (rest : List Char) :
    EndsNumber (c :: rest) := by
  rintro _ ⟨rfl⟩
  exact ends

theorem takeWhile_isDigit
    (ends : EndsNumber rest) :
    rest.takeWhile Char.isDigit = [] := by
  cases rest with
  | nil =>
      rfl
  | cons c rest =>
      exact takeWhile_cons_of_neg (by simp [(ends c rfl).1])

theorem fractionPart_eq_nil
    (ends : EndsNumber rest) :
    fractionPart rest = [] := by
  unfold fractionPart
  split
  · exact absurd rfl (ends '.' rfl).2.1
  · rfl

theorem exponentPart_eq_nil
    (ends : EndsNumber rest) :
    exponentPart rest = [] := by
  cases rest with
  | nil =>
      rfl
  | cons c rest =>
      simp [exponentPart, (ends c rfl).2.2]

end EndsNumber

/-- The whole part of a numeral is all of it. -/
theorem wholePart_digitsOf
    (n : Nat)
    {rest : List Char}
    (ends : EndsNumber rest) :
    wholePart (Numeral.digitsOf n ++ rest) = Numeral.digitsOf n := by
  rcases Nat.eq_zero_or_pos n with rfl | positive
  · rfl
  · have front := Numeral.digitsOf_head_ne_zero positive
    have digits :
        (Numeral.digitsOf n ++ rest).takeWhile Char.isDigit = Numeral.digitsOf n := by
      rw [takeWhile_append_of_pos fun _ => Numeral.isDigit_of_mem_digitsOf,
        ends.takeWhile_isDigit, append_nil]
    unfold wholePart
    split
    · rename_i startsWithZero
      obtain ⟨first, more, shape, _⟩ := Numeral.digitsOf_cons n
      rw [shape, cons_append, cons.injEq] at startsWithZero
      exact absurd (by rw [shape, startsWithZero.1]; rfl) front
    · exact digits

/-- A numeral with a sign or without one is read as its integer. -/
theorem readNumber_ofInt
    {n : Int}
    (short : Numeral.isWritable n = true)
    {rest : List Char}
    (ends : EndsNumber rest) :
    readNumber ((Numeral.ofInt n).toList ++ rest) = .ok (.int n, rest) := by
  have whole := wholePart_digitsOf n.natAbs ends
  have bound := Numeral.length_digitsOf_natAbs short
  have value := Numeral.valueOf_digitsOf n.natAbs
  obtain ⟨first, digits, shape, digit⟩ := Numeral.digitsOf_cons n.natAbs
  have notSign : first ≠ '-' := by
    rintro rfl
    cases digit
  have signs :
      (((if n < 0 then ['-'] else []) ++ (Numeral.digitsOf n.natAbs ++ rest)).takeWhile
          (· = '-')).take 1 =
        if n < 0 then ['-'] else [] := by
    split <;> simp [shape, notSign]
  have magnitude :
      (if (if n < 0 then ['-'] else []).isEmpty then (n.natAbs : Int) else -n.natAbs) =
        n := by
    by_cases negative : n < 0
    · rw [if_pos negative, isEmpty_cons, if_neg Bool.false_ne_true]
      omega
    · rw [if_neg negative, isEmpty_nil, if_pos rfl]
      omega
  have nonempty : (Numeral.digitsOf n.natAbs).isEmpty = false := by
    rw [shape]
    rfl
  rw [Numeral.toList_ofInt, append_assoc]
  generalize (if n < 0 then ['-'] else []) = sign at signs magnitude ⊢
  generalize Numeral.digitsOf n.natAbs = numeral at whole bound value nonempty signs ⊢
  have behind : (sign ++ (numeral ++ rest)).drop (sign.length + numeral.length) = rest := by
    rw [← append_assoc, ← length_append, drop_left]
  simp only [readNumber, signs, drop_left, whole, nonempty, behind,
    ends.fractionPart_eq_nil, length_nil, drop_zero, ends.exponentPart_eq_nil, value]
  rw [if_neg Bool.false_ne_true, if_pos (by rfl), if_neg (Nat.not_lt.mpr bound), magnitude]
  rfl

/-- No word stands where a numeral does. -/
theorem words_find?_ofInt
    (n : Int)
    (rest : List Char) :
    words.find? (fun (word, _) => word.isPrefixOf ((Numeral.ofInt n).toList ++ rest)) =
      none := by
  obtain ⟨first, digits, shape, digit⟩ := Numeral.digitsOf_cons n.natAbs
  have unlike
      (letter : Char)
      (notDigit : letter.isDigit = false) :
      letter ≠ first := by
    rintro rfl
    simp [notDigit] at digit
  rw [Numeral.toList_ofInt, shape]
  split <;>
    simp [words, unlike 'n' rfl, unlike 't' rfl, unlike 'f' rfl, unlike 'N' rfl,
      unlike 'I' rfl, unlike '-' rfl]

/-- An integer is read back from its text. -/
theorem readScalar_ofInt
    {n : Int}
    (short : Numeral.isWritable n = true)
    {rest : List Char}
    (ends : EndsNumber rest) :
    readScalar ((Numeral.ofInt n).toList ++ rest) = .ok (.int n, rest) := by
  rw [readScalar, words_find?_ofInt]
  exact readNumber_ofInt short ends

end Json

end QueryGateway
