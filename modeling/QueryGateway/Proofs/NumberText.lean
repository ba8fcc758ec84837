import QueryGateway.Number.Decimal
import QueryGateway.Number.Shortest
import QueryGateway.Proofs.TidyPieces

/-!
# The texts of numbers are sound

A number stands in a statement by its text, without quotes.  Such a text holds
digits, a point, a mark before an exponent and signs; a hyphen in it is never
followed by another one, because only a sign is a hyphen and digits come
between two signs.  So no text of a number opens a comment or a token, and none
ends with a hyphen that could open one with what comes next.
-/

namespace QueryGateway

open List Sql

/-- Whether a character is a digit, a point, a mark before an exponent or the sign of a positive
one. -/
def isQuietChar (c : Char) : Bool :=
  c.isDigit || c = '.' || c = '+' || c = 'e' || c = 'E'

/-- Characters of which none takes part in a token, a placeholder or a comment or ends a line. -/
def Quiet (cs : List Char) : Prop :=
  ∀ c ∈ cs, isQuietChar c = true

/-- A quiet character is no mark, no colon, no hyphen and no slash. -/
theorem bareChar_of_quiet
    {c : Char}
    (quiet : isQuietChar c = true) :
    isBareChar c = true ∧ c ≠ '-' ∧ c ≠ '/' := by
  have unlike
      (other : Char)
      (loud : isQuietChar other = false) :
      c ≠ other := by
    rintro rfl
    simp [loud] at quiet
  simp [isBareChar, unlike '\'' (by decide), unlike '"' (by decide),
    unlike '\x60' (by decide), unlike ':' (by decide), unlike '-' (by decide),
    unlike '/' (by decide)]

namespace Quiet

/-- Quiet stretches stay quiet one after the other. -/
theorem append
    {first second : List Char}
    (firstQuiet : Quiet first)
    (secondQuiet : Quiet second) :
    Quiet (first ++ second) := by
  intro c member
  rcases mem_append.mp member with inFirst | inSecond
  · exact firstQuiet c inFirst
  · exact secondQuiet c inSecond

/-- Digits are quiet. -/
theorem of_digits
    {cs : List Char}
    (digits : ∀ c ∈ cs, c.isDigit = true) :
    Quiet cs := by
  intro c member
  simp [isQuietChar, digits c member]

/-- A quiet character opens no comment with any other. -/
theorem opensComment_eq_false
    {c : Char}
    (quiet : isQuietChar c = true)
    (next : Char) :
    opensComment c next = false := by
  obtain ⟨_, notHyphen, notSlash⟩ := bareChar_of_quiet quiet
  simp [opensComment, notHyphen, notSlash]

/-- A zero is quiet. -/
theorem zero :
    Quiet ['0'] :=
  of_digits (by simp)

/-- Quiet characters before calm text leave it calm. -/
theorem append_calm
    {front rest : List Char}
    (quiet : Quiet front)
    (calm : Calm rest) :
    Calm (front ++ rest) := by
  induction front with
  | nil =>
      exact calm
  | cons c front inductionHypothesis =>
      have charQuiet : isQuietChar c = true := quiet c (by simp)
      have frontQuiet : Quiet front :=
        fun d member => quiet d (by simp [member])
      exact (inductionHypothesis frontQuiet).cons (bareChar_of_quiet charQuiet).1
        fun d _ => opensComment_eq_false charQuiet d

/-- What is quiet is calm. -/
theorem calm
    {cs : List Char}
    (quiet : Quiet cs) :
    Calm cs := by
  have empty : Calm [] := ⟨by simp, .nil⟩
  simpa using quiet.append_calm empty

end Quiet

/-- Calm text behind a hyphen stays calm if it does not start with a hyphen. -/
theorem Sql.Calm.cons_hyphen
    {cs : List Char}
    (calm : Calm cs)
    (start : ∀ d ∈ cs.head?, isQuietChar d = true) :
    Calm ('-' :: cs) := by
  apply calm.cons (by decide)
  intro d first
  obtain ⟨_, notHyphen, _⟩ := bareChar_of_quiet (start d first)
  simp [opensComment, notHyphen]

/-- The form of the text of a number without its sign: quiet, or quiet on both sides of the sign
of a negative exponent. -/
inductive Magnitude : List Char → Prop where
  | plain {cs : List Char} : cs ≠ [] → Quiet cs → Magnitude cs
  | scaled {front back : List Char} :
      front ≠ [] → Quiet front → back ≠ [] → Quiet back →
      Magnitude (front ++ '-' :: back)

namespace Magnitude

/-- The text of a number is not empty and starts with a quiet character. -/
theorem head_quiet
    {cs : List Char}
    (magnitude : Magnitude cs) :
    ∃ c rest, cs = c :: rest ∧ isQuietChar c = true := by
  cases magnitude with
  | plain nonempty quiet =>
      obtain ⟨c, rest, rfl⟩ := exists_cons_of_ne_nil nonempty
      exact ⟨c, rest, rfl, quiet c (by simp)⟩
  | scaled nonempty frontQuiet _ _ =>
      obtain ⟨c, rest, rfl⟩ := exists_cons_of_ne_nil nonempty
      exact ⟨c, _, rfl, frontQuiet c (by simp)⟩

/-- A magnitude is calm. -/
theorem calm
    {cs : List Char}
    (magnitude : Magnitude cs) :
    Calm cs := by
  cases magnitude with
  | plain _ quiet =>
      exact quiet.calm
  | scaled _ frontQuiet _ backQuiet =>
      apply frontQuiet.append_calm
      apply backQuiet.calm.cons_hyphen
      intro d first
      exact backQuiet d (mem_of_head? first)

/-- A number with a sign or without one is sound bare text. -/
theorem sound
    {text : String}
    (magnitude : Magnitude text.toList)
    (negative : Bool) :
    (Piece.bare ((if negative then "-" else "") ++ text)).Sound := by
  obtain ⟨c, rest, shape, quiet⟩ := magnitude.head_quiet
  cases negative with
  | true =>
      have written : ("-" ++ text).toList = '-' :: text.toList := by
        simp
      refine ⟨by simp, ?_⟩
      simp only [↓reduceIte]
      rw [written]
      apply magnitude.calm.cons_hyphen
      simpa [shape] using quiet
  | false =>
      have written : ("" ++ text).toList = text.toList := by
        simp
      simp only [Bool.false_eq_true, ↓reduceIte, Piece.Sound]
      rw [written]
      exact ⟨by simp [shape], magnitude.calm⟩

/-- The characters of a magnitude are quiet or the sign of an exponent. -/
theorem chars
    {cs : List Char}
    (magnitude : Magnitude cs) :
    ∀ c ∈ cs, isQuietChar c = true ∨ c = '-' := by
  intro c member
  cases magnitude with
  | plain _ quiet =>
      exact Or.inl (quiet c member)
  | scaled _ frontQuiet _ backQuiet =>
      rcases mem_append.mp member with inFront | inBack
      · exact Or.inl (frontQuiet c inFront)
      · rcases mem_cons.mp inBack with isSign | inBack
        · exact Or.inr isSign
        · exact Or.inl (backQuiet c inBack)

/-- The text of a number ends with a quiet character. -/
theorem last_quiet
    {cs : List Char}
    (magnitude : Magnitude cs) :
    ∃ c ∈ cs.getLast?, isQuietChar c = true := by
  have quietEnd
      {part : List Char}
      (nonempty : part ≠ [])
      (quiet : Quiet part) :
      ∃ c ∈ part.getLast?, isQuietChar c = true :=
    ⟨_, getLast?_eq_some_getLast nonempty, quiet _ (getLast_mem nonempty)⟩
  cases magnitude with
  | plain nonempty quiet =>
      exact quietEnd nonempty quiet
  | @scaled front back _ _ nonempty backQuiet =>
      obtain ⟨c, isLast, quiet⟩ := quietEnd nonempty backQuiet
      refine ⟨c, ?_, quiet⟩
      rw [getLast?_append, getLast?_cons, isLast]
      rfl

/-- Digits, perhaps with a mark before an exponent and its sign, have the form of a number. -/
theorem of_exponent
    {mantissa exponent : List Char}
    (mantissaQuiet : Quiet mantissa)
    (exponentNonempty : exponent ≠ [])
    (exponentQuiet : Quiet exponent)
    {mark : Char}
    (markQuiet : isQuietChar mark = true)
    (negative : Prop)
    [Decidable negative] :
    Magnitude
      (mantissa ++ (if negative then [mark, '-'] else [mark, '+'])
        ++ exponent) := by
  have front : Quiet (mantissa ++ [mark]) :=
    mantissaQuiet.append (by simpa [Quiet] using markQuiet)
  split
  · have shape :
        mantissa ++ [mark, '-'] ++ exponent =
          (mantissa ++ [mark]) ++ '-' :: exponent := by
      simp
    rw [shape]
    exact .scaled (by simp) front exponentNonempty exponentQuiet
  · have shape :
        mantissa ++ [mark, '+'] ++ exponent =
          (mantissa ++ [mark]) ++ ('+' :: exponent) := by
      simp
    rw [shape]
    refine .plain (by simp) (front.append ?_)
    intro c member
    rcases mem_cons.mp member with rfl | inExponent
    · decide
    · exact exponentQuiet c inExponent

end Magnitude

/-- The text of a magnitude, behind a sign if the number is negative. -/
def IsNumberText (text : String) : Prop :=
  ∃ (negative : Bool) (magnitude : String),
    Magnitude magnitude.toList ∧
      text = (if negative then "-" else "") ++ magnitude

namespace IsNumberText

/-- A number reads as itself. -/
theorem sound
    {text : String}
    (isNumber : IsNumberText text) :
    (Piece.bare text).Sound := by
  obtain ⟨negative, magnitude, form, rfl⟩ := isNumber
  exact form.sound negative

/-- The characters of a number are quiet or signs. -/
theorem chars
    {text : String}
    (isNumber : IsNumberText text) :
    ∀ c ∈ text.toList, isQuietChar c = true ∨ c = '-' := by
  obtain ⟨negative, magnitude, form, rfl⟩ := isNumber
  intro c member
  rw [String.toList_append] at member
  rcases mem_append.mp member with isSign | inMagnitude
  · right
    cases negative with
    | true =>
        simpa using isSign
    | false =>
        simp at isSign
  · exact form.chars c inMagnitude

/-- A number ends with a quiet character. -/
theorem last_quiet
    {text : String}
    (isNumber : IsNumberText text) :
    ∃ c ∈ text.toList.getLast?, isQuietChar c = true := by
  obtain ⟨negative, magnitude, form, rfl⟩ := isNumber
  obtain ⟨c, isLast, quiet⟩ := form.last_quiet
  refine ⟨c, ?_, quiet⟩
  rw [String.toList_append, getLast?_append, isLast]
  rfl

/-- A number stands on one line. -/
theorem onLine
    {text : String}
    (isNumber : IsNumberText text) :
    '\n' ∉ text.toList := by
  intro member
  rcases isNumber.chars _ member with quiet | sign
  · exact absurd quiet (by decide)
  · exact absurd sign (by decide)

end IsNumberText

/-! ## Integers -/

namespace Numeral

/-- Digits are quiet. -/
theorem digitsOf_quiet
    (n : Nat) :
    Quiet (digitsOf n) :=
  Quiet.of_digits fun _ member =>
    Nat.isDigit_of_mem_toDigits (by decide) (by decide) member

/-- Digits are a magnitude. -/
theorem digitsOf_magnitude
    (n : Nat) :
    Magnitude (digitsOf n) :=
  .plain Nat.toDigits_ne_nil (digitsOf_quiet n)

/-- The text of an integer is a number. -/
theorem ofInt_isNumberText
    (n : Int) :
    IsNumberText (ofInt n) := by
  cases n with
  | ofNat n =>
      refine ⟨false, ofNat n, ?_, by simp [ofInt]⟩
      simpa [ofNat] using digitsOf_magnitude n
  | negSucc n =>
      refine ⟨true, ofNat (n + 1), ?_, by simp [ofInt]⟩
      simpa [ofNat] using digitsOf_magnitude (n + 1)

/-- The text of an integer is sound. -/
theorem ofInt_sound
    (n : Int) :
    (Piece.bare (ofInt n)).Sound :=
  (ofInt_isNumberText n).sound

/-- The integer with a text. -/
def integerOf : List Char → Int
  | '-' :: digits => -(Nat.ofDigitChars 10 digits 0)
  | digits => Nat.ofDigitChars 10 digits 0

/-- An integer is read back from its text. -/
theorem integerOf_ofInt
    (n : Int) :
    integerOf (ofInt n).toList = n := by
  cases n with
  | ofNat n =>
      rw [ofInt, ofNat, String.toList_ofList, integerOf, digitsOf,
        Nat.ofDigitChars_ten_toDigits]
      · rfl
      · intro digits signed
        have isDigit : '-'.isDigit = true :=
          Nat.isDigit_of_mem_toDigits (by decide) (by decide)
            (signed ▸ mem_cons_self)
        exact absurd isDigit (by decide)
  | negSucc n =>
      have written :
          (ofInt (.negSucc n)).toList = '-' :: digitsOf (n + 1) := by
        simp [ofInt, ofNat]
      rw [written, integerOf, digitsOf, Nat.ofDigitChars_ten_toDigits]
      rfl

/-- The text of an integer tells which integer it is. -/
theorem ofInt_injective :
    Function.Injective ofInt := by
  intro m n same
  rw [← integerOf_ofInt m, same, integerOf_ofInt]

/-- The text of an integer holds digits and a sign. -/
theorem ofInt_chars
    {n : Int}
    {c : Char}
    (member : c ∈ (ofInt n).toList) :
    c.isDigit = true ∨ c = '-' := by
  have ofDigits
      {m : Nat}
      (inDigits : c ∈ (ofNat m).toList) :
      c.isDigit = true := by
    rw [ofNat, String.toList_ofList] at inDigits
    exact Nat.isDigit_of_mem_toDigits (by decide) (by decide) inDigits
  cases n with
  | ofNat n =>
      exact Or.inl (ofDigits member)
  | negSucc n =>
      rw [ofInt, String.toList_append] at member
      rcases mem_append.mp member with isSign | inDigits
      · exact Or.inr (by simpa using isSign)
      · exact Or.inl (ofDigits inDigits)

/-- A text with a character that is neither a digit nor a sign is the text of no integer. -/
theorem ofInt_ne
    {text : String}
    {c : Char}
    (member : c ∈ text.toList)
    (noNumber : c.isDigit = false ∧ c ≠ '-')
    (n : Int) :
    ofInt n ≠ text := by
  rintro rfl
  rcases ofInt_chars member with digit | sign
  · simp [digit] at noNumber
  · exact noNumber.2 sign

/-- A padded number has digits. -/
theorem padded_ne_nil
    (width n : Nat) :
    (padded width n).toList ≠ [] := by
  rw [padded, String.toList_ofList]
  exact append_ne_nil_of_right_ne_nil _ Nat.toDigits_ne_nil

/-- A padded number is quiet. -/
theorem padded_quiet
    (width n : Nat) :
    Quiet (padded width n).toList := by
  rw [padded, String.toList_ofList]
  exact (Quiet.of_digits (by simp)).append (digitsOf_quiet n)

end Numeral

/-! ## Numbers with a point -/

namespace Quiet

/-- A part of quiet text is quiet. -/
theorem of_subset
    {cs part : List Char}
    (quiet : Quiet cs)
    (subset : part ⊆ cs) :
    Quiet part :=
  fun c member => quiet c (subset member)

/-- A point between quiet texts gives the form of a number. -/
theorem magnitude_point
    {front back : List Char}
    (frontQuiet : Quiet front)
    (backQuiet : Quiet back) :
    Magnitude (front ++ '.' :: back) := by
  refine .plain (by simp) (frontQuiet.append ?_)
  intro c member
  rcases mem_cons.mp member with rfl | inBack
  · decide
  · exact backQuiet c inBack

end Quiet

/-- The first digit of a number and the other ones behind a point are quiet. -/
theorem quiet_mantissa
    {digits : List Char}
    (quiet : Quiet digits) :
    Quiet
      (String.ofList (digits.take 1) ++
        (if (digits.drop 1).isEmpty then ""
          else "." ++ String.ofList (digits.drop 1))).toList := by
  rw [String.toList_append, String.toList_ofList]
  apply (quiet.of_subset (take_subset 1 digits)).append
  split
  · simp [Quiet]
  · intro c member
    have inPoint : c ∈ '.' :: digits.drop 1 := by
      simpa using member
    rcases mem_cons.mp inPoint with rfl | inDigits
    · decide
    · exact quiet c (drop_subset 1 digits inDigits)

namespace Decimal

/-- The text of a decimal number without its sign has the form of a number. -/
theorem magnitudeText_magnitude
    (coefficient : Nat)
    (exponent : Int) :
    Magnitude (magnitudeText coefficient exponent).toList := by
  have quiet := Numeral.digitsOf_quiet coefficient
  unfold magnitudeText
  dsimp only
  split
  · split
    · rw [String.toList_ofList]
      exact Numeral.digitsOf_magnitude coefficient
    · split
      · simpa using
          (quiet.of_subset (take_subset _ _)).magnitude_point
            (quiet.of_subset (drop_subset _ _))
      · simpa using
          Quiet.zero.magnitude_point
            ((Quiet.of_digits (by simp)).append quiet)
  · rw [String.toList_append, String.toList_append,
      apply_ite String.toList]
    refine Magnitude.of_exponent (quiet_mantissa quiet) ?nonempty ?quiet
      (by decide) _
    all_goals rw [Numeral.ofNat, String.toList_ofList]
    case nonempty => exact Nat.toDigits_ne_nil
    case quiet => exact Numeral.digitsOf_quiet _

/-- The text of a finite decimal is a number. -/
theorem text_isNumberText
    {value : Decimal}
    (finite : value.isFinite = true) :
    IsNumberText value.text := by
  cases value with
  | finite negative coefficient exponent =>
      exact ⟨negative, _, magnitudeText_magnitude coefficient exponent, rfl⟩
  | infinite negative =>
      simp [isFinite] at finite
  | nan negative signaling payload =>
      simp [isFinite] at finite

/-- The text of a finite decimal number is sound. -/
theorem text_sound
    {value : Decimal}
    (finite : value.isFinite = true) :
    (Piece.bare value.text).Sound :=
  (text_isNumberText finite).sound

end Decimal

/-- The layout of a scaled decimal has the form of a number. -/
theorem ScaledDecimal.text_magnitude
    (value : ScaledDecimal) :
    Magnitude value.text.toList := by
  have quiet := Numeral.digitsOf_quiet value.digits
  unfold ScaledDecimal.text
  dsimp only
  split
  · split
    · simpa using
        (quiet.append (Quiet.of_digits (by simp))).magnitude_point
          Quiet.zero
    · split
      · simpa using
          (quiet.of_subset (take_subset _ _)).magnitude_point
            (quiet.of_subset (drop_subset _ _))
      · simpa using
          Quiet.zero.magnitude_point
            ((Quiet.of_digits (by simp)).append quiet)
  · rw [String.toList_append, String.toList_append,
      apply_ite String.toList]
    exact Magnitude.of_exponent (quiet_mantissa quiet)
      (Numeral.padded_ne_nil _ _) (Numeral.padded_quiet _ _) (by decide) _

namespace Binary64

/-- The text of a finite float is a number. -/
theorem text_isNumberText
    {value : Binary64}
    (finite : value.isFinite = true) :
    IsNumberText value.text := by
  cases value with
  | finite negative mantissa exponent =>
      have magnitude : Magnitude (magnitudeText mantissa exponent).toList := by
        unfold magnitudeText
        split
        · have zero : Quiet ['0'] := Quiet.of_digits (by simp)
          exact zero.magnitude_point zero
        · exact ScaledDecimal.text_magnitude _
      exact ⟨negative, _, magnitude, rfl⟩
  | infinite negative =>
      simp [isFinite] at finite
  | nan =>
      simp [isFinite] at finite

/-- The text of a finite floating-point value is sound. -/
theorem text_sound
    {value : Binary64}
    (finite : value.isFinite = true) :
    (Piece.bare value.text).Sound :=
  (text_isNumberText finite).sound

end Binary64

end QueryGateway
