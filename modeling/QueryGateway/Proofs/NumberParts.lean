import Mathlib.Data.List.TakeWhile
import QueryGateway.Proofs.DocumentTokens

/-!
# The parts of a number

A number at the front of a text is cut into a sign, a whole part, a fraction and
an exponent, each as long as it can be.  The cut does not change when something
else stands behind the number, unless that goes on with it.
-/

namespace QueryGateway.Json

open List

/-! ## Greedy cuts -/

theorem takeWhile_exact
    {accepts : Char → Bool}
    {front rest : List Char}
    (accepted : ∀ c ∈ front, accepts c = true)
    (stops : rest.takeWhile accepts = []) :
    (front ++ rest).takeWhile accepts = front := by
  rw [takeWhile_append_of_pos accepted, stops, append_nil]

/-- A fraction is nothing, or a point and digits. -/
theorem fractionPart_shape
    (cs : List Char) :
    fractionPart cs = [] ∨
      ∃ digits,
        digits ≠ [] ∧ (∀ c ∈ digits, c.isDigit = true) ∧ fractionPart cs = '.' :: digits := by
  unfold fractionPart
  split
  · rename_i rest
    cases digits : rest.takeWhile Char.isDigit with
    | nil =>
        exact .inl rfl
    | cons first more =>
        refine .inr ⟨first :: more, by simp, ?_, rfl⟩
        rw [← digits]
        exact fun _ => mem_takeWhile_imp
  · exact .inl rfl

theorem fractionPart_isPrefix
    (cs : List Char) :
    fractionPart cs <+: cs := by
  unfold fractionPart
  split
  · dsimp only
    split
    · exact nil_prefix
    · exact (prefix_cons_inj '.').mpr ( takeWhile_prefix _)
  · exact nil_prefix

/-- A fraction is cut off in front of anything that does not go on with its digits. -/
theorem fractionPart_digits
    {digits rest : List Char}
    (nonempty : digits ≠ [])
    (allDigits : ∀ c ∈ digits, c.isDigit = true)
    (stops : rest.takeWhile Char.isDigit = []) :
    fractionPart ('.' :: (digits ++ rest)) = '.' :: digits := by
  simp [fractionPart, takeWhile_exact allDigits stops, nonempty]

/-- The sign of an exponent. -/
def IsExponentSign (sign : List Char) : Prop :=
  sign = [] ∨ sign = ['+'] ∨ sign = ['-']

/-- An exponent is nothing, or a letter, at most one sign, and digits. -/
theorem exponentPart_shape
    (cs : List Char) :
    exponentPart cs = [] ∨
      ∃ letter sign digits,
        (letter = 'e' ∨ letter = 'E') ∧ IsExponentSign sign ∧
          digits ≠ [] ∧ (∀ c ∈ digits, c.isDigit = true) ∧
          exponentPart cs = letter :: (sign ++ digits) := by
  cases cs with
  | nil =>
      exact .inl rfl
  | cons letter rest =>
      by_cases isLetter : letter = 'e' ∨ letter = 'E'
      · have letterSign : (letter = 'e' || letter = 'E') = true := by
          simpa using isLetter
        simp only [exponentPart, letterSign, if_true]
        generalize shape : (rest.takeWhile fun c => c = '+' || c = '-').take 1 = sign
        cases digits : (rest.drop sign.length).takeWhile Char.isDigit with
        | nil =>
            exact .inl rfl
        | cons first more =>
            refine .inr ⟨letter, sign, first :: more, isLetter, ?_, by simp, ?_, rfl⟩
            · cases signs : rest.takeWhile fun c => c = '+' || c = '-' with
              | nil =>
                  exact .inl (by simp [← shape, signs])
              | cons c others =>
                  have member : c ∈ rest.takeWhile fun c => c = '+' || c = '-' := by
                    simp [signs]
                  have isSign := mem_takeWhile_imp member
                  simpa [IsExponentSign, ← shape, signs, or_iff_not_imp_left] using isSign
            · rw [← digits]
              exact fun _ => mem_takeWhile_imp
      · have noLetter : (letter = 'e' || letter = 'E') = false := by
          simpa using isLetter
        exact .inl (by simp [exponentPart, noLetter])

theorem exponentPart_isPrefix
    (cs : List Char) :
    exponentPart cs <+: cs := by
  unfold exponentPart
  split
  · rename_i letter rest
    split
    · dsimp only
      split
      · exact nil_prefix
      · rw [cons_append, prefix_cons_inj]
        have signs := ( take_prefix 1 (rest.takeWhile fun c => c = '+' || c = '-')).trans
          ( takeWhile_prefix _)
        generalize (rest.takeWhile fun c => c = '+' || c = '-').take 1 = sign at signs ⊢
        obtain ⟨behind, rfl⟩ := signs
        rw [drop_left, prefix_append_right_inj]
        exact takeWhile_prefix _
    · exact nil_prefix
  · exact nil_prefix

/-- An exponent is cut off in front of anything that does not go on with its digits. -/
theorem exponentPart_digits
    {letter : Char}
    {sign digits rest : List Char}
    (isLetter : letter = 'e' ∨ letter = 'E')
    (isSign : IsExponentSign sign)
    (nonempty : digits ≠ [])
    (allDigits : ∀ c ∈ digits, c.isDigit = true)
    (stops : rest.takeWhile Char.isDigit = []) :
    exponentPart (letter :: (sign ++ (digits ++ rest))) = letter :: (sign ++ digits) := by
  have letterSign : (letter = 'e' || letter = 'E') = true := by
    simpa using isLetter
  have signs :
      ((sign ++ (digits ++ rest)).takeWhile fun c => c = '+' || c = '-').take 1 = sign := by
    obtain ⟨first, more, rfl⟩ := exists_cons_of_ne_nil nonempty
    have digit := allDigits first mem_cons_self
    have noSign : ¬ (first = '+' ∨ first = '-') := by
      rintro (rfl | rfl) <;> cases digit
    rcases isSign with rfl | rfl | rfl <;> simp [noSign]
  simp [exponentPart, letterSign, signs, takeWhile_exact allDigits stops, nonempty]

/-! ## Numbers -/

/-- A number with its parts, and what stands behind it. -/
structure IsCut (sign whole fraction exponent rest : List Char) : Prop where
  sign : sign = [] ∨ sign = ['-']
  nonempty : whole ≠ []
  whole : wholePart (whole ++ (fraction ++ (exponent ++ rest))) = whole
  fraction : fractionPart (fraction ++ (exponent ++ rest)) = fraction
  exponent : exponentPart (exponent ++ rest) = exponent

/-- What a number with its parts is read as. -/
def numberOf (sign whole fraction exponent : List Char) : Except Stop Json :=
  if fraction.isEmpty && exponent.isEmpty then
    if whole.length > Numeral.digitBound then
      .error (.longInteger whole.length)
    else
      .ok (.int (if sign.isEmpty then Numeral.valueOf whole else -Numeral.valueOf whole))
  else
    .ok (.float ((Binary64.ofText? (sign ++ whole ++ fraction ++ exponent)).getD .nan))

/-- A whole part is digits. -/
theorem isDigit_of_mem_wholePart
    {cs : List Char}
    {c : Char}
    (member : c ∈ wholePart cs) :
    c.isDigit = true := by
  unfold wholePart at member
  split at member
  · rw [mem_singleton.mp member]
    rfl
  · exact mem_takeWhile_imp member

theorem wholePart_isPrefix
    (cs : List Char) :
    wholePart cs <+: cs := by
  unfold wholePart
  split
  · exact (prefix_cons_inj '0').mpr nil_prefix
  · exact takeWhile_prefix _

namespace IsCut

variable {sign whole fraction exponent rest : List Char}

theorem isDigit_of_mem
    (isCut : IsCut sign whole fraction exponent rest)
    {c : Char}
    (member : c ∈ whole) :
    c.isDigit = true :=
  isDigit_of_mem_wholePart (isCut.whole ▸ member)

/-- A number starts with a digit or with a sign and a digit. -/
theorem starts
    (isCut : IsCut sign whole fraction exponent rest) :
    ∃ first more, whole = first :: more ∧ first.isDigit = true := by
  obtain ⟨first, more, shape⟩ := exists_cons_of_ne_nil isCut.nonempty
  exact ⟨first, more, shape, isCut.isDigit_of_mem (shape ▸ mem_cons_self)⟩

/-- A number is read off the front of a text. -/
theorem readNumber_eq
    (isCut : IsCut sign whole fraction exponent rest) :
    readNumber (sign ++ (whole ++ (fraction ++ (exponent ++ rest)))) =
      (numberOf sign whole fraction exponent).map (·, rest) := by
  obtain ⟨first, more, shape, digit⟩ := isCut.starts
  have signs :
      ((sign ++ (whole ++ (fraction ++ (exponent ++ rest)))).takeWhile (· = '-')).take 1 =
        sign := by
    have notSign : first ≠ '-' := by
      rintro rfl
      cases digit
    rcases isCut.sign with rfl | rfl <;> simp [shape, notSign]
  have behindSign :
      (sign ++ (whole ++ (fraction ++ (exponent ++ rest)))).drop sign.length =
        whole ++ (fraction ++ (exponent ++ rest)) :=
    drop_left
  have behindWhole :
      (sign ++ (whole ++ (fraction ++ (exponent ++ rest)))).drop (sign.length + whole.length) =
        fraction ++ (exponent ++ rest) := by
    rw [← drop_drop, drop_left, drop_left]
  have behindFraction :
      (fraction ++ (exponent ++ rest)).drop fraction.length = exponent ++ rest :=
    drop_left
  have behindExponent :
      (fraction ++ (exponent ++ rest)).drop (fraction.length + exponent.length) = rest := by
    rw [← drop_drop, drop_left, drop_left]
  have nonempty : whole.isEmpty = false := by
    simp [shape]
  simp only [readNumber, signs, behindSign, isCut.whole, nonempty, Bool.false_eq_true, if_false,
    behindWhole, isCut.fraction, behindFraction, isCut.exponent, behindExponent, numberOf]
  split
  · split <;> rfl
  · rfl

/-- A number is cut alike in front of anything that does not go on with it. -/
theorem of_endsNumber
    (isCut : IsCut sign whole fraction exponent rest)
    {rest' : List Char}
    (ends : EndsNumber rest') :
    IsCut sign whole fraction exponent rest' := by
  have cutExponent : exponentPart (exponent ++ rest') = exponent := by
    rcases exponentPart_shape (exponent ++ rest) with shape | shape
    · rw [isCut.exponent] at shape
      simp [shape, ends.exponentPart_eq_nil]
    · obtain ⟨letter, sign, digits, isLetter, isSign, nonempty, allDigits, shape⟩ := shape
      rw [isCut.exponent] at shape
      rw [shape, cons_append, append_assoc]
      exact exponentPart_digits isLetter isSign nonempty allDigits ends.takeWhile_isDigit
  have noDigit : (exponent ++ rest').takeWhile Char.isDigit = [] := by
    rcases exponentPart_shape (exponent ++ rest) with shape | shape
    · rw [isCut.exponent] at shape
      simp [shape, ends.takeWhile_isDigit]
    · obtain ⟨letter, sign, digits, isLetter, _, _, _, shape⟩ := shape
      rw [isCut.exponent] at shape
      rcases isLetter with rfl | rfl <;> simp [shape]
  have noPoint : fractionPart (exponent ++ rest') = [] := by
    rcases exponentPart_shape (exponent ++ rest) with shape | shape
    · rw [isCut.exponent] at shape
      simp [shape, ends.fractionPart_eq_nil]
    · obtain ⟨letter, sign, digits, isLetter, _, _, _, shape⟩ := shape
      rw [isCut.exponent] at shape
      rcases isLetter with rfl | rfl <;> simp [shape, fractionPart]
  have cutFraction : fractionPart (fraction ++ (exponent ++ rest')) = fraction := by
    rcases fractionPart_shape (fraction ++ (exponent ++ rest)) with shape | shape
    · rw [isCut.fraction] at shape
      simp [shape, noPoint]
    · obtain ⟨digits, nonempty, allDigits, shape⟩ := shape
      rw [isCut.fraction] at shape
      rw [shape, cons_append]
      exact fractionPart_digits nonempty allDigits noDigit
  have noWhole : (fraction ++ (exponent ++ rest')).takeWhile Char.isDigit = [] := by
    rcases fractionPart_shape (fraction ++ (exponent ++ rest)) with shape | shape
    · rw [isCut.fraction] at shape
      simp [shape, noDigit]
    · obtain ⟨digits, _, _, shape⟩ := shape
      rw [isCut.fraction] at shape
      simp [shape]
  have cutWhole : wholePart (whole ++ (fraction ++ (exponent ++ rest'))) = whole := by
    have cut := isCut.whole
    obtain ⟨first, more, rfl, _⟩ := isCut.starts
    by_cases zero : first = '0'
    · simpa [zero, wholePart] using cut
    · simp only [wholePart, cons_append]
      split
      · simp_all
      · rw [← cons_append]
        exact takeWhile_exact (fun _ => isCut.isDigit_of_mem) noWhole
  exact ⟨isCut.sign, isCut.nonempty, cutWhole, cutFraction, cutExponent⟩

end IsCut

/-- What reading a number comes to: there is none, or it is cut into its parts. -/
inductive NumberStep : List Char → Except Stop (Json × List Char) → Prop where
  | missing {cs : List Char} :
      NumberStep cs (fail .missingValue cs)
  | number {sign whole fraction exponent rest : List Char}
      (isCut : IsCut sign whole fraction exponent rest) :
      NumberStep (sign ++ (whole ++ (fraction ++ (exponent ++ rest))))
        ((numberOf sign whole fraction exponent).map (·, rest))

theorem readNumber_step
    (cs : List Char) :
    NumberStep cs (readNumber cs) := by
  have signPrefix := ( take_prefix 1 (cs.takeWhile (· = '-'))).trans ( takeWhile_prefix _)
  have isSign :
      (cs.takeWhile (· = '-')).take 1 = [] ∨ (cs.takeWhile (· = '-')).take 1 = ['-'] := by
    cases signs : cs.takeWhile (· = '-') with
    | nil =>
        exact .inl rfl
    | cons c others =>
        have member : c ∈ cs.takeWhile (· = '-') := by
          simp [signs]
        have minus := mem_takeWhile_imp member
        exact .inr (by simpa using minus)
  cases missing : wholePart (cs.drop ((cs.takeWhile (· = '-')).take 1).length) with
  | nil =>
      have failed : readNumber cs = fail .missingValue cs := by
        simp only [readNumber, missing, isEmpty_nil, if_true]
      rw [failed]
      exact .missing
  | cons first more =>
      generalize (cs.takeWhile (· = '-')).take 1 = sign at signPrefix isSign missing
      obtain ⟨behindSign, rfl⟩ := signPrefix
      rw [drop_left] at missing
      obtain ⟨behindWhole, shapeWhole⟩ := wholePart_isPrefix behindSign
      obtain ⟨behindFraction, shapeFraction⟩ := fractionPart_isPrefix behindWhole
      obtain ⟨rest, shapeExponent⟩ := exponentPart_isPrefix behindFraction
      have isCut :
          IsCut sign (wholePart behindSign) (fractionPart behindWhole)
            (exponentPart behindFraction) rest := by
        refine ⟨isSign, by simp [missing], ?_, ?_, ?_⟩
        · rw [shapeExponent, shapeFraction, shapeWhole]
        · rw [shapeExponent, shapeFraction]
        · rw [shapeExponent]
      have step := NumberStep.number isCut
      rw [← isCut.readNumber_eq, shapeExponent, shapeFraction, shapeWhole] at step
      exact step

end QueryGateway.Json
