import QueryGateway.Proofs.DocumentFronts

/-!
# Integers of too many digits

An integer of too many digits is refused as soon as it is read, whatever stands
behind it.  So a text is refused for one exactly if it can be cut in two: a
front that is the beginning of a document and breaks off where a value is due,
and a rest that starts with the integer.
-/

namespace QueryGateway.Json

open List

/-! ## Where the integer stands -/

/-- A text that starts with an integer of so many digits, which are too many: with a sign or
without one, with no zero in front, and with nothing behind that goes on with the numeral. -/
inductive StartsLong (count : Nat) : List Char → Prop where
  | numeral {sign digits rest : List Char}
      (isSign : sign = [] ∨ sign = ['-'])
      (allDigits : ∀ c ∈ digits, c.isDigit = true)
      (noZero : digits.head? ≠ some '0')
      (length : digits.length = count)
      (long : Numeral.digitBound < count)
      (noDigit : rest.takeWhile Char.isDigit = [])
      (noFraction : fractionPart rest = [])
      (noExponent : exponentPart rest = []) :
      StartsLong count (sign ++ (digits ++ rest))

/-- Where reading stops if the text breaks off and a value is due. -/
abbrev Stop.valueDue : Stop :=
  .fault .missingValue 0

/-- A text that is the beginning of a document and breaks off where a value is due. -/
def BreaksOff (cs : List Char) : Prop :=
  readChars cs = .error .valueDue

/-- A text with an integer of too many digits in a place where a value is due. -/
def HoldsLong (count : Nat) (cs : List Char) : Prop :=
  ∃ front due, cs = front ++ due ∧ BreaksOff front ∧ StartsLong count due

namespace StartsLong

variable {count : Nat} {due : List Char}

/-- An integer starts with a digit or a sign. -/
theorem starts
    (startsLong : StartsLong count due) :
    ∃ first more, due = first :: more ∧ (first.isDigit = true ∨ first = '-') := by
  cases startsLong with
  | numeral isSign allDigits noZero length long noDigit noFraction noExponent =>
      rename_i sign digits rest
      have nonempty : digits ≠ [] := by
        rintro rfl
        subst length
        cases long
      obtain ⟨first, more, rfl⟩ := exists_cons_of_ne_nil nonempty
      rcases isSign with rfl | rfl
      · exact ⟨first, more ++ rest, rfl, .inl (allDigits first mem_cons_self)⟩
      · exact ⟨'-', first :: more ++ rest, rfl, .inr rfl⟩

/-- An integer does not start with anything else. -/
theorem head?_ne
    (startsLong : StartsLong count due)
    {c : Char}
    (notDigit : c.isDigit = false)
    (notSign : c ≠ '-') :
    due.head? ≠ some c := by
  obtain ⟨first, more, rfl, digit | sign⟩ := startsLong.starts
  · rintro ⟨rfl⟩
    simp [notDigit] at digit
  · rintro ⟨rfl⟩
    exact notSign sign

/-- What starts with a long integer starts a token. -/
theorem startsToken
    (startsLong : StartsLong count due) :
    StartsToken due := by
  intro c first
  cases isBlank : isSpace c with
  | false =>
      rfl
  | true =>
      simp only [isSpace, Bool.or_eq_true, decide_eq_true_eq] at isBlank
      rcases isBlank with ((rfl | rfl) | rfl) | rfl <;>
        exact absurd first (startsLong.head?_ne (by decide) (by decide))

end StartsLong

/-- An integer that does not start with zero has all the digits that follow. -/
theorem wholePart_of_noZero
    {cs : List Char}
    (noZero : cs.head? ≠ some '0') :
    wholePart cs = cs.takeWhile Char.isDigit := by
  unfold wholePart
  split
  · exact absurd rfl noZero
  · rfl

/-- An integer of too many digits is what the reader of scalars refuses as one. -/
theorem readScalar_long_iff
    {count : Nat}
    {cs : List Char} :
    readScalar cs = .error (.longInteger count) ↔ StartsLong count cs := by
  constructor
  · intro read
    rw [readScalar] at read
    split at read
    · cases read
    · rename_i noWord
      have step := readNumber_step cs
      generalize readNumber cs = outcome at read step
      cases step with
      | missing =>
          cases read
      | number isCut =>
          rename_i sign whole fraction exponent rest
          have refused := error_of_map_eq_error read
          rw [numberOf] at refused
          split at refused
          · rename_i integer
            split at refused
            · rename_i long
              rw [Bool.and_eq_true, List.isEmpty_iff, List.isEmpty_iff] at integer
              obtain ⟨rfl, rfl⟩ := integer
              obtain rfl : whole.length = count := by
                simpa using refused
              have cutWhole : wholePart (whole ++ rest) = whole := isCut.whole
              have noZero : whole.head? ≠ some '0' := by
                intro zero
                obtain ⟨more, rfl⟩ := head?_eq_some_iff.mp zero
                obtain rfl : [] = more := (cons.inj cutWhole).2
                exact absurd long (by decide)
              refine .numeral isCut.sign (fun _ => isCut.isDigit_of_mem) noZero rfl long ?_
                isCut.fraction isCut.exponent
              rw [wholePart_of_noZero (by rwa [head?_append_of_ne_nil _ isCut.nonempty]),
                takeWhile_append_of_pos fun _ => isCut.isDigit_of_mem] at cutWhole
              simpa using cutWhole
            · cases refused
          · cases refused
  · rintro ⟨isSign, allDigits, noZero, rfl, long, noDigit, noFraction, noExponent⟩
    rename_i sign digits rest
    have nonempty : digits ≠ [] := by
      rintro rfl
      cases long
    have cutWhole : wholePart (digits ++ rest) = digits := by
      rw [wholePart_of_noZero (by rwa [head?_append_of_ne_nil _ nonempty]),
        takeWhile_exact allDigits noDigit]
    have isCut : IsCut sign digits [] [] rest :=
      ⟨isSign, nonempty, cutWhole, noFraction, noExponent⟩
    have refused :
        numberOf sign digits [] [] = .error (.longInteger digits.length) := by
      simp [numberOf, long]
    have read := readScalar_number isCut
    rw [refused] at read
    exact read

/-- Reading a scalar where there is none locates that in front of what was to be read. -/
theorem readScalar_missing
    {cs : List Char}
    {remaining : Nat}
    (read : readScalar cs = .error (.fault .missingValue remaining)) :
    remaining = cs.length := by
  rw [readScalar] at read
  split at read
  · cases read
  · rename_i noWord
    have step := readNumber_step cs
    generalize readNumber cs = outcome at read step
    cases step with
    | missing =>
        simp only [fail, Except.error.injEq, Stop.fault.injEq] at read
        exact read.2.symm
    | number isCut =>
        have refused := error_of_map_eq_error read
        rw [numberOf] at refused
        split at refused
        · split at refused <;> cases refused
        · cases refused

/-- A fault of a text: no value is missing there, and no integer is refused. -/
def IsTextFault (stop : Stop) : Prop :=
  ∃ fault remaining, stop = .fault fault remaining ∧ fault ≠ .missingValue

/-- A unit escape fails at its text. -/
theorem unitEscape?_error
    {cs : List Char}
    {stop : Stop}
    (read : unitEscape? cs = .error stop) :
    IsTextFault stop := by
  have bad
      {remaining : Nat}
      (refused :
        (.error (.fault .badUnitEscape remaining) : Except Stop (Char × Nat)) = .error stop) :
      IsTextFault stop :=
    ⟨.badUnitEscape, remaining, (Except.error.inj refused).symm, by decide⟩
  simp only [unitEscape?] at read
  split at read
  · exact bad read
  · exact bad read
  · split at read
    · split at read
      · cases read
      · split at read
        · exact bad read
        · split at read <;> cases read
    · cases read

/-- An escape fails at its text. -/
theorem escape?_error
    {opening : Nat}
    {cs : List Char}
    {stop : Stop}
    (read : escape? opening cs = .error stop) :
    IsTextFault stop := by
  unfold escape? at read
  split at read
  · exact ⟨.openText, opening, (Except.error.inj read).symm, by decide⟩
  · exact unitEscape?_error read
  · split at read
    · cases read
    · exact ⟨.badEscape, _, (Except.error.inj read).symm, by decide⟩

/-- The body of a text fails at that text. -/
theorem readTextBody_error
    {opening skipped : Nat}
    {cs : List Char}
    {stop : Stop}
    (read : readTextBody opening skipped cs = .error stop) :
    IsTextFault stop := by
  induction cs generalizing skipped with
  | nil =>
      obtain rfl : .fault .openText opening = stop := by
        cases skipped <;> exact Except.error.inj read
      exact ⟨_, _, rfl, by decide⟩
  | cons c cs inductionHypothesis =>
      cases skipped with
      | succ skipped =>
          exact inductionHypothesis read
      | zero =>
          have step := readTextBody_step opening (c :: cs)
          generalize readTextBody opening 0 (c :: cs) = outcome at read step
          cases step with
          | mark =>
              cases read
          | escape =>
              rcases error_of_bind_eq_error read with escapeFailed | ⟨_, _, bodyFailed⟩
              · exact escape?_error escapeFailed
              · exact inductionHypothesis (error_of_map_eq_error bodyFailed)
          | control =>
              cases read
              exact ⟨_, _, rfl, by decide⟩
          | plain notMark notBackslash notControl =>
              exact inductionHypothesis (error_of_map_eq_error read)

/-- A text fails at itself. -/
theorem readText_error
    {cs : List Char}
    {stop : Stop}
    (read : readText cs = .error stop) :
    IsTextFault stop :=
  readTextBody_error (error_of_map_eq_error read)

/-- A fault of a text is not a missing value. -/
theorem IsTextFault.ne_valueDue
    {stop : Stop}
    (isTextFault : IsTextFault stop) :
    stop ≠ .valueDue := by
  obtain ⟨fault, remaining, rfl, notMissing⟩ := isTextFault
  intro same
  exact notMissing (Stop.fault.inj same).1

/-- A fault of a text is not a long integer. -/
theorem IsTextFault.ne_longInteger
    {stop : Stop}
    (isTextFault : IsTextFault stop)
    (count : Nat) :
    stop ≠ .longInteger count := by
  obtain ⟨fault, remaining, rfl, _⟩ := isTextFault
  intro same
  cases same

/-! ## Refusing an integer -/

/-- A reader that breaks off where a value is due refuses an integer of too many digits there. -/
def Refuses {α : Type} (read : List Char → Except Stop α) (bound : Nat) : Prop :=
  ∀ ⦃front⦄,
    front.length ≤ bound →
      read front = .error .valueDue →
        ∀ ⦃count due⦄, StartsLong count due → read (front ++ due) = .error (.longInteger count)

section

variable {α : Type} {closing : Char}

/-- A sequence refuses long integers in texts up to a length if its parts do so with less fuel. -/
theorem refuses_readSequence
    (isClosing : IsClosing closing)
    {readPart : Nat → List Char → Except Stop (α × List Char)}
    (isLocal : ∀ fuel, IsLocal (readPart fuel))
    (fuel bound : Nat)
    (refuses :
      ∀ earlier < fuel, ∀ bound, 2 * bound < earlier → Refuses (readPart earlier) bound)
    (enough : 2 * bound + 1 < fuel) :
    Refuses (readSequence closing readPart fuel) bound := by
  induction fuel generalizing bound with
  | zero =>
      cases enough
  | succ fuel inductionHypothesis =>
      intro front short broken count due startsLong
      have step := readSequence_step closing readPart fuel front
      generalize readSequence closing readPart (fuel + 1) front = outcome at broken step
      cases step with
      | failed partFailed =>
          obtain rfl := Except.error.inj broken
          have refused :=
            refuses fuel (Nat.lt_succ_self fuel) bound (by omega) short partFailed startsLong
          simp [readSequence, refused, Except.bind]
      | last partRead allSpace =>
          cases broken
      | missingComma partRead =>
          cases broken
      | further partRead allSpace allSpace' token =>
          rename_i part space space' rest
          obtain ⟨taken, nonempty, rfl, alike⟩ := isLocal fuel partRead
          simp only [length_append, length_cons] at short
          have further := inductionHypothesis (bound - 1)
            (fun earlier isEarlier => refuses earlier (by omega)) (by omega)
          have refused := further (by omega) (error_of_map_eq_error broken) startsLong
          have partRead' :=
            alike (space ++ ',' :: (space' ++ (rest ++ due)))
              (.space allSpace (.cons (by decide) _))
          have goesOn :=
            readSequence_further isClosing partRead' allSpace allSpace'
              (token.append startsLong.startsToken)
          rw [refused] at goesOn
          simpa [Except.map] using goesOn

/-- A container refuses what its parts refuse. -/
theorem refuses_readContainer
    (isClosing : IsClosing closing)
    {make : List α → Json}
    {readParts : List Char → Except Stop (List α × List Char)}
    {bound : Nat}
    (refuses : Refuses readParts bound) :
    Refuses (readContainer closing make readParts) bound := by
  intro front short broken count due startsLong
  have step := readContainer_step closing make readParts front
  generalize readContainer closing make readParts front = outcome at broken step
  cases step with
  | empty allSpace =>
      cases broken
  | parts allSpace token unclosed =>
      rename_i space rest
      rw [length_append] at short
      have refused := refuses (by omega) (error_of_map_eq_error broken) startsLong
      have unclosed' : (rest ++ due).head? ≠ some closing := by
        cases rest with
        | nil =>
            rcases isClosing with rfl | rfl <;>
              exact startsLong.head?_ne (by decide) (by decide)
        | cons c rest =>
            exact unclosed
      rw [append_assoc,
        readContainer_parts readParts allSpace (token.append startsLong.startsToken) unclosed',
        refused]
      rfl

end

/-- A member refuses what its value refuses. -/
theorem refuses_readMember
    {fuel bound : Nat}
    (refuses : Refuses (readValue fuel) bound) :
    Refuses (readMember fuel) bound := by
  intro front short broken count due startsLong
  have step := readMember_step fuel front
  generalize readMember fuel front = outcome at broken step
  cases step with
  | missingName =>
      cases broken
  | missingColon nameRead =>
      cases broken
  | badName nameFailed =>
      exact absurd (Except.error.inj broken) (readText_error nameFailed).ne_valueDue
  | value nameRead allSpace allSpace' token =>
      rename_i text space space' behind name
      obtain ⟨taken, _, rfl, alike⟩ := isLocal_readText nameRead
      simp only [length_append, length_cons] at short
      have refused := refuses (by omega) (error_of_map_eq_error broken) startsLong
      have nameRead' :=
        alike (space ++ ':' :: (space' ++ (behind ++ due)))
          (.space allSpace (.cons (by decide) _))
      have goesOn :=
        readMember_value fuel nameRead' allSpace allSpace' (token.append startsLong.startsToken)
      rw [refused] at goesOn
      simpa [Except.map] using goesOn

/-- A document that breaks off where a value is due is refused with an integer of too many digits
there. -/
theorem refuses_readValue
    (fuel bound : Nat)
    (enough : 2 * bound < fuel) :
    Refuses (readValue fuel) bound := by
  induction fuel using Nat.strongRecOn generalizing bound with
  | ind fuel inductionHypothesis =>
      cases fuel with
      | zero =>
          cases enough
      | succ fuel =>
          have values :
              ∀ earlier < fuel, ∀ bound, 2 * bound < earlier → Refuses (readValue earlier) bound :=
            fun earlier isEarlier => inductionHypothesis earlier (by omega)
          have members :
              ∀ earlier < fuel, ∀ bound, 2 * bound < earlier → Refuses (readMember earlier) bound :=
            fun earlier isEarlier bound enough =>
              refuses_readMember (values earlier isEarlier bound enough)
          intro front short broken count due startsLong
          have step := readValue_step fuel front
          generalize readValue (fuel + 1) front = outcome at broken step
          cases step with
          | text =>
              exact absurd rfl (readText_error (error_of_map_eq_error broken)).ne_valueDue
          | array =>
              rw [length_cons] at short
              have items :=
                refuses_readSequence (.inl rfl) isLocal_readValue fuel (bound - 1) values (by omega)
              rw [cons_append, readValue_array_eq]
              exact refuses_readContainer (.inl rfl) items (by omega) broken startsLong
          | object =>
              rw [length_cons] at short
              have entries :=
                refuses_readSequence (.inr rfl)
                  (fun fuel => isLocal_readMember (isLocal_readValue fuel)) fuel (bound - 1) members
                  (by omega)
              rw [cons_append, readValue_object_eq]
              exact refuses_readContainer (.inr rfl) entries (by omega) broken startsLong
          | scalar noText noArray noObject =>
              obtain rfl : front = [] :=
                length_eq_zero_iff.mp (readScalar_missing broken).symm
              rw [nil_append, readValue_of_scalar fuel (startsLong.head?_ne (by decide) (by decide))
                (startsLong.head?_ne (by decide) (by decide))
                (startsLong.head?_ne (by decide) (by decide))]
              exact readScalar_long_iff.mpr startsLong

/-! ## Breaking off in front of an integer -/

/-- A reader that refuses an integer of too many digits breaks off in front of it. -/
def BreaksOffBefore {α : Type} (read : List Char → Except Stop α) : Prop :=
  ∀ ⦃cs count⦄,
    read cs = .error (.longInteger count) →
      ∃ front due, cs = front ++ due ∧ read front = .error .valueDue ∧ StartsLong count due

section

variable {α : Type} {closing : Char}

/-- A sequence breaks off before a long integer where its parts do. -/
theorem breaksOff_readSequence
    (isClosing : IsClosing closing)
    {readPart : Nat → List Char → Except Stop (α × List Char)}
    (isLocal : ∀ fuel, IsLocal (readPart fuel))
    (fuel : Nat)
    (breaksOff : ∀ earlier < fuel, BreaksOffBefore (readPart earlier)) :
    BreaksOffBefore (readSequence closing readPart fuel) := by
  induction fuel with
  | zero =>
      intro cs count refused
      cases refused
  | succ fuel inductionHypothesis =>
      intro cs count refused
      have step := readSequence_step closing readPart fuel cs
      generalize readSequence closing readPart (fuel + 1) cs = outcome at refused step
      cases step with
      | failed partFailed =>
          obtain rfl := Except.error.inj refused
          obtain ⟨front, due, rfl, broken, startsLong⟩ :=
            breaksOff fuel (Nat.lt_succ_self fuel) partFailed
          exact ⟨front, due, rfl, by simp [readSequence, broken, Except.bind], startsLong⟩
      | last partRead allSpace =>
          cases refused
      | missingComma partRead =>
          cases refused
      | further partRead allSpace allSpace' token =>
          rename_i part space space' rest
          obtain ⟨taken, nonempty, rfl, alike⟩ := isLocal fuel partRead
          obtain ⟨front, due, rfl, broken, startsLong⟩ :=
            inductionHypothesis (fun earlier isEarlier => breaksOff earlier (by omega))
              (error_of_map_eq_error refused)
          have partRead' :=
            alike (space ++ ',' :: (space' ++ front)) (.space allSpace (.cons (by decide) _))
          have goesOn :=
            readSequence_further isClosing partRead' allSpace allSpace' token.of_append
          rw [broken] at goesOn
          exact ⟨taken ++ (space ++ ',' :: (space' ++ front)), due, by simp, goesOn, startsLong⟩

/-- A container breaks off where its parts do. -/
theorem breaksOff_readContainer
    {make : List α → Json}
    {readParts : List Char → Except Stop (List α × List Char)}
    (breaksOff : BreaksOffBefore readParts) :
    BreaksOffBefore (readContainer closing make readParts) := by
  intro cs count refused
  have step := readContainer_step closing make readParts cs
  generalize readContainer closing make readParts cs = outcome at refused step
  cases step with
  | empty allSpace =>
      cases refused
  | parts allSpace token unclosed =>
      rename_i space rest
      obtain ⟨front, due, rfl, broken, startsLong⟩ := breaksOff (error_of_map_eq_error refused)
      have unclosed' : front.head? ≠ some closing := by
        cases front with
        | nil =>
            simp
        | cons c front =>
            exact unclosed
      have goesOn : readContainer closing make readParts (space ++ front) = _ :=
        readContainer_parts readParts allSpace token.of_append unclosed'
      rw [broken] at goesOn
      exact ⟨space ++ front, due, by simp, goesOn, startsLong⟩

end

/-- A member breaks off where its value does. -/
theorem breaksOff_readMember
    {fuel : Nat}
    (breaksOff : BreaksOffBefore (readValue fuel)) :
    BreaksOffBefore (readMember fuel) := by
  intro cs count refused
  have step := readMember_step fuel cs
  generalize readMember fuel cs = outcome at refused step
  cases step with
  | missingName =>
      cases refused
  | missingColon nameRead =>
      cases refused
  | badName nameFailed =>
      exact absurd (Except.error.inj refused) ((readText_error nameFailed).ne_longInteger count)
  | value nameRead allSpace allSpace' token =>
      rename_i text space space' behind name
      obtain ⟨taken, _, rfl, alike⟩ := isLocal_readText nameRead
      obtain ⟨front, due, rfl, broken, startsLong⟩ := breaksOff (error_of_map_eq_error refused)
      have nameRead' :=
        alike (space ++ ':' :: (space' ++ front)) (.space allSpace (.cons (by decide) _))
      have goesOn := readMember_value fuel nameRead' allSpace allSpace' token.of_append
      rw [broken] at goesOn
      exact ⟨'"' :: (taken ++ (space ++ ':' :: (space' ++ front))), due, by simp, goesOn,
        startsLong⟩

/-- A document that is refused for an integer of too many digits breaks off in front of it. -/
theorem breaksOff_readValue
    (fuel : Nat) :
    BreaksOffBefore (readValue fuel) := by
  induction fuel using Nat.strongRecOn with
  | ind fuel inductionHypothesis =>
      cases fuel with
      | zero =>
          intro cs count refused
          cases refused
      | succ fuel =>
          have values : ∀ earlier < fuel, BreaksOffBefore (readValue earlier) :=
            fun earlier isEarlier => inductionHypothesis earlier (by omega)
          have members : ∀ earlier < fuel, BreaksOffBefore (readMember earlier) :=
            fun earlier isEarlier => breaksOff_readMember (values earlier isEarlier)
          intro cs count refused
          have step := readValue_step fuel cs
          generalize readValue (fuel + 1) cs = outcome at refused step
          cases step with
          | text =>
              exact absurd rfl
                ((readText_error (error_of_map_eq_error refused)).ne_longInteger count)
          | array =>
              obtain ⟨front, due, rfl, broken, startsLong⟩ :=
                breaksOff_readContainer
                  (breaksOff_readSequence (.inl rfl) isLocal_readValue fuel values) refused
              exact ⟨'[' :: front, due, rfl, by rw [readValue_array_eq, broken], startsLong⟩
          | object =>
              obtain ⟨front, due, rfl, broken, startsLong⟩ :=
                breaksOff_readContainer
                  (breaksOff_readSequence (.inr rfl)
                    (fun fuel => isLocal_readMember (isLocal_readValue fuel)) fuel members)
                  refused
              exact ⟨'\x7b' :: front, due, rfl, by rw [readValue_object_eq, broken], startsLong⟩
          | scalar noText noArray noObject =>
              exact ⟨[], cs, rfl, rfl, readScalar_long_iff.mp refused⟩

/-! ## Whole texts -/

/-- Where a text stops other than by a value it goes on to, its document stops. -/
theorem readValue_of_readChars_error
    {cs : List Char}
    {stop : Stop}
    (notTrailing : ∀ remaining, stop ≠ .fault .trailingText remaining)
    (stopped : readChars cs = .error stop) :
    readValue (2 * cs.length + 2) (skipSpace cs) = .error stop := by
  rw [readChars] at stopped
  rcases error_of_bind_eq_error stopped with failed | ⟨outcome, _, trailing⟩
  · exact failed
  · dsimp only at trailing
    split at trailing
    · cases trailing
    · exact absurd (Except.error.inj trailing).symm (notTrailing _)

/-- What fails as a value fails as a document. -/
theorem readChars_of_readValue_error
    {cs : List Char}
    {stop : Stop}
    (failed : readValue (2 * cs.length + 2) (skipSpace cs) = .error stop) :
    readChars cs = .error stop := by
  simp [readChars, failed, bind, Except.bind]

/-- A text is refused for an integer of too many digits exactly if it has one in a place where a
value is due. -/
theorem readChars_long_iff
    {count : Nat}
    {cs : List Char} :
    readChars cs = .error (.longInteger count) ↔ HoldsLong count cs := by
  constructor
  · intro refused
    have failed := readValue_of_readChars_error (by simp) refused
    obtain ⟨space, rest, rfl, allSpace, token, skipped⟩ := skipSpace_split cs
    rw [skipped] at failed
    obtain ⟨front, due, rfl, broken, startsLong⟩ := breaksOff_readValue _ failed
    refine ⟨space ++ front, due, by simp, ?_, startsLong⟩
    apply readChars_of_readValue_error
    rw [skipSpace_append allSpace token.of_append, ← broken]
    apply isSettled_readValue front.length (Nat.le_refl _) <;> simp only [length_append] <;> omega
  · rintro ⟨front, due, rfl, broken, startsLong⟩
    have failed := readValue_of_readChars_error (by simp) broken
    obtain ⟨space, rest, rfl, allSpace, token, skipped⟩ := skipSpace_split front
    rw [skipped] at failed
    apply readChars_of_readValue_error
    rw [append_assoc, skipSpace_append allSpace (token.append startsLong.startsToken)]
    refine refuses_readValue _ rest.length ?_ (Nat.le_refl _) ?_ startsLong
    · simp only [length_append]
      omega
    · rw [← failed]
      apply isSettled_readValue rest.length (Nat.le_refl _) <;>
        simp only [length_append] <;> omega

/-- A text that starts with a byte order mark has no such integer. -/
theorem not_holdsLong_mark
    (count : Nat)
    (rest : List Char) :
    ¬ HoldsLong count ('\ufeff' :: rest) := by
  rintro ⟨front, due, shape, broken, startsLong⟩
  cases front with
  | nil =>
      obtain rfl : '\ufeff' :: rest = due := shape
      exact startsLong.head?_ne (by decide) (by decide) rfl
  | cons c front =>
      obtain ⟨rfl, rfl⟩ := cons.inj shape
      have failed := readValue_of_readChars_error (by simp) broken
      rw [skipSpace_of_not_space (by decide),
        readValue_of_scalar _ (by simp) (by simp) (by simp)] at failed
      cases readScalar_missing failed

/-- A decoded text is refused for a long integer just if it holds one where a value is due. -/
theorem readDecoded_long_iff
    {count : Nat}
    {text : String} :
    readDecoded text = .error (.longInteger count) ↔ HoldsLong count text.toList := by
  rw [← readChars_long_iff, readDecoded]
  cases readChars text.toList with
  | ok document =>
      simp [located]
  | error stop =>
      cases stop <;> simp [located, locate]

/-- A text is refused for a long integer just if it holds one where a value is due. -/
theorem read_long_iff
    {count : Nat}
    {text : String} :
    read text = .error (.longInteger count) ↔ HoldsLong count text.toList := by
  rw [read]
  split
  · rename_i rest mark
    simp [mark, not_holdsLong_mark, locate]
  · exact readDecoded_long_iff

end QueryGateway.Json
