import QueryGateway.Proofs.DocumentSteps

/-!
# Reading depends on the front of a text

What the reader takes off a text is a front of the text, and this front is read
in the same way whatever stands behind it, as long as that does not go on with a
numeral.  A number may be at the end of the front, so the proviso is needed; an
escape is the only place where the reader looks ahead, and it looks no further
than the closing mark of its text.
-/

namespace QueryGateway.Json

open List

/-! ## Texts -/

/-- An escape of a unit takes the letter and the digits of one unit or of a pair. -/
theorem unitEscape?_taken
    {cs : List Char}
    {c : Char}
    {taken : Nat}
    (read : unitEscape? cs = .ok (c, taken)) :
    taken = 5 ∨ taken = 11 := by
  simp only [unitEscape?] at read
  split at read
  · cases read
  · cases read
  · split at read
    · split at read
      · simp only [Except.ok.injEq, Prod.mk.injEq] at read
        omega
      · split at read
        · cases read
        · split at read <;>
            (simp only [Except.ok.injEq, Prod.mk.injEq] at read; omega)
    · simp only [Except.ok.injEq, Prod.mk.injEq] at read
      omega

/-- A unit stands alone if no second escape stands behind it. -/
theorem unitEscape?_alone
    {unit behind : List Char}
    {high : Nat}
    (length : unit.length = 4)
    (unitRead : unit? unit = some high)
    (goesOn : behind ≠ [])
    (alone : ∀ more, behind ≠ '\\' :: 'u' :: more) :
    unitEscape? (unit ++ behind) = .ok (charOfUnit high, 5) := by
  obtain ⟨c, behind, rfl⟩ := exists_cons_of_ne_nil goesOn
  simp only [unitEscape?, take_left' length, drop_left' length, unitRead]
  split
  · rename_i second
    exact absurd second (alone _)
  · rfl

/-- An escape of a unit is read alike in front of the same closing mark if the second escape that it
may look at is in front of it too. -/
theorem unitEscape?_front
    {front rest : List Char}
    {escaped : Char × Nat}
    (read : unitEscape? (front ++ '"' :: rest) = .ok escaped)
    (digits : 4 ≤ front.length)
    (pair : ∀ more, front.drop 4 = '\\' :: 'u' :: more → 4 ≤ more.length)
    (rest' : List Char) :
    unitEscape? (front ++ '"' :: rest') = .ok escaped := by
  obtain ⟨unit, behind, rfl, length⟩ : ∃ unit behind, front = unit ++ behind ∧ unit.length = 4 :=
    ⟨front.take 4, front.drop 4, (take_append_drop 4 front).symm, by simp [digits]⟩
  rw [drop_left' length] at pair
  rw [append_assoc] at read ⊢
  cases unitRead : unit? unit with
  | none =>
      simp [unitEscape?, take_left' length, unitRead] at read
  | some high =>
      by_cases second : ∃ more, behind = '\\' :: 'u' :: more
      · obtain ⟨more, rfl⟩ := second
        have enough := pair more rfl
        have long (rest : List Char) : ¬ (more ++ '"' :: rest).length ≤ 4 := by
          simp; omega
        have digits (rest : List Char) : (more ++ '"' :: rest).take 4 = more.take 4 :=
          take_append_of_le_length enough
        simp only [unitEscape?, take_left' length, drop_left' length, unitRead,
          cons_append] at read ⊢
        cases isHigh : isHighHalf high with
        | false =>
            simpa [isHigh] using read
        | true =>
            simp only [isHigh, long, digits, if_false] at read ⊢
            cases lowRead : unit? (more.take 4) with
            | none =>
                simp [lowRead] at read
            | some low =>
                simpa [lowRead] using read
      · have alone (rest : List Char) :
            ∀ more, behind ++ '"' :: rest ≠ '\\' :: 'u' :: more := by
          intro more shape
          rcases behind with _ | ⟨c, _ | ⟨d, behind⟩⟩
          · cases shape
          · cases shape
          · simp only [cons_append, cons.injEq] at shape
            exact second ⟨behind, by rw [shape.1, shape.2.1]⟩
        rw [unitEscape?_alone length unitRead (by simp) (alone rest)] at read
        rw [unitEscape?_alone length unitRead (by simp) (alone rest'), read]

/-- The characters of a text up to its closing mark that an escape may look at: a second escape in
it is whole. -/
def HoldsPairs (front : List Char) : Prop :=
  ∀ more, front = '\\' :: 'u' :: more → 4 ≤ more.length

/-- An escape is read alike in front of the same closing mark. -/
theorem escape?_front
    {opening : Nat}
    {front rest : List Char}
    {c : Char}
    {taken : Nat}
    (read : escape? opening (front ++ '"' :: rest) = .ok (c, taken))
    (enough : taken ≤ front.length)
    (holdsPairs : HoldsPairs (front.drop taken))
    (opening' : Nat)
    (rest' : List Char) :
    escape? opening' (front ++ '"' :: rest') = .ok (c, taken) := by
  cases front with
  | nil =>
      obtain rfl : taken = 0 := Nat.le_zero.mp enough
      cases read
  | cons first front =>
      by_cases isUnit : first = 'u'
      · subst isUnit
        rw [cons_append, escape?] at read ⊢
        rw [length_cons] at enough
        rcases unitEscape?_taken read with rfl | rfl
        · exact unitEscape?_front read (by omega) holdsPairs rest'
        · refine unitEscape?_front read (by omega) ?_ rest'
          intro more shape
          have length := congrArg List.length shape
          rw [length_drop, length_cons, length_cons] at length
          omega
      · rw [cons_append, escape?] at read ⊢
        · cases single : escapedChar? first with
          | none =>
              simp [single] at read
          | some escaped =>
              simpa [single] using read
        · exact isUnit
        · exact isUnit

/-- Behind a backslash stands an escape. -/
theorem readTextBody_backslash
    (opening : Nat)
    (cs : List Char) :
    readTextBody opening 0 ('\\' :: cs) =
      (escape? opening cs).bind fun (c, taken) =>
        (readTextBody opening taken cs).map (withChar c) := by
  rw [readTextBody, if_neg (by decide), if_pos rfl]
  cases escape? opening cs with
  | error stop =>
      rfl
  | ok escaped =>
      simp only [bind, Except.bind]
      cases readTextBody opening escaped.2 cs <;> rfl

/-- What a step over a text comes to. -/
inductive TextStep (opening : Nat) :
    List Char → Except Stop (List Char × List Char) → Prop where
  | openText :
      TextStep opening [] (.error (.fault .openText opening))
  | mark {rest : List Char} :
      TextStep opening ('"' :: rest) (.ok ([], rest))
  | escape {cs : List Char} :
      TextStep opening ('\\' :: cs)
        ((escape? opening cs).bind fun (c, taken) =>
          (readTextBody opening taken cs).map (withChar c))
  | control {c : Char} {cs : List Char} :
      TextStep opening (c :: cs) (fail .controlCharacter (c :: cs))
  | plain {c : Char} {cs : List Char}
      (notMark : c ≠ '"')
      (notBackslash : c ≠ '\\')
      (notControl : 0x20 ≤ c.toNat) :
      TextStep opening (c :: cs) ((readTextBody opening 0 cs).map (withChar c))

theorem readTextBody_step
    (opening : Nat)
    (cs : List Char) :
    TextStep opening cs (readTextBody opening 0 cs) := by
  cases cs with
  | nil =>
      exact .openText
  | cons c cs =>
      by_cases mark : c = '"'
      · subst mark
        exact .mark
      · by_cases backslash : c = '\\'
        · subst backslash
          rw [readTextBody_backslash]
          exact .escape
        · by_cases control : c.toNat < 0x20
          · have refused :
                readTextBody opening 0 (c :: cs) = fail .controlCharacter (c :: cs) := by
              rw [readTextBody, if_neg mark, if_neg backslash, if_pos control]
            rw [refused]
            exact .control
          · have notControl := Nat.not_lt.mp control
            rw [readTextBody_plain opening mark backslash notControl]
            exact .plain mark backslash notControl

/-- A text is read off its characters up to the closing mark, whatever stands behind that. -/
theorem readTextBody_front
    {opening skipped : Nat}
    {cs body rest : List Char}
    (read : readTextBody opening skipped cs = .ok (body, rest)) :
    ∃ front,
      cs = front ++ '"' :: rest ∧ skipped ≤ front.length ∧ HoldsPairs (front.drop skipped) ∧
        ∀ opening' rest',
          readTextBody opening' skipped (front ++ '"' :: rest') = .ok (body, rest') := by
  induction cs generalizing skipped body with
  | nil =>
      cases skipped <;> cases read
  | cons c cs inductionHypothesis =>
      cases skipped with
      | succ skipped =>
          rw [readTextBody] at read
          obtain ⟨front, rfl, enough, holdsPairs, alike⟩ := inductionHypothesis read
          exact ⟨c :: front, rfl, Nat.succ_le_succ enough, holdsPairs, alike⟩
      | zero =>
          have step := readTextBody_step opening (c :: cs)
          generalize readTextBody opening 0 (c :: cs) = outcome at read step
          cases step with
          | mark =>
              simp only [Except.ok.injEq, Prod.mk.injEq] at read
              obtain ⟨rfl, rfl⟩ := read
              exact ⟨[], rfl, Nat.le_refl 0, by simp [HoldsPairs], fun _ _ => rfl⟩
          | escape =>
              obtain ⟨⟨c, taken⟩, escapeRead, read⟩ := ok_of_bind_eq_ok read
              obtain ⟨⟨body', rest'⟩, bodyRead, outcome⟩ := ok_of_map_eq_ok read
              simp only [withChar, Prod.mk.injEq] at outcome
              obtain ⟨rfl, rfl⟩ := outcome
              obtain ⟨front, rfl, enough, holdsPairs, alike⟩ := inductionHypothesis bodyRead
              refine ⟨'\\' :: front, rfl, Nat.zero_le _, ?_, ?_⟩
              · rintro more ⟨⟩
                rw [cons_append, escape?] at escapeRead
                have least := unitEscape?_taken escapeRead
                rw [length_cons] at enough
                omega
              · intro opening' rest'
                have escaped := escape?_front escapeRead enough holdsPairs opening' rest'
                rw [cons_append, readTextBody_backslash, escaped]
                simp [Except.bind, alike, Except.map, withChar]
          | control =>
              cases read
          | plain notMark notBackslash notControl =>
              obtain ⟨⟨body', rest'⟩, bodyRead, outcome⟩ := ok_of_map_eq_ok read
              simp only [withChar, Prod.mk.injEq] at outcome
              obtain ⟨rfl, rfl⟩ := outcome
              obtain ⟨front, rfl, _, _, alike⟩ := inductionHypothesis bodyRead
              refine ⟨c :: front, rfl, Nat.zero_le _, ?_, ?_⟩
              · rintro more ⟨⟩
                exact absurd rfl notBackslash
              · intro opening' rest'
                rw [cons_append, readTextBody_plain opening' notMark notBackslash notControl]
                simp [alike, Except.map, withChar]

/-! ## Readers that read fronts -/

/-- What a reader takes off a text is a front of it that is read alike in front of everything that
goes on with no numeral. -/
def IsLocal {α : Type} (read : List Char → Except Stop (α × List Char)) : Prop :=
  ∀ ⦃cs value rest⦄,
    read cs = .ok (value, rest) →
      ∃ front,
        front ≠ [] ∧ cs = front ++ rest ∧
          ∀ rest', EndsNumber rest' → read (front ++ rest') = .ok (value, rest')

theorem isLocal_readText :
    IsLocal readText := by
  intro cs text rest read
  obtain ⟨⟨body, rest'⟩, bodyRead, outcome⟩ := ok_of_map_eq_ok read
  simp only [Prod.mk.injEq] at outcome
  obtain ⟨rfl, rfl⟩ := outcome
  obtain ⟨front, rfl, _, _, alike⟩ := readTextBody_front bodyRead
  refine ⟨front ++ ['"'], by simp, by simp, fun rest' _ => ?_⟩
  rw [append_assoc, singleton_append, readText, alike]
  rfl

/-- No word stands where a numeral does. -/
theorem words_find?_numeral
    {sign : List Char}
    (isSign : sign = [] ∨ sign = ['-'])
    {first : Char}
    (digit : first.isDigit = true)
    (rest : List Char) :
    words.find? (fun (word, _) => word.isPrefixOf (sign ++ first :: rest)) = none := by
  have unlike
      (letter : Char)
      (notDigit : letter.isDigit = false) :
      letter ≠ first := by
    rintro rfl
    simp [notDigit] at digit
  rcases isSign with rfl | rfl <;>
    simp [words, unlike 'n' rfl, unlike 't' rfl, unlike 'f' rfl, unlike 'N' rfl,
      unlike 'I' rfl, unlike '-' rfl]

/-- A word is read whatever stands behind it. -/
theorem words_find?_word
    {word : List Char}
    {value : Json}
    (member : (word, value) ∈ words)
    (rest : List Char) :
    words.find? (fun (known, _) => known.isPrefixOf (word ++ rest)) = some (word, value) := by
  simp only [words, mem_cons, not_mem_nil, or_false, Prod.mk.injEq] at member
  rcases member with ⟨rfl, rfl⟩ | ⟨rfl, rfl⟩ | ⟨rfl, rfl⟩ | ⟨rfl, rfl⟩ | ⟨rfl, rfl⟩ | ⟨rfl, rfl⟩ <;>
    rfl

/-- A number is read as one wherever its parts stand. -/
theorem readScalar_number
    {sign whole fraction exponent rest : List Char}
    (isCut : IsCut sign whole fraction exponent rest) :
    readScalar (sign ++ (whole ++ (fraction ++ (exponent ++ rest)))) =
      (numberOf sign whole fraction exponent).map (·, rest) := by
  have read := isCut.readNumber_eq
  obtain ⟨first, more, shape, digit⟩ := isCut.starts
  rw [shape, cons_append] at read ⊢
  rw [readScalar, words_find?_numeral isCut.sign digit]
  exact read

theorem isLocal_readScalar :
    IsLocal readScalar := by
  intro cs value rest read
  rw [readScalar] at read
  split at read
  · rename_i word value' found
    simp only [Except.ok.injEq, Prod.mk.injEq] at read
    obtain ⟨rfl, rfl⟩ := read
    have member := mem_of_find?_eq_some found
    have isFront := find?_some found
    dsimp only at isFront
    obtain ⟨behind, rfl⟩ := isPrefixOf_iff_prefix.mp isFront
    refine ⟨word, ?_, by simp, fun rest' _ => ?_⟩
    · rintro rfl
      revert member
      simp [words]
    · simp [readScalar, words_find?_word member rest']
  · rename_i noWord
    have step := readNumber_step cs
    generalize readNumber cs = outcome at read step
    cases step with
    | missing =>
        cases read
    | number isCut =>
        rename_i sign whole fraction exponent behind
        obtain ⟨value', numberRead, outcome⟩ := ok_of_map_eq_ok read
        simp only [Prod.mk.injEq] at outcome
        obtain ⟨rfl, rfl⟩ := outcome
        refine ⟨sign ++ (whole ++ (fraction ++ exponent)), ?_, by simp, fun rest' ends => ?_⟩
        · simp [isCut.nonempty]
        · have again := readScalar_number (isCut.of_endsNumber ends)
          rw [numberRead] at again
          simpa [Except.map] using again

section

variable {α : Type} {closing : Char}

theorem isLocal_readSequence
    (isClosing : IsClosing closing)
    {readPart : Nat → List Char → Except Stop (α × List Char)}
    {fuel : Nat}
    (isLocal : ∀ earlier < fuel, IsLocal (readPart earlier)) :
    IsLocal (readSequence closing readPart fuel) := by
  induction fuel with
  | zero =>
      intro cs parts rest read
      cases read
  | succ fuel inductionHypothesis =>
      intro cs parts rest read
      have further := inductionHypothesis fun earlier isEarlier => isLocal earlier (by omega)
      have step := readSequence_step closing readPart fuel cs
      generalize readSequence closing readPart (fuel + 1) cs = outcome at read step
      cases step with
      | failed partFailed =>
          cases read
      | missingComma partRead =>
          cases read
      | last partRead allSpace =>
          rename_i part space behind
          simp only [Except.ok.injEq, Prod.mk.injEq] at read
          obtain ⟨rfl, rfl⟩ := read
          obtain ⟨front, nonempty, rfl, alike⟩ := isLocal fuel (Nat.lt_succ_self fuel) partRead
          refine ⟨front ++ (space ++ [closing]), by simp, by simp, fun rest' _ => ?_⟩
          have again :=
            alike (space ++ closing :: rest') (.space allSpace (isClosing.endsNumber rest'))
          simpa using readSequence_last isClosing again allSpace
      | further partRead allSpace allSpace' token =>
          rename_i part space space' behind
          obtain ⟨⟨parts', rest'⟩, partsRead, outcome⟩ := ok_of_map_eq_ok read
          simp only [Prod.mk.injEq] at outcome
          obtain ⟨rfl, rfl⟩ := outcome
          obtain ⟨front, nonempty, rfl, alike⟩ := isLocal fuel (Nat.lt_succ_self fuel) partRead
          obtain ⟨front', nonempty', rfl, alike'⟩ := further partsRead
          refine ⟨front ++ (space ++ ',' :: (space' ++ front')), by simp, by simp,
            fun rest' ends => ?_⟩
          have again :=
            alike (space ++ ',' :: (space' ++ (front' ++ rest')))
              (.space allSpace (.cons (by decide) _))
          have goesOn :=
            readSequence_further isClosing again allSpace allSpace'
              (token.append_any nonempty' rest')
          rw [alike' rest' ends] at goesOn
          simpa [Except.map] using goesOn

theorem isLocal_readContainer
    (isClosing : IsClosing closing)
    {make : List α → Json}
    {readParts : List Char → Except Stop (List α × List Char)}
    (isLocal : IsLocal readParts) :
    IsLocal (readContainer closing make readParts) := by
  intro cs value rest read
  have step := readContainer_step closing make readParts cs
  generalize readContainer closing make readParts cs = outcome at read step
  cases step with
  | empty allSpace =>
      rename_i space behind
      simp only [Except.ok.injEq, Prod.mk.injEq] at read
      obtain ⟨rfl, rfl⟩ := read
      refine ⟨space ++ [closing], by simp, by simp, fun rest' _ => ?_⟩
      simpa using readContainer_empty isClosing readParts allSpace rest'
  | parts allSpace token unclosed =>
      rename_i space behind
      obtain ⟨⟨parts, rest'⟩, partsRead, outcome⟩ := ok_of_map_eq_ok read
      simp only [Prod.mk.injEq] at outcome
      obtain ⟨rfl, rfl⟩ := outcome
      obtain ⟨front, nonempty, rfl, alike⟩ := isLocal partsRead
      refine ⟨space ++ front, by simp [nonempty], by simp, fun rest' ends => ?_⟩
      rw [head?_append_of_ne_nil _ nonempty] at unclosed
      rw [append_assoc, readContainer_parts readParts allSpace (token.append_any nonempty rest')
        (by rwa [head?_append_of_ne_nil _ nonempty]), alike rest' ends]
      rfl

end

theorem isLocal_readMember
    {fuel : Nat}
    (isLocal : IsLocal (readValue fuel)) :
    IsLocal (readMember fuel) := by
  intro cs member rest read
  have step := readMember_step fuel cs
  generalize readMember fuel cs = outcome at read step
  cases step with
  | missingName =>
      cases read
  | badName nameFailed =>
      cases read
  | missingColon nameRead =>
      cases read
  | value nameRead allSpace allSpace' token =>
      rename_i text space space' behind name
      obtain ⟨⟨value, rest'⟩, valueRead, outcome⟩ := ok_of_map_eq_ok read
      simp only [Prod.mk.injEq] at outcome
      obtain ⟨rfl, rfl⟩ := outcome
      obtain ⟨front, _, rfl, alike⟩ := isLocal_readText nameRead
      obtain ⟨front', nonempty', rfl, alike'⟩ := isLocal valueRead
      refine ⟨'"' :: (front ++ (space ++ ':' :: (space' ++ front'))), by simp, by simp,
        fun rest' ends => ?_⟩
      have again :=
        alike (space ++ ':' :: (space' ++ (front' ++ rest')))
          (.space allSpace (.cons (by decide) _))
      have goesOn :=
        readMember_value fuel again allSpace allSpace' (token.append_any nonempty' rest')
      rw [alike' rest' ends] at goesOn
      simpa [Except.map] using goesOn

/-- A document is read off its own characters, whatever stands behind them that does not go on with
a numeral. -/
theorem isLocal_readValue
    (fuel : Nat) :
    IsLocal (readValue fuel) := by
  induction fuel using Nat.strongRecOn with
  | ind fuel inductionHypothesis =>
      intro cs value rest read
      cases fuel with
      | zero =>
          cases read
      | succ fuel =>
          have values : ∀ earlier < fuel, IsLocal (readValue earlier) :=
            fun earlier isEarlier => inductionHypothesis earlier (by omega)
          have members : ∀ earlier < fuel, IsLocal (readMember earlier) :=
            fun earlier isEarlier => isLocal_readMember (values earlier isEarlier)
          have step := readValue_step fuel cs
          generalize readValue (fuel + 1) cs = outcome at read step
          cases step with
          | text =>
              obtain ⟨⟨text, rest'⟩, textRead, outcome⟩ := ok_of_map_eq_ok read
              simp only [Prod.mk.injEq] at outcome
              obtain ⟨rfl, rfl⟩ := outcome
              obtain ⟨front, _, rfl, alike⟩ := isLocal_readText textRead
              refine ⟨'"' :: front, by simp, by simp, fun rest' ends => ?_⟩
              rw [cons_append, readValue, alike rest' ends]
              rfl
          | array =>
              obtain ⟨front, _, rfl, alike⟩ :=
                isLocal_readContainer (.inl rfl) (isLocal_readSequence (.inl rfl) values) read
              refine ⟨'[' :: front, by simp, by simp, fun rest' ends => ?_⟩
              rw [cons_append, readValue_array_eq, alike rest' ends]
          | object =>
              obtain ⟨front, _, rfl, alike⟩ :=
                isLocal_readContainer (.inr rfl) (isLocal_readSequence (.inr rfl) members) read
              refine ⟨'\x7b' :: front, by simp, by simp, fun rest' ends => ?_⟩
              rw [cons_append, readValue_object_eq, alike rest' ends]
          | scalar noText noArray noObject =>
              obtain ⟨front, nonempty, rfl, alike⟩ := isLocal_readScalar read
              refine ⟨front, nonempty, rfl, fun rest' ends => ?_⟩
              rw [head?_append_of_ne_nil _ nonempty] at noText noArray noObject
              rw [readValue_of_scalar fuel, alike rest' ends]
              all_goals rwa [head?_append_of_ne_nil _ nonempty]

/-! ## Steps enough -/

/-- A reader that comes to the same on short texts with any number of steps that is great enough. -/
def IsSettled {α : Type}
    (read : Nat → List Char → Except Stop α)
    (slack bound : Nat) :
    Prop :=
  ∀ ⦃cs⦄,
    cs.length ≤ bound →
      ∀ fuel fuel',
        2 * cs.length + slack < fuel → 2 * cs.length + slack < fuel' → read fuel cs = read fuel' cs

theorem length_skipSpace_le
    (cs : List Char) :
    (skipSpace cs).length ≤ cs.length :=
  (dropWhile_sublist isSpace).length_le

section

variable {α : Type} {closing : Char}

theorem isSettled_readSequence
    {readPart : Nat → List Char → Except Stop (α × List Char)}
    (isLocal : ∀ fuel, IsLocal (readPart fuel))
    {bound : Nat}
    (isSettled : IsSettled readPart 0 bound) :
    IsSettled (readSequence closing readPart) 1 bound := by
  intro cs short
  induction length : cs.length using Nat.strongRecOn generalizing cs with
  | ind count inductionHypothesis =>
      rintro (_ | fuel) (_ | fuel') enough enough'
      · rfl
      · omega
      · omega
      · subst length
        have part := isSettled short fuel fuel' (by omega) (by omega)
        rw [readSequence, readSequence, part]
        cases partRead : readPart fuel' cs with
        | error stop =>
            rfl
        | ok outcome =>
            obtain ⟨item, rest⟩ := outcome
            obtain ⟨front, nonempty, shape, _⟩ := isLocal fuel' partRead
            have taken := length_pos_of_ne_nil nonempty
            have lengths : cs.length = front.length + rest.length := by
              rw [shape, length_append]
            have skipped := length_skipSpace_le rest
            simp only [Except.bind]
            cases behind : skipSpace rest with
            | nil =>
                rfl
            | cons c rest' =>
                have further := length_skipSpace_le rest'
                rw [behind, length_cons] at skipped
                simp only [readBehind]
                rw [inductionHypothesis (skipSpace rest').length (by omega) (by omega) rfl
                  fuel fuel' (by omega) (by omega)]

theorem isSettled_readContainer
    {make : List α → Json}
    {readParts : Nat → List Char → Except Stop (List α × List Char)}
    {bound : Nat}
    (isSettled : IsSettled readParts 1 bound) :
    IsSettled (fun fuel => readContainer closing make (readParts fuel)) 1 bound := by
  intro cs short fuel fuel' enough enough'
  have skipped := length_skipSpace_le cs
  have alike :=
    isSettled (skipped.trans short) fuel fuel' (by omega) (by omega)
  simp only [readContainer]
  cases behind : skipSpace cs with
  | nil =>
      rw [behind] at alike
      simp only [alike]
  | cons c rest =>
      rw [behind] at alike
      simp only [alike]

end

theorem isSettled_readMember
    {bound : Nat}
    (isSettled : IsSettled readValue 0 bound) :
    IsSettled readMember 0 bound := by
  intro cs short fuel fuel' enough enough'
  by_cases named : ∃ rest, cs = '"' :: rest
  · obtain ⟨rest, rfl⟩ := named
    rw [length_cons] at short enough enough'
    simp only [readMember]
    cases nameRead : readText rest with
    | error stop =>
        rfl
    | ok outcome =>
        obtain ⟨name, behind⟩ := outcome
        obtain ⟨front, _, rfl, _⟩ := isLocal_readText nameRead
        rw [length_append] at short enough enough'
        have skipped := length_skipSpace_le behind
        simp only [Except.bind]
        split
        · rename_i rest colon
          have further := length_skipSpace_le rest
          rw [colon, length_cons] at skipped
          have alike : readValue fuel (skipSpace rest) = readValue fuel' (skipSpace rest) :=
            isSettled (by omega) fuel fuel' (by omega) (by omega)
          rw [alike]
        · rfl
  · have noName (fuel : Nat) : readMember fuel cs = fail .missingName cs := by
      unfold readMember
      split
      · simp_all
      · rfl
    rw [noName, noName]

/-- Two steps for each character are enough to read a document. -/
theorem isSettled_readValue
    (bound : Nat) :
    IsSettled readValue 0 bound := by
  induction bound with
  | zero =>
      intro cs short
      obtain rfl : cs = [] := length_eq_zero_iff.mp (Nat.le_zero.mp short)
      rintro (_ | fuel) (_ | fuel') _ _ <;> rfl
  | succ bound inductionHypothesis =>
      have items : IsSettled (readSequence ']' readValue) 1 bound :=
        isSettled_readSequence isLocal_readValue inductionHypothesis
      have members : IsSettled (readSequence '\x7d' readMember) 1 bound :=
        isSettled_readSequence (fun fuel => isLocal_readMember (isLocal_readValue fuel))
          (isSettled_readMember inductionHypothesis)
      intro cs short
      rintro (_ | fuel) (_ | fuel') enough enough'
      · rfl
      · omega
      · omega
      · have step := readValue_step fuel cs
        generalize outcomeRead : readValue (fuel + 1) cs = outcome at step
        cases step with
        | text =>
            rw [readValue]
        | array =>
            rename_i rest
            rw [length_cons] at short enough enough'
            rw [readValue_array_eq]
            exact isSettled_readContainer items (Nat.le_of_succ_le_succ short) fuel fuel' (by omega)
              (by omega)
        | object =>
            rename_i rest
            rw [length_cons] at short enough enough'
            rw [readValue_object_eq]
            exact isSettled_readContainer members (Nat.le_of_succ_le_succ short) fuel fuel'
              (by omega) (by omega)
        | scalar noText noArray noObject =>
            rw [readValue_of_scalar fuel' noText noArray noObject]

end QueryGateway.Json
