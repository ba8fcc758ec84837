import QueryGateway.Proofs.NumberParts
import QueryGateway.Proofs.WrittenDocuments

/-!
# The steps of reading a document

What one step of the reader can do, as a judgement for each kind of step: over a
value, over a member of an object, and over a sequence.  The items of an array
and the members of an object are read as sequences that differ in their closing
character and in the reader of their parts.
-/

namespace QueryGateway.Json

open List

/-! ## Outcomes -/

section

variable {ε α β : Type} {outcome : Except ε α}

/-- An outcome that is mapped to a value was a value before. -/
theorem ok_of_map_eq_ok
    {function : α → β}
    {value : β}
    (mapped : outcome.map function = .ok value) :
    ∃ before, outcome = .ok before ∧ function before = value := by
  cases outcome with
  | error error =>
      cases mapped
  | ok before =>
      exact ⟨before, rfl, Except.ok.inj mapped⟩

/-- An outcome that is mapped to an error was that error before. -/
theorem error_of_map_eq_error
    {function : α → β}
    {error : ε}
    (mapped : outcome.map function = .error error) :
    outcome = .error error := by
  cases outcome with
  | error error' =>
      exact congrArg Except.error (Except.error.inj mapped)
  | ok before =>
      cases mapped

/-- A value that is bound comes from a value before it. -/
theorem ok_of_bind_eq_ok
    {next : α → Except ε β}
    {value : β}
    (bound : outcome.bind next = .ok value) :
    ∃ before, outcome = .ok before ∧ next before = .ok value := by
  cases outcome with
  | error error =>
      cases bound
  | ok before =>
      exact ⟨before, rfl, bound⟩

/-- An error that is bound is the first one, or comes from what follows. -/
theorem error_of_bind_eq_error
    {next : α → Except ε β}
    {error : ε}
    (bound : outcome.bind next = .error error) :
    outcome = .error error ∨ ∃ before, outcome = .ok before ∧ next before = .error error := by
  cases outcome with
  | error error' =>
      exact .inl (congrArg Except.error (Except.error.inj bound))
  | ok before =>
      exact .inr ⟨before, rfl, bound⟩

end

/-! ## White space -/

/-- White space only. -/
def AllSpace (space : List Char) : Prop :=
  ∀ c ∈ space, isSpace c = true

/-- A text that does not start with white space. -/
def StartsToken (cs : List Char) : Prop :=
  ∀ c ∈ cs.head?, isSpace c = false

namespace StartsToken

variable {front rest : List Char}

/-- A character that is no space starts a token. -/
theorem cons
    {c : Char}
    (token : isSpace c = false)
    (rest : List Char) :
    StartsToken (c :: rest) := by
  rintro _ ⟨rfl⟩
  exact token

/-- Two stretches that start tokens start one together. -/
theorem append
    (frontToken : StartsToken front)
    (restToken : StartsToken rest) :
    StartsToken (front ++ rest) := by
  cases front with
  | nil =>
      exact restToken
  | cons c front =>
      exact frontToken

/-- The front of what starts a token starts one. -/
theorem of_append
    (token : StartsToken (front ++ rest)) :
    StartsToken front := by
  cases front with
  | nil =>
      simp [StartsToken]
  | cons c front =>
      exact token

/-- A front that is not empty decides whether a token starts, whatever follows it. -/
theorem append_any
    (token : StartsToken (front ++ rest))
    (nonempty : front ≠ [])
    (rest' : List Char) :
    StartsToken (front ++ rest') := by
  cases front with
  | nil =>
      exact absurd rfl nonempty
  | cons c front =>
      exact token

end StartsToken

/-- White space is taken off the front of a text up to its first token. -/
theorem skipSpace_append
    {space rest : List Char}
    (allSpace : AllSpace space)
    (token : StartsToken rest) :
    skipSpace (space ++ rest) = rest := by
  rw [skipSpace, dropWhile_append_of_pos allSpace]
  cases rest with
  | nil =>
      rfl
  | cons c rest =>
      exact skipSpace_of_not_space (token c rfl) rest

/-- Every text is some space and what follows it. -/
theorem skipSpace_split
    (cs : List Char) :
    ∃ space rest,
      cs = space ++ rest ∧ AllSpace space ∧ StartsToken rest ∧ skipSpace cs = rest := by
  refine ⟨cs.takeWhile isSpace, skipSpace cs, takeWhile_append_dropWhile.symm,
    fun _ => mem_takeWhile_imp, ?_, rfl⟩
  intro c first
  have stopped := head?_dropWhile_not isSpace cs
  rw [skipSpace] at first
  rw [first] at stopped
  simpa using stopped

/-- White space goes on with no numeral. -/
theorem EndsNumber.space
    {space rest : List Char}
    (allSpace : AllSpace space)
    (ends : EndsNumber rest) :
    EndsNumber (space ++ rest) := by
  cases space with
  | nil =>
      exact ends
  | cons c space =>
      have isBlank := allSpace c mem_cons_self
      simp only [isSpace, Bool.or_eq_true, decide_eq_true_eq] at isBlank
      refine .cons ?_ _
      rcases isBlank with ((rfl | rfl) | rfl) | rfl <;> decide

/-! ## Sequences -/

/-- Go on behind a part of a sequence, where white space is taken off: the sequence is closed, or it
has further parts. -/
def readBehind {α : Type}
    (closing : Char)
    (part : α)
    (readFurther : List Char → Except Stop (List α × List Char)) :
    List Char → Except Stop (List α × List Char)
  | [] => fail .missingComma []
  | c :: rest =>
      if c = closing then
        .ok ([part], rest)
      else if c = ',' then
        (readFurther (skipSpace rest)).map fun (parts, rest) => (part :: parts, rest)
      else
        fail .missingComma (c :: rest)

/-- Read the parts of a sequence and the character that closes it. -/
def readSequence {α : Type}
    (closing : Char)
    (readPart : Nat → List Char → Except Stop (α × List Char)) :
    Nat → List Char → Except Stop (List α × List Char)
  | 0, cs => fail .missingValue cs
  | fuel + 1, cs =>
      (readPart fuel cs).bind fun (part, rest) =>
        readBehind closing part (readSequence closing readPart fuel) (skipSpace rest)

/-- Read a member of an object. -/
def readMember (fuel : Nat) : List Char → Except Stop ((String × Json) × List Char)
  | '"' :: rest =>
      (readText rest).bind fun (name, rest) =>
        match skipSpace rest with
        | ':' :: rest =>
            (readValue fuel (skipSpace rest)).map fun (value, rest) => ((name, value), rest)
        | rest => fail .missingColon rest
  | cs => fail .missingName cs

/-- The items of an array are a sequence of values. -/
theorem readItems_eq_readSequence
    (fuel : Nat)
    (cs : List Char) :
    readItems fuel cs = readSequence ']' readValue fuel cs := by
  induction fuel generalizing cs with
  | zero =>
      rfl
  | succ fuel inductionHypothesis =>
      rw [readItems, readSequence]
      cases readValue fuel cs with
      | error stop =>
          rfl
      | ok outcome =>
          simp only [bind, Except.bind, inductionHypothesis]
          cases skipSpace outcome.2 with
          | nil =>
              rfl
          | cons c rest =>
              by_cases closed : c = ']'
              · simp [closed, readBehind]
              · by_cases goesOn : c = ','
                · subst goesOn
                  simp only [readBehind, closed, if_false, if_true]
                  cases readSequence ']' readValue fuel (skipSpace rest) <;> rfl
                · simp [closed, goesOn, readBehind]

/-- The members of an object are a sequence of members. -/
theorem readMembers_eq_readSequence
    (fuel : Nat)
    (cs : List Char) :
    readMembers fuel cs = readSequence '\x7d' readMember fuel cs := by
  induction fuel generalizing cs with
  | zero =>
      rfl
  | succ fuel inductionHypothesis =>
      rw [readSequence]
      by_cases named : ∃ rest, cs = '"' :: rest
      · obtain ⟨rest, rfl⟩ := named
        simp only [readMembers, readMember]
        cases readText rest with
        | error stop =>
            rfl
        | ok outcome =>
            dsimp only [bind, Except.bind]
            by_cases colon : ∃ rest, skipSpace outcome.2 = ':' :: rest
            · obtain ⟨rest, shape⟩ := colon
              simp only [shape]
              cases readValue fuel (skipSpace rest) with
              | error stop =>
                  rfl
              | ok outcome' =>
                  simp only [inductionHypothesis, Except.map]
                  cases skipSpace outcome'.2 with
                  | nil =>
                      rfl
                  | cons c rest =>
                      by_cases closed : c = '\x7d'
                      · simp [closed, readBehind]
                      · by_cases goesOn : c = ','
                        · subst goesOn
                          simp only [readBehind, closed, if_false, if_true]
                          cases readSequence '\x7d' readMember fuel (skipSpace rest) <;> rfl
                        · simp [closed, goesOn, readBehind]
            · split
              · simp_all
              · split <;> simp_all [fail]
      · have noName : readMember fuel cs = fail .missingName cs := by
          unfold readMember
          split
          · simp_all
          · rfl
        rw [noName]
        unfold readMembers
        split
        · simp_all
        · rfl

/-! ## Steps -/

/-- A character that closes a sequence. -/
def IsClosing (closing : Char) : Prop :=
  closing = ']' ∨ closing = '\x7d'

namespace IsClosing

variable {closing : Char}

/-- What closes a container is no space. -/
theorem isSpace_eq_false
    (isClosing : IsClosing closing) :
    isSpace closing = false := by
  rcases isClosing with rfl | rfl <;> decide

/-- What closes a container is no comma. -/
theorem ne_comma
    (isClosing : IsClosing closing) :
    ',' ≠ closing := by
  rcases isClosing with rfl | rfl <;> decide

/-- A number ends where its container is closed. -/
theorem endsNumber
    (isClosing : IsClosing closing)
    (rest : List Char) :
    EndsNumber (closing :: rest) := by
  rcases isClosing with rfl | rfl <;> exact .cons (by decide) rest

end IsClosing

section

variable {α : Type} {closing : Char} {make : List α → Json}

/-- What a step over a sequence comes to. -/
inductive SequenceStep
    (closing : Char)
    (readPart : List Char → Except Stop (α × List Char))
    (readFurther : List Char → Except Stop (List α × List Char)) :
    List Char → Except Stop (List α × List Char) → Prop where
  | failed {cs : List Char} {stop : Stop}
      (partFailed : readPart cs = .error stop) :
      SequenceStep closing readPart readFurther cs (.error stop)
  | last {cs : List Char} {part : α} {space rest : List Char}
      (partRead : readPart cs = .ok (part, space ++ closing :: rest))
      (allSpace : AllSpace space) :
      SequenceStep closing readPart readFurther cs (.ok ([part], rest))
  | further {cs : List Char} {part : α} {space space' rest : List Char}
      (partRead : readPart cs = .ok (part, space ++ ',' :: (space' ++ rest)))
      (allSpace : AllSpace space)
      (allSpace' : AllSpace space')
      (token : StartsToken rest) :
      SequenceStep closing readPart readFurther cs
        ((readFurther rest).map fun (parts, rest) => (part :: parts, rest))
  | missingComma {cs : List Char} {part : α} {behind : List Char}
      (partRead : readPart cs = .ok (part, behind)) :
      SequenceStep closing readPart readFurther cs (fail .missingComma (skipSpace behind))

/-- One part of a sequence is read, and then the sequence ends, goes on or fails. -/
theorem readSequence_step
    (closing : Char)
    (readPart : Nat → List Char → Except Stop (α × List Char))
    (fuel : Nat)
    (cs : List Char) :
    SequenceStep closing (readPart fuel) (readSequence closing readPart fuel) cs
      (readSequence closing readPart (fuel + 1) cs) := by
  rw [readSequence]
  cases partRead : readPart fuel cs with
  | error stop =>
      exact .failed partRead
  | ok outcome =>
      obtain ⟨part, behind⟩ := outcome
      simp only [Except.bind]
      have missing :
          SequenceStep closing (readPart fuel) (readSequence closing readPart fuel) cs
            (fail .missingComma (skipSpace behind)) :=
        .missingComma partRead
      obtain ⟨space, token, rfl, allSpace, _, skipped⟩ := skipSpace_split behind
      rw [skipped] at missing ⊢
      cases token with
      | nil =>
          exact missing
      | cons c rest =>
          simp only [readBehind]
          split
          · rename_i closed
            subst closed
            exact .last partRead allSpace
          · split
            · rename_i comma
              subst comma
              obtain ⟨space', rest', rfl, allSpace', token, skipped'⟩ := skipSpace_split rest
              rw [skipped']
              exact .further partRead allSpace allSpace' token
            · exact missing

/-- A part before the closing character is the last one. -/
theorem readSequence_last
    (isClosing : IsClosing closing)
    {readPart : Nat → List Char → Except Stop (α × List Char)}
    {fuel : Nat}
    {cs space rest : List Char}
    {part : α}
    (partRead : readPart fuel cs = .ok (part, space ++ closing :: rest))
    (allSpace : AllSpace space) :
    readSequence closing readPart (fuel + 1) cs = .ok ([part], rest) := by
  have skipped : skipSpace (space ++ closing :: rest) = closing :: rest :=
    skipSpace_append allSpace (.cons isClosing.isSpace_eq_false rest)
  simp [readSequence, partRead, Except.bind, skipped, readBehind]

/-- A part before a comma is followed by the rest of the sequence. -/
theorem readSequence_further
    (isClosing : IsClosing closing)
    {readPart : Nat → List Char → Except Stop (α × List Char)}
    {fuel : Nat}
    {cs space space' rest : List Char}
    {part : α}
    (partRead : readPart fuel cs = .ok (part, space ++ ',' :: (space' ++ rest)))
    (allSpace : AllSpace space)
    (allSpace' : AllSpace space')
    (token : StartsToken rest) :
    readSequence closing readPart (fuel + 1) cs =
      (readSequence closing readPart fuel rest).map fun (parts, rest) => (part :: parts, rest) := by
  have skipped : skipSpace (space ++ ',' :: (space' ++ rest)) = ',' :: (space' ++ rest) :=
    skipSpace_append allSpace (.cons (by decide) _)
  simp [readSequence, partRead, Except.bind, skipped, readBehind, isClosing.ne_comma,
    skipSpace_append allSpace' token]

/-- Read an array or an object from behind its opening character. -/
def readContainer
    (closing : Char)
    (make : List α → Json)
    (readParts : List Char → Except Stop (List α × List Char))
    (cs : List Char) :
    Except Stop (Json × List Char) :=
  match skipSpace cs with
  | [] => (readParts []).map fun (parts, rest) => (make parts, rest)
  | c :: rest =>
      if c = closing then
        .ok (make [], rest)
      else
        (readParts (c :: rest)).map fun (parts, rest) => (make parts, rest)

/-- What reading an array or an object comes to. -/
inductive ContainerStep
    (closing : Char)
    (make : List α → Json)
    (readParts : List Char → Except Stop (List α × List Char)) :
    List Char → Except Stop (Json × List Char) → Prop where
  | empty {space rest : List Char}
      (allSpace : AllSpace space) :
      ContainerStep closing make readParts (space ++ closing :: rest) (.ok (make [], rest))
  | parts {space rest : List Char}
      (allSpace : AllSpace space)
      (token : StartsToken rest)
      (unclosed : rest.head? ≠ some closing) :
      ContainerStep closing make readParts (space ++ rest)
        ((readParts rest).map fun (parts, rest) => (make parts, rest))

/-- A container is empty, or its parts are read up to the closing character. -/
theorem readContainer_step
    (closing : Char)
    (make : List α → Json)
    (readParts : List Char → Except Stop (List α × List Char))
    (cs : List Char) :
    ContainerStep closing make readParts cs (readContainer closing make readParts cs) := by
  obtain ⟨space, rest, rfl, allSpace, token, skipped⟩ := skipSpace_split cs
  rw [readContainer, skipped]
  cases rest with
  | nil =>
      exact .parts allSpace token (by simp)
  | cons c rest =>
      dsimp only
      split
      · rename_i closed
        subst closed
        exact .empty allSpace
      · rename_i unclosed
        exact .parts allSpace token (by simpa using unclosed)

/-- A container that is closed at once has no parts. -/
theorem readContainer_empty
    (isClosing : IsClosing closing)
    (readParts : List Char → Except Stop (List α × List Char))
    {space : List Char}
    (allSpace : AllSpace space)
    (rest : List Char) :
    readContainer closing make readParts (space ++ closing :: rest) = .ok (make [], rest) := by
  have skipped : skipSpace (space ++ closing :: rest) = closing :: rest :=
    skipSpace_append allSpace (.cons isClosing.isSpace_eq_false rest)
  simp [readContainer, skipped]

/-- A container that is not closed at once has the parts that are read. -/
theorem readContainer_parts
    (readParts : List Char → Except Stop (List α × List Char))
    {space rest : List Char}
    (allSpace : AllSpace space)
    (token : StartsToken rest)
    (unclosed : rest.head? ≠ some closing) :
    readContainer closing make readParts (space ++ rest) =
      (readParts rest).map fun (parts, rest) => (make parts, rest) := by
  rw [readContainer, skipSpace_append allSpace token]
  cases rest with
  | nil =>
      rfl
  | cons c rest =>
      exact if_neg (by simpa using unclosed)

end

/-- What a step over a member comes to. -/
inductive MemberStep (fuel : Nat) :
    List Char → Except Stop ((String × Json) × List Char) → Prop where
  | missingName {cs : List Char} :
      MemberStep fuel cs (fail .missingName cs)
  | badName {rest : List Char} {stop : Stop}
      (nameFailed : readText rest = .error stop) :
      MemberStep fuel ('"' :: rest) (.error stop)
  | missingColon {rest behind : List Char} {name : String}
      (nameRead : readText rest = .ok (name, behind)) :
      MemberStep fuel ('"' :: rest) (fail .missingColon (skipSpace behind))
  | value {rest space space' behind : List Char} {name : String}
      (nameRead : readText rest = .ok (name, space ++ ':' :: (space' ++ behind)))
      (allSpace : AllSpace space)
      (allSpace' : AllSpace space')
      (token : StartsToken behind) :
      MemberStep fuel ('"' :: rest)
        ((readValue fuel behind).map fun (value, rest) => ((name, value), rest))

/-- A member is a name, a colon and a value, or it fails at one of them. -/
theorem readMember_step
    (fuel : Nat)
    (cs : List Char) :
    MemberStep fuel cs (readMember fuel cs) := by
  unfold readMember
  split
  · rename_i rest
    cases nameRead : readText rest with
    | error stop =>
        exact .badName nameRead
    | ok outcome =>
        obtain ⟨name, behind⟩ := outcome
        simp only [Except.bind]
        have missing :
            MemberStep fuel ('"' :: rest) (fail .missingColon (skipSpace behind)) :=
          .missingColon nameRead
        obtain ⟨space, token, rfl, allSpace, _, skipped⟩ := skipSpace_split behind
        rw [skipped] at missing ⊢
        split
        · rename_i behind _
          obtain ⟨space', behind', rfl, allSpace', token, skipped'⟩ := skipSpace_split behind
          rw [skipped']
          exact .value nameRead allSpace allSpace' token
        · exact missing
  · exact .missingName

/-- A name and a colon are followed by the value of the member. -/
theorem readMember_value
    (fuel : Nat)
    {rest space space' behind : List Char}
    {name : String}
    (nameRead : readText rest = .ok (name, space ++ ':' :: (space' ++ behind)))
    (allSpace : AllSpace space)
    (allSpace' : AllSpace space')
    (token : StartsToken behind) :
    readMember fuel ('"' :: rest) =
      (readValue fuel behind).map fun (value, rest) => ((name, value), rest) := by
  have skipped : skipSpace (space ++ ':' :: (space' ++ behind)) = ':' :: (space' ++ behind) :=
    skipSpace_append allSpace (.cons (by decide) _)
  simp [readMember, nameRead, Except.bind, skipped, skipSpace_append allSpace' token]

/-- A bracket opens a sequence of values. -/
theorem readValue_array_eq
    (fuel : Nat)
    (rest : List Char) :
    readValue (fuel + 1) ('[' :: rest) =
      readContainer ']' .array (readSequence ']' readValue fuel) rest := by
  simp only [readValue, readContainer, readItems_eq_readSequence]
  cases skipSpace rest with
  | nil =>
      rfl
  | cons c rest =>
      by_cases closed : c = ']'
      · simp [closed]
      · simp [closed]

/-- A brace opens a sequence of members. -/
theorem readValue_object_eq
    (fuel : Nat)
    (rest : List Char) :
    readValue (fuel + 1) ('\x7b' :: rest) =
      readContainer '\x7d' ofMembers (readSequence '\x7d' readMember fuel) rest := by
  simp only [readValue, readContainer, readMembers_eq_readSequence]
  cases skipSpace rest with
  | nil =>
      rfl
  | cons c rest =>
      by_cases closed : c = '\x7d'
      · subst closed
        rfl
      · simp [closed]

/-- What a step over a value comes to. -/
inductive ValueStep (fuel : Nat) : List Char → Except Stop (Json × List Char) → Prop where
  | text {rest : List Char} :
      ValueStep fuel ('"' :: rest)
        ((readText rest).map fun (value, rest) => (.text value, rest))
  | array {rest : List Char} :
      ValueStep fuel ('[' :: rest)
        (readContainer ']' .array (readSequence ']' readValue fuel) rest)
  | object {rest : List Char} :
      ValueStep fuel ('\x7b' :: rest)
        (readContainer '\x7d' ofMembers (readSequence '\x7d' readMember fuel) rest)
  | scalar {cs : List Char}
      (noText : cs.head? ≠ some '"')
      (noArray : cs.head? ≠ some '[')
      (noObject : cs.head? ≠ some '\x7b') :
      ValueStep fuel cs (readScalar cs)

/-- What no opening character announces is a scalar. -/
theorem readValue_of_scalar
    (fuel : Nat)
    {cs : List Char}
    (noText : cs.head? ≠ some '"')
    (noArray : cs.head? ≠ some '[')
    (noObject : cs.head? ≠ some '\x7b') :
    readValue (fuel + 1) cs = readScalar cs := by
  cases cs with
  | nil =>
      rfl
  | cons c rest =>
      exact readValue_scalar fuel (by simpa using noText) (by simpa using noArray)
        (by simpa using noObject) rest

/-- The first character tells which kind of value is read. -/
theorem readValue_step
    (fuel : Nat)
    (cs : List Char) :
    ValueStep fuel cs (readValue (fuel + 1) cs) := by
  by_cases text : cs.head? = some '"'
  · obtain ⟨rest, rfl⟩ := head?_eq_some_iff.mp text
    exact .text
  · by_cases array : cs.head? = some '['
    · obtain ⟨rest, rfl⟩ := head?_eq_some_iff.mp array
      rw [readValue_array_eq]
      exact .array
    · by_cases object : cs.head? = some '\x7b'
      · obtain ⟨rest, rfl⟩ := head?_eq_some_iff.mp object
        rw [readValue_object_eq]
        exact .object
      · rw [readValue_of_scalar fuel text array object]
        exact .scalar text array object

end QueryGateway.Json
