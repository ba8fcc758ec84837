import QueryGateway.Proofs.ReadOnlyGuard

/-!
# The grammar of reading texts

A reading text is noise and then a keyword.  Noise is a sequence of blanks,
comments and opening parentheses, and the keyword may be written in either case.
The guard takes a text for a reading one exactly if it has this form, although
it knows nothing of items and only drops what does not count.
-/

namespace QueryGateway.Sql

open List

/-! ## The grammar -/

/-- An item of noise with what stands behind it.  A comment of a line goes on to the end of the
line, and a block comment to the first star with a slash behind it. -/
inductive IsNoise : List Char → List Char → Prop where
  | blanks
      {run rest : List Char}
      (nonempty : run ≠ [])
      (blank : ∀ c ∈ run, Text.isBlank c = true) :
      IsNoise run rest
  | line
      {comment rest : List Char}
      (inLine : '\n' ∉ comment)
      (ends : ∀ c ∈ rest.head?, c = '\n') :
      IsNoise ('-' :: '-' :: comment) rest
  | block
      {body rest : List Char}
      (unclosed : ¬ ['*', '/'] <:+: body ++ ['*']) :
      IsNoise ('/' :: '*' :: (body ++ ['*', '/'])) rest
  | parenthesis
      {rest : List Char} :
      IsNoise ['('] rest

/-- Any number of items of noise with what stands behind them. -/
inductive NoiseBefore : List Char → List Char → Prop where
  | nothing
      {rest : List Char} :
      NoiseBefore [] rest
  | item
      {item more rest : List Char}
      (first : IsNoise item (more ++ rest))
      (others : NoiseBefore more rest) :
      NoiseBefore (item ++ more) rest

/-- An item that is noise whatever stands behind it; a comment of a line is one only with the end
of the line. -/
inductive IsCompleteNoise : List Char → Prop where
  | always
      {item : List Char}
      (noise : ∀ rest, IsNoise item rest) :
      IsCompleteNoise item
  | line
      {comment : List Char}
      (inLine : '\n' ∉ comment) :
      IsCompleteNoise ('-' :: '-' :: (comment ++ ['\n']))

/-- A keyword of a reading text, each letter of it in either case. -/
def IsReadingKeyword (word : List Char) : Prop :=
  ∃ keyword ∈ readingKeywords,
    Forall₂ (fun c letter => c = letter ∨ c = letter.toLower) word keyword.toList

/-- A text that starts with a keyword of a reading text behind noise. -/
def IsReadingText (text : List Char) : Prop :=
  ∃ noise word rest,
    text = noise ++ (word ++ rest) ∧
      NoiseBefore noise (word ++ rest) ∧
      IsReadingKeyword word ∧ ∀ c ∈ rest.head?, c.isAlpha = false

/-! ## Letters in either case -/

theorem val_between
    (low high c : Char) :
    (low.val ≤ c.val ∧ c.val ≤ high.val) ↔
      low.toNat ≤ c.toNat ∧ c.toNat ≤ high.toNat := by
  rw [UInt32.le_iff_toNat_le, UInt32.le_iff_toNat_le]
  exact Iff.rfl

theorem toNat_toUpper
    (c : Char) :
    c.toUpper.toNat =
      if 'a'.toNat ≤ c.toNat ∧ c.toNat ≤ 'z'.toNat then c.toNat - 32 else c.toNat := by
  unfold Char.toUpper
  split
  · rename_i small
    have bounds := (val_between 'a' 'z' c).mp small
    rw [if_pos bounds]
    change (c.val + 4294967264).toNat = _
    rw [UInt32.toNat_add]
    change (c.toNat + 4294967264) % 4294967296 = _
    have least : 'a'.toNat = 97 := rfl
    have greatest : 'z'.toNat = 122 := rfl
    omega
  · rename_i notSmall
    rw [if_neg fun bounds => notSmall ((val_between 'a' 'z' c).mpr bounds)]

theorem toNat_toLower
    (c : Char) :
    c.toLower.toNat =
      if 'A'.toNat ≤ c.toNat ∧ c.toNat ≤ 'Z'.toNat then c.toNat + 32 else c.toNat := by
  unfold Char.toLower
  split
  · rename_i capital
    have bounds := (val_between 'A' 'Z' c).mp capital
    rw [if_pos bounds]
    change (c.val + 32).toNat = _
    rw [UInt32.toNat_add]
    change (c.toNat + 32) % 4294967296 = _
    have greatest : 'Z'.toNat = 90 := rfl
    omega
  · rename_i notCapital
    rw [if_neg fun bounds => notCapital ((val_between 'A' 'Z' c).mpr bounds)]

/-- A character is a capital in upper case if it is the capital or its small letter. -/
theorem toUpper_eq_iff
    {c letter : Char}
    (capital : letter.isUpper = true) :
    c.toUpper = letter ↔ c = letter ∨ c = letter.toLower := by
  have bounds : 'A'.toNat ≤ letter.toNat ∧ letter.toNat ≤ 'Z'.toNat :=
    (val_between 'A' 'Z' letter).mp (of_decide_eq_true capital)
  have codes : 'A'.toNat = 65 ∧ 'Z'.toNat = 90 ∧ 'a'.toNat = 97 ∧ 'z'.toNat = 122 :=
    ⟨rfl, rfl, rfl, rfl⟩
  rw [← Char.toNat_inj, ← Char.toNat_inj, ← Char.toNat_inj, toNat_toUpper,
    toNat_toLower, if_pos bounds]
  split <;> omega

/-- The keywords of reading texts are written in capitals. -/
theorem isUpper_of_mem_keyword
    {keyword : String}
    (member : keyword ∈ readingKeywords) :
    ∀ letter ∈ keyword.toList, letter.isUpper = true := by
  have capitals : readingKeywords.all (fun keyword => keyword.toList.all Char.isUpper) = true := by
    decide
  exact all_eq_true.mp (all_eq_true.mp capitals keyword member)

theorem forall₂_either_case_iff
    {word letters : List Char}
    (capitals : ∀ letter ∈ letters, letter.isUpper = true) :
    Forall₂ (fun c letter => c = letter ∨ c = letter.toLower) word letters ↔
      word.map Char.toUpper = letters := by
  induction letters generalizing word with
  | nil =>
      rw [forall₂_nil_right_iff, map_eq_nil_iff]
  | cons letter letters inductionHypothesis =>
      obtain ⟨first, others⟩ := forall_mem_cons.mp capitals
      cases word with
      | nil =>
          simp
      | cons c word =>
          rw [forall₂_cons, map_cons, cons.injEq, toUpper_eq_iff first]
          exact and_congr_right fun _ => inductionHypothesis others

/-- A word is a keyword of a reading text if it is one in capitals. -/
theorem isReadingKeyword_iff
    (word : List Char) :
    IsReadingKeyword word ↔ String.ofList (word.map Char.toUpper) ∈ readingKeywords := by
  constructor
  · rintro ⟨keyword, member, letters⟩
    rw [(forall₂_either_case_iff (isUpper_of_mem_keyword member)).mp letters,
      String.ofList_toList]
    exact member
  · intro member
    refine ⟨_, member, ?_⟩
    rw [forall₂_either_case_iff (isUpper_of_mem_keyword member), String.toList_ofList]

/-! ## Noise is dropped -/

theorem noiseLength?_blank
    {c : Char}
    (blank : Text.isBlank c = true)
    (rest : List Char) :
    noiseLength? (c :: rest) = some 1 := by
  rw [noiseLength?, blank]
  rfl

theorem noiseLength?_line
    {comment rest : List Char}
    (inLine : '\n' ∉ comment)
    (ends : ∀ c ∈ rest.head?, c = '\n') :
    noiseLength? ('-' :: '-' :: (comment ++ rest)) = some (comment.length + 2) := by
  have wholeComment : (comment ++ rest).takeWhile (· ≠ '\n') = comment := by
    have stops : rest.takeWhile (· ≠ '\n') = [] := by
      cases rest with
      | nil => rfl
      | cons c rest => simp [ends c rfl]
    have goesOn : ∀ c ∈ comment, decide (c ≠ '\n') = true := by
      intro c member
      refine decide_eq_true ?_
      rintro rfl
      exact inLine member
    rw [takeWhile_append_of_pos goesOn, stops, append_nil]
  have noBlank : (Text.isBlank '-' || '-' = '(') = false := by decide
  rw [noiseLength?, if_neg (by rw [noBlank]; exact Bool.false_ne_true),
    commentLength?, wholeComment, Nat.add_comm]

theorem noiseLength?_slash
    (rest : List Char) :
    noiseLength? ('/' :: '*' :: rest) = (blockTailLength? rest).map (· + 2) := by
  have noBlank : (Text.isBlank '/' || '/' = '(') = false := by decide
  rw [noiseLength?, if_neg (by rw [noBlank]; exact Bool.false_ne_true), commentLength?]

theorem dropNoise_blanks
    {run : List Char}
    (blank : ∀ c ∈ run, Text.isBlank c = true)
    (rest : List Char) :
    dropNoise 0 (run ++ rest) = dropNoise 0 rest := by
  induction run with
  | nil =>
      rfl
  | cons c run inductionHypothesis =>
      obtain ⟨first, others⟩ := forall_mem_cons.mp blank
      have found : noiseLength? ([c] ++ (run ++ rest)) = some [c].length :=
        noiseLength?_blank first (run ++ rest)
      exact (dropNoise_of_noise found).trans (inductionHypothesis others)

/-- An item of noise is dropped. -/
theorem IsNoise.dropNoise_append
    {item rest : List Char}
    (noise : IsNoise item rest) :
    dropNoise 0 (item ++ rest) = dropNoise 0 rest := by
  cases noise with
  | blanks nonempty blank =>
      exact dropNoise_blanks blank rest
  | line inLine ends =>
      exact dropNoise_of_noise (noiseLength?_line inLine ends)
  | @block body _ unclosed =>
      apply dropNoise_of_noise
      have closed := blockTailLength?_closed unclosed rest
      simp [noiseLength?_slash, closed]
  | parenthesis =>
      exact dropNoise_of_noise rfl

/-- Noise is dropped, however many items it has. -/
theorem NoiseBefore.dropNoise_append
    {noise rest : List Char}
    (before : NoiseBefore noise rest) :
    dropNoise 0 (noise ++ rest) = dropNoise 0 rest := by
  induction before with
  | nothing =>
      rfl
  | item first others inductionHypothesis =>
      rw [append_assoc, first.dropNoise_append, inductionHypothesis]

/-! ## What is dropped is noise -/

/-- What is dropped at once is an item of noise. -/
theorem exists_isNoise_of_noiseLength?
    {cs : List Char}
    {length : Nat}
    (found : noiseLength? cs = some length) :
    ∃ item rest, cs = item ++ rest ∧ item.length = length ∧ IsNoise item rest := by
  cases cs with
  | nil =>
      cases found
  | cons c cs =>
      rw [noiseLength?] at found
      split at found
      · rename_i noise
        cases found
        rw [Bool.or_eq_true, decide_eq_true_eq] at noise
        refine ⟨[c], cs, rfl, rfl, ?_⟩
        rcases noise with blank | rfl
        · exact .blanks (cons_ne_nil c []) (by simpa using blank)
        · exact .parenthesis
      · rcases commentLength?_cases found with
          ⟨rest, shape, isLength⟩ | ⟨rest, inner, shape, isInner, isLength⟩
        · refine ⟨'-' :: '-' :: rest.takeWhile (· ≠ '\n'), rest.dropWhile (· ≠ '\n'),
            by simp [shape], by rw [isLength, Nat.add_comm]; rfl, .line ?_ ?_⟩
          · intro member
            have notEnd := all_eq_true.mp (all_takeWhile (p := (· ≠ '\n'))) _ member
            simp at notEnd
          · intro d first
            have stops := head?_dropWhile_not (· ≠ '\n') rest
            rw [Option.mem_def.mp first] at stops
            simpa using stops
        · obtain ⟨body, later, rfl, rfl, unclosed⟩ := exists_of_blockTailLength? isInner
          exact ⟨'/' :: '*' :: (body ++ ['*', '/']), later, by simp [shape],
            by simp [isLength], .block unclosed⟩

/-- What is dropped at the front of a text is noise. -/
theorem exists_noiseBefore
    (cs : List Char) :
    ∃ noise, cs = noise ++ dropNoise 0 cs ∧ NoiseBefore noise (dropNoise 0 cs) := by
  induction size_eq : cs.length using Nat.strong_induction_on generalizing cs with
  | _ size inductionHypothesis =>
      cases found : noiseLength? cs with
      | none =>
          rw [dropNoise_of_counts found]
          exact ⟨[], rfl, .nothing⟩
      | some length =>
          obtain ⟨item, rest, rfl, isLength, isNoise⟩ :=
            exists_isNoise_of_noiseLength? found
          have shorter : rest.length < size := by
            have positive := (noiseLength?_bounds found).1
            rw [← size_eq, length_append]
            omega
          obtain ⟨noise, split, before⟩ := inductionHypothesis _ shorter rest rfl
          rw [isNoise.dropNoise_append]
          refine ⟨item ++ noise, by rw [append_assoc, ← split], .item ?_ before⟩
          rw [← split]
          exact isNoise

/-! ## The guard reads the grammar -/

/-- A keyword has letters; each is a letter of ASCII in either case, which is no blank and opens
nothing. -/
theorem counts_of_keyword :
    ∀ keyword ∈ readingKeywords,
      keyword.toList ≠ [] ∧
        ∀ letter ∈ keyword.toList, ∀ c ∈ [letter, letter.toLower],
          c.isAlpha = true ∧
            (Text.isBlank c || c = '(') = false ∧ c ≠ '-' ∧ c ≠ '/' := by
  have counts :
      readingKeywords.all (fun keyword =>
        keyword.toList ≠ [] &&
          keyword.toList.all fun letter =>
            [letter, letter.toLower].all fun c =>
              c.isAlpha && (!(Text.isBlank c || c = '(') && (c ≠ '-' && c ≠ '/'))) =
        true := by
    decide
  simpa only [all_eq_true, Bool.and_eq_true, Bool.not_eq_true', decide_eq_true_eq] using counts

theorem exists_letter_of_mem
    {word letters : List Char}
    (spelled : Forall₂ (fun c letter => c = letter ∨ c = letter.toLower) word letters)
    {c : Char}
    (member : c ∈ word) :
    ∃ letter ∈ letters, c ∈ [letter, letter.toLower] := by
  induction spelled with
  | nil =>
      cases member
  | cons first _ inductionHypothesis =>
      rcases mem_cons.mp member with rfl | inRest
      · exact ⟨_, mem_cons_self, by simpa using first⟩
      · obtain ⟨letter, listed, either⟩ := inductionHypothesis inRest
        exact ⟨letter, mem_cons_of_mem _ listed, either⟩

/-- A keyword consists of letters, and no noise starts with it. -/
theorem IsReadingKeyword.counts
    {word : List Char}
    (isKeyword : IsReadingKeyword word) :
    (∀ c ∈ word, c.isAlpha = true) ∧ ∀ rest, noiseLength? (word ++ rest) = none := by
  obtain ⟨keyword, member, spelled⟩ := isKeyword
  obtain ⟨nonempty, letters⟩ := counts_of_keyword keyword member
  have isLetter
      {c : Char}
      (inWord : c ∈ word) :
      c.isAlpha = true ∧ (Text.isBlank c || c = '(') = false ∧ c ≠ '-' ∧ c ≠ '/' := by
    obtain ⟨letter, listed, either⟩ := exists_letter_of_mem spelled inWord
    exact letters letter listed c either
  refine ⟨fun c inWord => (isLetter inWord).1, fun rest => ?_⟩
  cases word with
  | nil =>
      exact absurd (forall₂_nil_left_iff.mp spelled) nonempty
  | cons c word =>
      obtain ⟨_, noBlank, noHyphen, noSlash⟩ := isLetter mem_cons_self
      rw [cons_append, noiseLength?, noBlank, if_neg Bool.false_ne_true]
      exact commentLength?_eq_none fun d _ => by simp [opensComment, noHyphen, noSlash]

theorem isReadOnly_iff_leadingKeyword
    (text : String) :
    isReadOnly text = true ↔ leadingKeyword text.toList ∈ readingKeywords := by
  rw [isReadOnly, contains_iff_mem]

/-- The guard lets exactly the reading texts through. -/
theorem isReadOnly_iff_isReadingText
    (text : String) :
    isReadOnly text = true ↔ IsReadingText text.toList := by
  rw [isReadOnly_iff_leadingKeyword, leadingKeyword, ← isReadingKeyword_iff]
  constructor
  · intro isKeyword
    obtain ⟨noise, split, before⟩ := exists_noiseBefore text.toList
    generalize dropNoise 0 text.toList = body at isKeyword split before
    have parts : body.takeWhile Char.isAlpha ++ body.dropWhile Char.isAlpha = body :=
      takeWhile_append_dropWhile
    rw [← parts] at split before
    refine ⟨noise, _, _, split, before, isKeyword, fun c first => ?_⟩
    have stops := head?_dropWhile_not Char.isAlpha body
    rw [Option.mem_def.mp first] at stops
    simpa using stops
  · rintro ⟨noise, word, rest, split, before, isKeyword, ends⟩
    obtain ⟨letters, counts⟩ := isKeyword.counts
    have stops : rest.takeWhile Char.isAlpha = [] := by
      cases rest with
      | nil => rfl
      | cons c rest => simp [ends c rfl]
    rw [split, before.dropNoise_append, dropNoise_of_counts (counts rest),
      takeWhile_append_of_pos letters, stops, append_nil]
    exact isKeyword

/-- Texts of which the same is left without their noise are treated alike. -/
theorem isReadOnly_of_dropNoise_eq
    {text other : String}
    (same : dropNoise 0 text.toList = dropNoise 0 other.toList) :
    isReadOnly text = isReadOnly other := by
  rw [isReadOnly, isReadOnly, leadingKeyword, leadingKeyword, same]

/-- Items that are noise whatever stands behind them are dropped in front of every text. -/
theorem dropNoise_flatten_append
    {items : List (List Char)}
    (complete : ∀ item ∈ items, IsCompleteNoise item)
    (rest : List Char) :
    dropNoise 0 (items.flatten ++ rest) = dropNoise 0 rest := by
  induction items with
  | nil =>
      rfl
  | cons item items inductionHypothesis =>
      obtain ⟨first, others⟩ := forall_mem_cons.mp complete
      rw [flatten_cons, append_assoc, ← inductionHypothesis others]
      cases first with
      | always noise =>
          exact (noise _).dropNoise_append
      | @line comment inLine =>
          -- The end of the line is no part of the comment; it is a blank behind it.
          have line : IsNoise ('-' :: '-' :: comment) ('\n' :: (items.flatten ++ rest)) :=
            .line inLine (by simp)
          have lineEnd : IsNoise ['\n'] (items.flatten ++ rest) :=
            .blanks (cons_ne_nil _ _) (forall_mem_singleton.mpr (by decide))
          have joined := line.dropNoise_append.trans lineEnd.dropNoise_append
          simpa using joined

/-- The guard lets exactly the texts through that are noise and then a keyword.  So complete noise
in front of a text never changes what the guard says, and a text is refused in which a block
comment is opened behind noise and never closed. -/
theorem isReadOnly_grammar
    (text : String) :
    (isReadOnly text = true ↔ IsReadingText text.toList) ∧
      (∀ items : List (List Char), (∀ item ∈ items, IsCompleteNoise item) →
        isReadOnly (String.ofList items.flatten ++ text) = isReadOnly text) ∧
      (∀ noise rest,
        text.toList = noise ++ '/' :: '*' :: rest →
          NoiseBefore noise ('/' :: '*' :: rest) →
          ¬ ['*', '/'] <:+: rest →
          isReadOnly text = false) := by
  refine ⟨isReadOnly_iff_isReadingText text, ?_, ?_⟩
  · intro items complete
    apply isReadOnly_of_dropNoise_eq
    rw [String.toList_append, String.toList_ofList, dropNoise_flatten_append complete]
  · intro noise rest split before unclosed
    have counts : noiseLength? ('/' :: '*' :: rest) = none := by
      rw [noiseLength?_slash, blockTailLength?_eq_none_iff.mpr unclosed]
      rfl
    rw [← Bool.not_eq_true, isReadOnly_iff_leadingKeyword, leadingKeyword, split,
      before.dropNoise_append, dropNoise_of_counts counts]
    have noWord : ('/' :: '*' :: rest).takeWhile Char.isAlpha = [] := rfl
    rw [noWord]
    decide

/-- A keyword in letters of both cases is found behind a comment, and behind more noise; a comment
that is never closed hides it. -/
theorem isReadOnly_grammar_commented :
    IsReadingText "-- WITH\n(sElEcT".toList ∧
      isReadOnly (String.ofList ["--*/\n".toList, "(".toList].flatten ++ "-- WITH\n(sElEcT") =
        true ∧
      isReadOnly "(/*/ SELECT 1" = false := by
  have reads : isReadOnly "-- WITH\n(sElEcT" = true := by decide +kernel
  have line : IsCompleteNoise ('-' :: '-' :: ("*/".toList ++ ['\n'])) := .line (by decide)
  have complete : ∀ item ∈ ["--*/\n".toList, "(".toList], IsCompleteNoise item := by
    rw [forall_mem_cons, forall_mem_singleton]
    exact ⟨line, .always fun _ => .parenthesis⟩
  have before : NoiseBefore (['('] ++ []) "/*/ SELECT 1".toList := .item .parenthesis .nothing
  have unclosed : ¬ ['*', '/'] <:+: "/ SELECT 1".toList := blockTailLength?_eq_none_iff.mp rfl
  have split : "(/*/ SELECT 1".toList = ['('] ++ '/' :: '*' :: "/ SELECT 1".toList := rfl
  obtain ⟨reading, prefixed, _⟩ := isReadOnly_grammar "-- WITH\n(sElEcT"
  obtain ⟨_, _, refused⟩ := isReadOnly_grammar "(/*/ SELECT 1"
  exact ⟨reading.mp reads, (prefixed _ complete).trans reads, refused _ _ split before unclosed⟩

end QueryGateway.Sql
