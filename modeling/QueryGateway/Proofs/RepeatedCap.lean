import Mathlib.Data.List.DropRight
import Mathlib.Data.List.Induction
import QueryGateway.Proofs.RowCap

/-!
# Capping a statement again

A statement that was capped holds a limit, so no limit is written behind it
again, whatever the number of rows is.  It is trimmed again, though: a blank
that stood before the semicolons is at the end now, and where nothing was left
to be capped, the line of the limit is the first one.  Otherwise capping again
changes nothing.
-/

namespace QueryGateway.Sql

open List

/-! ## What is trimmed takes no part in a limit -/

/-- The code points of the blanks. -/
def blankCodes : List Nat :=
  [0x09, 0x0a, 0x0b, 0x0c, 0x0d, 0x1c, 0x1d, 0x1e, 0x1f, 0x20, 0x85, 0xa0, 0x1680,
    0x2000, 0x2001, 0x2002, 0x2003, 0x2004, 0x2005, 0x2006, 0x2007, 0x2008, 0x2009, 0x200a,
    0x2028, 0x2029, 0x202f, 0x205f, 0x3000]

theorem toNat_mem_blankCodes
    {c : Char}
    (blank : Text.isBlank c = true) :
    c.toNat ∈ blankCodes := by
  simp only [Text.isBlank, Bool.or_eq_true, Bool.and_eq_true, decide_eq_true_eq] at blank
  simp only [blankCodes, mem_cons, not_mem_nil, or_false]
  omega

/-- A character that is neither a letter of the keyword of a limit nor a digit. -/
def IsInert (c : Char) : Prop :=
  isKeywordLetter c = false ∧ Text.isDecimalDigit c = false

instance (c : Char) : Decidable (IsInert c) :=
  inferInstanceAs (Decidable (_ ∧ _))

theorem isInert_of_isBlank
    {c : Char}
    (blank : Text.isBlank c = true) :
    IsInert c := by
  have inert : ∀ code ∈ blankCodes, IsInert (Char.ofNat code) := by
    decide +kernel
  rw [← Char.ofNat_toNat c]
  exact inert _ (toNat_mem_blankCodes blank)

theorem isInert_of_isTrailing
    {c : Char}
    (trailing : isTrailing c = true) :
    IsInert c := by
  simp only [isTrailing, Bool.or_eq_true, decide_eq_true_eq] at trailing
  rcases trailing with (((rfl | rfl) | rfl) | rfl) | rfl <;> decide

theorem digitAfterBlanks_append_inert
    {c : Char}
    (inert : IsInert c)
    (front : List Char) :
    digitAfterBlanks (front ++ [c]) = digitAfterBlanks front := by
  induction front with
  | nil =>
      have none : digitAfterBlanks [] = false := rfl
      rw [nil_append, digitAfterBlanks_cons, inert.2, none, ite_self]
  | cons d front inductionHypothesis =>
      rw [cons_append, digitAfterBlanks_cons, digitAfterBlanks_cons, inductionHypothesis]

theorem startsWithLimit_append_inert
    {c : Char}
    (inert : IsInert c)
    (front : List Char) :
    startsWithLimit (front ++ [c]) = startsWithLimit front := by
  rw [startsWithLimit_eq, startsWithLimit_eq,
    afterKeyword?_append_stop inert.1 (fun _ member => member)]
  cases afterKeyword? limitKeyword front with
  | none =>
      rfl
  | some rest =>
      change startsWithNumber (rest ++ [c]) = startsWithNumber rest
      rw [startsWithNumber, startsWithNumber, digitAfterBlanks_append_inert inert]
      cases rest with
      | nil => exact Bool.and_false _
      | cons => rfl

/-- An inert character at the end of a text neither hides a limit nor makes one. -/
theorem holdsLimitAfter_append_inert
    {c : Char}
    (inert : IsInert c)
    (previous : Option Char)
    (front : List Char) :
    holdsLimitAfter previous (front ++ [c]) = holdsLimitAfter previous front := by
  induction front generalizing previous with
  | nil =>
      have noLimit : startsWithLimit [c] = false :=
        startsWithLimit_append_inert inert []
      change (!_ && startsWithLimit [c] || false) = false
      rw [noLimit, Bool.and_false, Bool.or_false]
  | cons d front inductionHypothesis =>
      have sameStart := startsWithLimit_append_inert inert (d :: front)
      rw [cons_append] at sameStart ⊢
      rw [holdsLimitAfter, holdsLimitAfter, sameStart, inductionHypothesis]

theorem holdsLimit_dropEndWhile
    {drop : Char → Bool}
    (inert : ∀ c, drop c = true → IsInert c)
    (cs : List Char) :
    holdsLimit (Text.dropEndWhile drop cs) = holdsLimit cs := by
  induction cs using List.reverseRecOn with
  | nil =>
      rfl
  | append_singleton cs c inductionHypothesis =>
      rw [Text.dropEndWhile_append_singleton]
      split
      · rename_i dropped
        rw [inductionHypothesis]
        exact (holdsLimitAfter_append_inert (inert c dropped) none cs).symm
      · rfl

/-- A limit behind a character is found without that character too. -/
theorem holdsLimit_of_holdsLimitAfter
    {previous : Option Char}
    {cs : List Char}
    (found : holdsLimitAfter previous cs = true) :
    holdsLimit cs = true := by
  cases cs with
  | nil =>
      exact found
  | cons c rest =>
      rw [holdsLimitAfter, Bool.or_eq_true, Bool.and_eq_true] at found
      rw [holdsLimit, holdsLimitAfter, Bool.or_eq_true, Bool.and_eq_true]
      exact found.imp_left fun here => ⟨rfl, here.2⟩

theorem holdsLimit_dropWhile
    {cs : List Char}
    (found : holdsLimit cs = true) :
    holdsLimit (cs.dropWhile Text.isBlank) = true := by
  induction cs with
  | nil =>
      exact found
  | cons c rest inductionHypothesis =>
      rw [dropWhile_cons]
      split
      · rename_i blank
        have notHere : startsWithLimit (c :: rest) = false := by
          apply startsWithLimit_of_noKeyword
          rw [limitKeyword]
          have noForm : isLetterForm 'L' c = false :=
            notForm_of_notLetter (by decide) (isInert_of_isBlank blank).1
          simp [afterKeyword?, noForm]
        rw [holdsLimit, holdsLimitAfter, notHere, Bool.and_false, Bool.false_or] at found
        exact inductionHypothesis (holdsLimit_of_holdsLimitAfter found)
      · exact found

/-- Trimming does not hide a limit. -/
theorem holdsLimit_trimmed
    {cs : List Char}
    (found : holdsLimit cs = true) :
    holdsLimit (trimmed cs) = true := by
  rw [trimmed, Text.trimBlanks,
    holdsLimit_dropEndWhile (fun _ => isInert_of_isTrailing),
    holdsLimit_dropEndWhile (fun _ => isInert_of_isBlank)]
  exact holdsLimit_dropWhile found

/-! ## Trimming again -/

theorem dropEndWhile_isPrefix
    (drop : Char → Bool)
    (cs : List Char) :
    Text.dropEndWhile drop cs <+: cs :=
  rdropWhile_prefix drop cs

/-- Nothing is dropped at the end exactly if the last character stays. -/
theorem dropEndWhile_eq_self_iff
    {drop : Char → Bool}
    {cs : List Char} :
    Text.dropEndWhile drop cs = cs ↔ ∀ c ∈ cs.getLast?, drop c = false := by
  constructor
  · intro same c isLast
    obtain ⟨nonempty, rfl⟩ := mem_getLast?_eq_getLast isLast
    simpa using rdropWhile_eq_self_iff.mp same nonempty
  · intro stays
    refine rdropWhile_eq_self_iff.mpr fun nonempty => ?_
    simpa using stays _ (getLast?_eq_some_getLast nonempty)

/-- A trimmed text does not start with a blank. -/
theorem head_trimmed
    (cs : List Char)
    {c : Char}
    (isFirst : c ∈ (trimmed cs).head?) :
    Text.isBlank c = false := by
  have isPrefix : trimmed cs <+: cs.dropWhile Text.isBlank :=
    (dropEndWhile_isPrefix _ _).trans (dropEndWhile_isPrefix _ _)
  obtain ⟨rest, shape⟩ := isPrefix
  have starts : (cs.dropWhile Text.isBlank).head? = some c := by
    rw [← shape, head?_append, isFirst]
    rfl
  have noBlank := head?_dropWhile_not Text.isBlank cs
  rw [starts] at noBlank
  simpa using noBlank

/-- A text that starts with a blank is not trimmed. -/
theorem trimmed_ne_self
    {c : Char}
    (blank : Text.isBlank c = true)
    (rest : List Char) :
    trimmed (c :: rest) ≠ c :: rest := by
  intro isTrimmed
  have noBlank : Text.isBlank c = false :=
    head_trimmed (c :: rest) (by rw [isTrimmed]; rfl)
  rw [noBlank] at blank
  cases blank

/-- Trimming is settled after once exactly if it leaves no blank at the end, as it does where a
blank stands before the semicolons. -/
theorem trimmed_trimmed_iff
    (cs : List Char) :
    trimmed (trimmed cs) = trimmed cs ↔
      ∀ c ∈ (trimmed cs).getLast?, Text.isBlank c = false := by
  have noBlankFirst : (trimmed cs).dropWhile Text.isBlank = trimmed cs := by
    cases shape : trimmed cs with
    | nil =>
        rfl
    | cons c rest =>
        have noBlank : Text.isBlank c = false :=
          head_trimmed cs (by rw [shape]; rfl)
        rw [dropWhile_cons_of_neg (by rw [noBlank]; decide)]
  have again :
      trimmed (trimmed cs) =
        Text.dropEndWhile isTrailing (Text.dropEndWhile Text.isBlank (trimmed cs)) := by
    conv_lhs => rw [trimmed, Text.trimBlanks, noBlankFirst]
  have settled : Text.dropEndWhile isTrailing (trimmed cs) = trimmed cs :=
    rdropWhile_idempotent _ _
  rw [← dropEndWhile_eq_self_iff, again]
  constructor
  · intro isTrimmed
    -- The blanks are dropped first, so nothing can be put back afterwards.
    refine (dropEndWhile_isPrefix _ _).eq_of_length_le ?_
    calc
      (trimmed cs).length =
          (Text.dropEndWhile isTrailing
            (Text.dropEndWhile Text.isBlank (trimmed cs))).length := by
        rw [isTrimmed]
      _ ≤ (Text.dropEndWhile Text.isBlank (trimmed cs)).length :=
        (dropEndWhile_isPrefix _ _).length_le
  · intro noBlank
    rw [noBlank, settled]

/-! ## Capping again -/

/-- A statement with a limit in a line of its own behind it is trimmed unless there is nothing
before that line. -/
theorem trimmed_line_iff
    {body : List Char}
    (starts : ∀ c ∈ body.head?, Text.isBlank c = false)
    (bound : Int) :
    trimmed (body ++ '\n' :: ("LIMIT " ++ Numeral.ofInt bound).toList) =
        body ++ '\n' :: ("LIMIT " ++ Numeral.ofInt bound).toList ↔
      body ≠ [] := by
  constructor
  · rintro isTrimmed rfl
    exact trimmed_ne_self (by decide) _ isTrimmed
  · intro nonempty
    apply trimmed_eq_self
    · obtain ⟨c, rest, rfl⟩ := exists_cons_of_ne_nil nonempty
      exact starts
    · obtain ⟨c, isLast, quiet⟩ := (Numeral.ofInt_isNumberText bound).last_quiet
      refine ⟨c, ?_, isFirmChar_of_quiet quiet⟩
      have shape :
          body ++ '\n' :: ("LIMIT " ++ Numeral.ofInt bound).toList =
            (body ++ '\n' :: "LIMIT ".toList) ++ (Numeral.ofInt bound).toList := by
        simp [String.toList_append]
      rw [shape]
      exact mem_getLast?_append_of_mem_getLast? isLast

section

variable
  {statement bounded : String}
  {rows : Int}

/-- A statement is capped by trimming it, or also by a line with a limit. -/
theorem toList_of_capped?
    (isCapped : capped? statement rows = some bounded) :
    (holdsLimit (trimmed statement.toList) = true ∧
        bounded.toList = trimmed statement.toList) ∨
      (holdsLimit (trimmed statement.toList) = false ∧
        bounded.toList =
          trimmed statement.toList ++ '\n' :: ("LIMIT " ++ Numeral.ofInt rows).toList) := by
  rw [capped?_eq] at isCapped
  split at isCapped
  · rename_i limited
    rw [← Option.some_inj.mp isCapped, String.toList_ofList]
    exact .inl ⟨limited, rfl⟩
  · rename_i unlimited
    split at isCapped
    · rw [← Option.some_inj.mp isCapped]
      exact .inr ⟨eq_false_of_ne_true unlimited, by simp [String.toList_append]⟩
    · cases isCapped

/-- A statement that was capped holds a limit. -/
theorem holdsLimit_of_capped?
    (nonneg : 0 ≤ rows)
    (isCapped : capped? statement rows = some bounded) :
    holdsLimit bounded.toList = true := by
  rcases toList_of_capped? isCapped with ⟨limited, isBody⟩ | ⟨_, isLine⟩
  · rw [isBody]
    exact limited
  · rw [isLine, holdsLimit, ← append_nil (_ ++ _)]
    exact holdsLimitAfter_line nonneg _ [] none

/-- A statement that was capped is settled exactly if there was something to be capped, and what
held a limit already had no blank before the semicolons at its end. -/
theorem trimmed_of_capped?_iff
    (isCapped : capped? statement rows = some bounded) :
    trimmed bounded.toList = bounded.toList ↔
      trimmed statement.toList ≠ [] ∧
        (holdsLimit (trimmed statement.toList) = true →
          ∀ c ∈ (trimmed statement.toList).getLast?, Text.isBlank c = false) := by
  rcases toList_of_capped? isCapped with ⟨limited, isBody⟩ | ⟨unlimited, isLine⟩
  · have nonempty : trimmed statement.toList ≠ [] := by
      intro isEmpty
      rw [isEmpty] at limited
      cases limited
    rw [isBody, trimmed_trimmed_iff]
    exact ⟨fun settled => ⟨nonempty, fun _ => settled⟩, fun settled => settled.2 limited⟩
  · rw [isLine, trimmed_line_iff fun _ => head_trimmed _]
    refine ⟨fun nonempty => ⟨nonempty, fun limited => ?_⟩, And.left⟩
    rw [unlimited] at limited
    cases limited

/-- A statement that was capped is only trimmed when it is capped again, whatever the number of rows
is.  So capping again changes nothing exactly if there was something to be capped, and what held a
limit already had no blank before the semicolons at its end. -/
theorem capped?_again
    (nonneg : 0 ≤ rows)
    (isCapped : capped? statement rows = some bounded)
    (again : Int) :
    let body := trimmed statement.toList
    capped? bounded again = some (String.ofList (trimmed bounded.toList)) ∧
      (capped? bounded again = some bounded ↔
        body ≠ [] ∧
          (holdsLimit body = true → ∀ c ∈ body.getLast?, Text.isBlank c = false)) := by
  intro body
  have onlyTrimmed :
      capped? bounded again = some (String.ofList (trimmed bounded.toList)) := by
    rw [capped?_eq, if_pos (holdsLimit_trimmed (holdsLimit_of_capped? nonneg isCapped))]
  refine ⟨onlyTrimmed, ?_⟩
  rw [onlyTrimmed, Option.some_inj, ← String.toList_inj, String.toList_ofList]
  exact trimmed_of_capped?_iff isCapped

end

/-- A statement with a blank before its semicolon is capped once. -/
theorem capped?_again_semicolon :
    let statement := "SELECT region FROM sales ;"
    let bounded := "SELECT region FROM sales\nLIMIT 50"
    capped? statement 50 = some bounded ∧ capped? bounded 7 = some bounded := by
  have isCapped :
      capped? "SELECT region FROM sales ;" 50 =
        some "SELECT region FROM sales\nLIMIT 50" := by
    decide +kernel
  refine ⟨isCapped, (capped?_again (by decide) isCapped 7).2.mpr ⟨?_, ?_⟩⟩
  · decide +kernel
  · intro limited
    exact absurd limited (by decide +kernel)

/-- The empty statement and one with a no-break space before its semicolon change when they are
capped a second time. -/
theorem capped?_twice_changes :
    capped? "" 10 = some "\nLIMIT 10" ∧
      capped? "\nLIMIT 10" 10 = some "LIMIT 10" ∧
      capped? "SELECT 1 LIMIT 5\u00a0;" 10 = some "SELECT 1 LIMIT 5\u00a0" ∧
      capped? "SELECT 1 LIMIT 5\u00a0" 10 = some "SELECT 1 LIMIT 5" := by
  decide +kernel

end QueryGateway.Sql
