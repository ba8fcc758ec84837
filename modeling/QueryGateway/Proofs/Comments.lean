import QueryGateway.Sql.Lexeme

/-!
# Comments in longer and shorter texts

The length of the comment at the front of a text depends on no more of the text
than the comment and, where it ends with its line, the end of the line.  So it
is the same in a longer text and in a front that holds it.
-/

namespace QueryGateway.Sql

open List

/-- The end of a block comment takes two characters, and it is part of the text. -/
theorem blockTailLength?_bounds
    {cs : List Char}
    {length : Nat}
    (found : blockTailLength? cs = some length) :
    2 ≤ length ∧ length ≤ cs.length := by
  fun_induction blockTailLength? cs generalizing length with
  | case1 => cases found
  | case2 c => cases found
  | case3 c d rest closes =>
      cases found
      simp
  | case4 c d rest notClosed inductionHypothesis =>
      obtain ⟨inner, isInner, rfl⟩ := Option.map_eq_some_iff.mp found
      obtain ⟨lower, upper⟩ := inductionHypothesis isInner
      exact ⟨Nat.le_succ_of_le lower, Nat.succ_le_succ upper⟩

/-- A block comment that is closed early enough is closed in a longer text too. -/
theorem blockTailLength?_append
    {cs : List Char}
    {length : Nat}
    (found : blockTailLength? cs = some length)
    (rest : List Char) :
    blockTailLength? (cs ++ rest) = some length := by
  fun_induction blockTailLength? cs generalizing length with
  | case1 => cases found
  | case2 c => cases found
  | case3 c d more closes =>
      rw [← found]
      simp [blockTailLength?, closes]
  | case4 c d more notClosed inductionHypothesis =>
      obtain ⟨inner, isInner, rfl⟩ := Option.map_eq_some_iff.mp found
      have shorter := inductionHypothesis isInner
      rw [cons_append] at shorter
      rw [cons_append, cons_append, blockTailLength?, if_neg notClosed,
        shorter]
      rfl

/-- A block comment that is closed in a longer text is closed where that text has been cut behind
it. -/
theorem blockTailLength?_of_append
    {cs rest : List Char}
    {length : Nat}
    (found : blockTailLength? (cs ++ rest) = some length)
    (fits : length ≤ cs.length) :
    blockTailLength? cs = some length := by
  have lower := (blockTailLength?_bounds found).1
  fun_induction blockTailLength? cs generalizing length with
  | case1 =>
      exact absurd (Nat.le_trans lower fits) (by decide)
  | case2 c =>
      exact absurd (Nat.le_trans lower fits) (by simp)
  | case3 c d more closes =>
      simpa [blockTailLength?, closes] using found
  | case4 c d more notClosed inductionHypothesis =>
      rw [cons_append, cons_append, blockTailLength?, if_neg notClosed,
        ← cons_append] at found
      obtain ⟨inner, isInner, rfl⟩ := Option.map_eq_some_iff.mp found
      rw [inductionHypothesis isInner (Nat.le_of_succ_le_succ fits)
        (blockTailLength?_bounds isInner).1]
      rfl

/-- Whether a text starts with the end of a block comment. -/
theorem isPrefix_blockEnd_iff
    {c d : Char}
    {rest : List Char} :
    ['*', '/'] <+: c :: d :: rest ↔ (c = '*' && d = '/') = true := by
  rw [cons_prefix_cons, cons_prefix_cons, Bool.and_eq_true, decide_eq_true_eq,
    decide_eq_true_eq, eq_comm, eq_comm (a := d)]
  exact and_congr_right fun _ => and_iff_left nil_prefix

/-- The body of a block comment starts like the body with the star of its end. -/
theorem exists_cons_blockBody
    (body rest : List Char) :
    ∃ d more later,
      body ++ ['*'] = d :: more ∧ body ++ '*' :: '/' :: rest = d :: later := by
  cases body with
  | nil => exact ⟨_, _, _, rfl, rfl⟩
  | cons d body => exact ⟨_, _, _, rfl, rfl⟩

/-- A block comment is never closed exactly if no star with a slash behind it follows. -/
theorem blockTailLength?_eq_none_iff
    {cs : List Char} :
    blockTailLength? cs = none ↔ ¬ ['*', '/'] <:+: cs := by
  fun_induction blockTailLength? cs with
  | case1 => simp
  | case2 c => simp [infix_cons_iff]
  | case3 c d rest closes =>
      have here : ['*', '/'] <:+: c :: d :: rest :=
        (isPrefix_blockEnd_iff.mpr closes).isInfix
      simp [here]
  | case4 c d rest notClosed inductionHypothesis =>
      rw [Option.map_eq_none_iff, inductionHypothesis, infix_cons_iff (a := c),
        isPrefix_blockEnd_iff, or_iff_right notClosed]

/-- A block comment goes on to the first star with a slash behind it. -/
theorem blockTailLength?_closed
    {body : List Char}
    (unclosed : ¬ ['*', '/'] <:+: body ++ ['*'])
    (rest : List Char) :
    blockTailLength? (body ++ '*' :: '/' :: rest) = some (body.length + 2) := by
  induction body with
  | nil => rfl
  | cons c body inductionHypothesis =>
      obtain ⟨d, more, later, starts, goesOn⟩ := exists_cons_blockBody body rest
      rw [cons_append, infix_cons_iff, not_or] at unclosed
      have inner := inductionHypothesis unclosed.2
      have notHere : ¬ (c = '*' && d = '/') = true := by
        rw [← isPrefix_blockEnd_iff, ← starts]
        exact unclosed.1
      rw [cons_append, goesOn, blockTailLength?, if_neg notHere, ← goesOn, inner]
      rfl

theorem exists_of_blockTailLength?
    {cs : List Char}
    {length : Nat}
    (found : blockTailLength? cs = some length) :
    ∃ body rest,
      cs = body ++ '*' :: '/' :: rest ∧
        length = body.length + 2 ∧ ¬ ['*', '/'] <:+: body ++ ['*'] := by
  fun_induction blockTailLength? cs generalizing length with
  | case1 => cases found
  | case2 c => cases found
  | case3 c d rest closes =>
      obtain ⟨rfl, rfl⟩ : c = '*' ∧ d = '/' := by simpa using closes
      exact ⟨[], rest, rfl, (Option.some.inj found).symm, by simp [infix_cons_iff]⟩
  | case4 c d rest notClosed inductionHypothesis =>
      obtain ⟨inner, isInner, rfl⟩ := Option.map_eq_some_iff.mp found
      obtain ⟨body, back, shape, rfl, unclosed⟩ := inductionHypothesis isInner
      refine ⟨c :: body, back, by rw [shape, cons_append], rfl, ?_⟩
      obtain ⟨_, more, later, starts, goesOn⟩ := exists_cons_blockBody body back
      obtain ⟨rfl, -⟩ := cons.inj (shape.trans goesOn)
      rw [cons_append, infix_cons_iff, not_or, starts, isPrefix_blockEnd_iff, ← starts]
      exact ⟨notClosed, unclosed⟩

/-- A comment is two hyphens up to the end of the line, or a block comment. -/
theorem commentLength?_cases
    {cs : List Char}
    {length : Nat}
    (found : commentLength? cs = some length) :
    (∃ rest, cs = '-' :: '-' :: rest ∧
      length = 2 + (rest.takeWhile (· ≠ '\n')).length) ∨
    (∃ rest inner, cs = '/' :: '*' :: rest ∧
      blockTailLength? rest = some inner ∧ length = inner + 2) := by
  unfold commentLength? at found
  split at found
  · rename_i rest
    exact Or.inl ⟨rest, rfl, (Option.some.inj found).symm⟩
  · rename_i rest
    obtain ⟨inner, isInner, rfl⟩ := Option.map_eq_some_iff.mp found
    exact Or.inr ⟨rest, inner, rfl, isInner, rfl⟩
  · cases found

theorem commentLength?_bounds
    {cs : List Char}
    {length : Nat}
    (found : commentLength? cs = some length) :
    2 ≤ length ∧ length ≤ cs.length := by
  rcases commentLength?_cases found with
    ⟨rest, rfl, rfl⟩ | ⟨rest, inner, rfl, isInner, rfl⟩
  · have shorter :
        (rest.takeWhile (· ≠ '\n')).length ≤ rest.length :=
      (takeWhile_sublist _).length_le
    simp only [length_cons]
    omega
  · have bounds := blockTailLength?_bounds isInner
    simp only [length_cons]
    omega

/-- Where no comment starts in a longer text, none starts in its front. -/
theorem commentLength?_of_append_none
    {cs rest : List Char}
    (notFound : commentLength? (cs ++ rest) = none) :
    commentLength? cs = none := by
  cases found : commentLength? cs with
  | none =>
      rfl
  | some length =>
      rcases commentLength?_cases found with
        ⟨more, rfl, _⟩ | ⟨more, inner, rfl, isInner, _⟩
      · cases notFound
      · have longer := blockTailLength?_append isInner rest
        simp [commentLength?, longer] at notFound

/-- A comment of a longer text is the same comment of a front that holds it. -/
theorem commentLength?_of_append
    {cs rest : List Char}
    {length : Nat}
    (found : commentLength? (cs ++ rest) = some length)
    (fits : length ≤ cs.length) :
    commentLength? cs = some length := by
  have lower := (commentLength?_bounds found).1
  match cs with
  | [] =>
      exact absurd (Nat.le_trans lower fits) (by decide)
  | [c] =>
      exact absurd (Nat.le_trans lower fits) (by simp)
  | c :: d :: more =>
      rcases commentLength?_cases found with
        ⟨_, shape, isLength⟩ | ⟨_, inner, shape, isInner, isLength⟩
      · simp only [cons_append, cons.injEq] at shape
        obtain ⟨rfl, rfl, rfl⟩ := shape
        have sameLine :
            ((more ++ rest).takeWhile (· ≠ '\n')).length =
              (more.takeWhile (· ≠ '\n')).length := by
          rw [takeWhile_append]
          split
          · rename_i whole
            rw [takeWhile_append, if_pos whole, length_append] at isLength
            rw [length_append, whole]
            simp only [length_cons] at fits
            omega
          · rfl
        rw [commentLength?, isLength, sameLine]
      · simp only [cons_append, cons.injEq] at shape
        obtain ⟨rfl, rfl, rfl⟩ := shape
        have shorter : inner ≤ more.length := by
          simp only [length_cons] at fits
          omega
        rw [commentLength?, blockTailLength?_of_append isInner shorter,
          isLength]
        rfl

end QueryGateway.Sql
