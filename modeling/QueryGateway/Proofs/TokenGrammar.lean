import QueryGateway.Proofs.LexemeSeams
import QueryGateway.Proofs.TokenPatterns

/-!
# The grammar of quoted tokens and comments

Between two marks stand characters that are no mark, and, as a dialect has it,
doubled marks and characters behind a backslash.  A comment goes on to the end
of its line, or up to the first end of a block.

The scan goes through a text once, and takes back the last doubled mark if the
token is not closed further on.  `Measures` says what this comes to: of all the
fronts of a text that are tokens by the grammar, the length of the longest is
found, and none only if there is no such front.
-/

namespace QueryGateway.Sql

open List

/-! ## Longest fronts -/

/-- A front of a text that is of some kind, and the longest one. -/
structure IsLongest (isKind : List Char → Prop) (front text : List Char) : Prop where
  ofKind : isKind front
  isFront : front <+: text
  longest : ∀ other, isKind other → other <+: text → other.length ≤ front.length

/-- There is one longest front. -/
theorem IsLongest.unique
    {isKind : List Char → Prop}
    {front other text : List Char}
    (isLongest : IsLongest isKind front text)
    (otherIsLongest : IsLongest isKind other text) :
    front = other := by
  have shorter := otherIsLongest.longest front isLongest.ofKind isLongest.isFront
  have longer := isLongest.longest other otherIsLongest.ofKind otherIsLongest.isFront
  have sameLength : front.length = other.length := Nat.le_antisymm shorter longer
  rw [prefix_iff_eq_take.mp isLongest.isFront, sameLength,
    ← prefix_iff_eq_take.mp otherIsLongest.isFront]

/-- A length is found exactly where a text has a front of a kind, and a front of this length is of
the kind and no shorter than any other. -/
structure Measures (isKind : List Char → Prop) (length? : List Char → Option Nat) : Prop where
  sound :
    ∀ {text length}, length? text = some length →
      length ≤ text.length ∧ isKind (text.take length)
  complete :
    ∀ {front}, isKind front → ∀ rest,
      ∃ length, length? (front ++ rest) = some length ∧ front.length ≤ length

namespace Measures

variable {isKind : List Char → Prop} {length? : List Char → Option Nat} {text : List Char}

/-- A front of the length that is found is the longest. -/
theorem isLongest_take
    (measures : Measures isKind length?)
    {length : Nat}
    (found : length? text = some length) :
    IsLongest isKind (text.take length) text where
  ofKind := (measures.sound found).2
  isFront := List.take_prefix length text
  longest := by
    rintro other ofKind ⟨rest, rfl⟩
    obtain ⟨length', found', fits⟩ := measures.complete ofKind rest
    obtain rfl : length = length' := Option.some.inj (found.symm.trans found')
    rwa [length_take, Nat.min_eq_left (measures.sound found).1]

/-- The longest front is the one that is found. -/
theorem map_take_eq_some_iff
    (measures : Measures isKind length?)
    {front : List Char} :
    (length? text).map text.take = some front ↔ IsLongest isKind front text := by
  constructor
  · intro isFront
    obtain ⟨length, found, rfl⟩ := Option.map_eq_some_iff.mp isFront
    exact measures.isLongest_take found
  · intro isLongest
    obtain ⟨rest, isText⟩ := isLongest.isFront
    obtain ⟨length, found, _⟩ := measures.complete isLongest.ofKind rest
    rw [isText] at found
    rw [found, Option.map_some,
      (measures.isLongest_take found).unique isLongest]

/-- Nothing is found exactly where no front is of the kind. -/
theorem eq_none_iff
    (measures : Measures isKind length?) :
    length? text = none ↔ ∀ front, front <+: text → ¬ isKind front := by
  constructor
  · rintro notFound front ⟨rest, rfl⟩ ofKind
    obtain ⟨length, found, _⟩ := measures.complete ofKind rest
    rw [notFound] at found
    cases found
  · intro noFront
    cases found : length? text with
    | none =>
        rfl
    | some length =>
        exact (noFront _ (List.take_prefix length text) (measures.sound found).2).elim

end Measures

/-! ## Quoted tokens -/

/-- What may stand between two marks.  A mark stands there only doubled or behind a backslash, and
where backslashes escape, none stands there without the character behind it. -/
inductive IsInterior (mark : Char) (doubles escapes : Bool) : List Char → Prop where
  | nil :
      IsInterior mark doubles escapes []
  | plain {c : Char} {rest : List Char} :
      c ≠ mark →
      (escapes = true → c ≠ '\\') →
      IsInterior mark doubles escapes rest →
      IsInterior mark doubles escapes (c :: rest)
  | doubled {rest : List Char} :
      doubles = true →
      IsInterior mark doubles escapes rest →
      IsInterior mark doubles escapes (mark :: mark :: rest)
  | escaped {c : Char} {rest : List Char} :
      escapes = true →
      IsInterior mark doubles escapes rest →
      IsInterior mark doubles escapes ('\\' :: c :: rest)

/-- An interior between two marks. -/
def IsEnclosed (mark : Char) (doubles escapes : Bool) (token : List Char) : Prop :=
  ∃ interior, IsInterior mark doubles escapes interior ∧ token = mark :: (interior ++ [mark])

/-- The quoted tokens of a dialect.  PostgreSQL doubles marks and has no escapes; ClickHouse has
escapes in all tokens and doubles the marks of texts. -/
def Dialect.IsQuotedToken : Dialect → List Char → Prop
  | .postgres, token =>
      IsEnclosed '\'' true false token ∨ IsEnclosed '"' true false token
  | .clickHouse _, token =>
      IsEnclosed '\'' true true token ∨
        IsEnclosed '\x60' false true token ∨ IsEnclosed '"' false true token

namespace QuoteStyle

variable {style : QuoteStyle}

/-- A tail that is found is an interior with its mark behind it. -/
theorem exists_of_tailLength?
    {cs : List Char}
    {length : Nat}
    (found : style.tailLength? cs = some length) :
    ∃ interior, IsInterior style.mark style.doubles style.backslash interior ∧
      cs.take length = interior ++ [style.mark] := by
  fun_induction tailLength? style cs generalizing length with
  | case1 | case6 => cases found
  | case2 | case4 | case5 =>
      cases found
      exact ⟨[], .nil, rfl⟩
  | case3 d rest doubled inner isInner inductionHypothesis =>
      cases found
      obtain ⟨doubles, rfl⟩ : style.doubles = true ∧ d = style.mark := by
        simpa using doubled
      obtain ⟨interior, isInterior, taken⟩ := inductionHypothesis isInner
      refine ⟨_, .doubled doubles isInterior, ?_⟩
      rw [take_succ_cons, take_succ_cons, taken]
      rfl
  | case7 c notMark escape d rest inductionHypothesis =>
      obtain ⟨inner, isInner, rfl⟩ := Option.map_eq_some_iff.mp found
      obtain ⟨escapes, rfl⟩ : style.backslash = true ∧ c = '\\' := by
        simpa using escape
      obtain ⟨interior, isInterior, taken⟩ := inductionHypothesis isInner
      refine ⟨_, .escaped (c := d) escapes isInterior, ?_⟩
      rw [take_succ_cons, take_succ_cons, taken]
      rfl
  | case8 c rest notMark plain inductionHypothesis =>
      obtain ⟨inner, isInner, rfl⟩ := Option.map_eq_some_iff.mp found
      obtain ⟨interior, isInterior, taken⟩ := inductionHypothesis isInner
      have startsNoEscape : style.backslash = true → c ≠ '\\' := by
        simpa using plain
      refine ⟨_, .plain notMark startsNoEscape isInterior, ?_⟩
      rw [take_succ_cons, taken]
      rfl

/-- A mark closes a token, here or further on. -/
theorem exists_tailLength?_mark
    (style : QuoteStyle)
    (rest : List Char) :
    ∃ length, style.tailLength? (style.mark :: rest) = some length ∧ 1 ≤ length := by
  cases rest with
  | nil =>
      exact ⟨1, by simp [tailLength?], Nat.le_refl 1⟩
  | cons next rest =>
      simp only [tailLength?, ↓reduceIte]
      split
      · split
        · exact ⟨_, rfl, Nat.le_add_left 1 _⟩
        · exact ⟨1, rfl, Nat.le_refl 1⟩
      · exact ⟨1, rfl, Nat.le_refl 1⟩

/-- Behind an interior and a mark a tail is found, and it is no shorter than these. -/
theorem exists_tailLength?_interior
    (notBackslash : style.backslash = true → style.mark ≠ '\\')
    {interior : List Char}
    (isInterior : IsInterior style.mark style.doubles style.backslash interior)
    (rest : List Char) :
    ∃ length, style.tailLength? (interior ++ style.mark :: rest) = some length ∧
      interior.length + 1 ≤ length := by
  induction isInterior with
  | nil =>
      exact exists_tailLength?_mark style rest
  | plain notMark startsNoEscape _ inductionHypothesis =>
      obtain ⟨length, found, fits⟩ := inductionHypothesis
      refine ⟨length + 1, ?_, Nat.succ_le_succ fits⟩
      rw [cons_append, tailLength?_cons notMark (by simpa using startsNoEscape), found]
      rfl
  | doubled doubles _ inductionHypothesis =>
      obtain ⟨length, found, fits⟩ := inductionHypothesis
      refine ⟨length + 2, ?_, Nat.add_le_add_right fits 2⟩
      simp [tailLength?, doubles, found]
  | escaped escapes _ inductionHypothesis =>
      obtain ⟨length, found, fits⟩ := inductionHypothesis
      refine ⟨length + 2, ?_, Nat.add_le_add_right fits 2⟩
      simp [tailLength?, escapes, (notBackslash escapes).symm, found]

end QuoteStyle

namespace Dialect

/-- The quoted tokens of a dialect are those of its styles. -/
theorem isQuotedToken_iff
    (dialect : Dialect)
    (token : List Char) :
    dialect.IsQuotedToken token ↔
      ∃ style ∈ dialect.styles,
        IsEnclosed style.mark style.doubles style.backslash token := by
  cases dialect <;>
    simp [IsQuotedToken, styles, textStyle, identifierStyle]

/-- The styles of a dialect are told apart by their marks. -/
theorem styleOf?_of_mem
    {dialect : Dialect}
    {style : QuoteStyle}
    (member : style ∈ dialect.styles) :
    dialect.styleOf? style.mark = some style := by
  cases dialect <;> simp only [styles, mem_cons, not_mem_nil, or_false] at member
  · rcases member with rfl | rfl <;> rfl
  · rcases member with rfl | rfl | rfl <;> rfl

/-- The marks of all dialects. -/
theorem mark_of_mem
    {dialect : Dialect}
    {style : QuoteStyle}
    (member : style ∈ dialect.styles) :
    style.mark ∈ ['\'', '"', '\x60'] := by
  cases dialect <;> simp only [styles, mem_cons, not_mem_nil, or_false] at member
  · rcases member with rfl | rfl <;> simp [textStyle, identifierStyle]
  · rcases member with rfl | rfl | rfl <;> simp [textStyle, identifierStyle]

/-- The scan measures the quoted tokens of its dialect. -/
theorem measures_quotedLength?
    (dialect : Dialect) :
    Measures dialect.IsQuotedToken (Lexeme.quotedLength? dialect) where
  sound := by
    intro text length found
    obtain ⟨style, rest, inner, rfl, isMark, isInner, rfl⟩ :=
      Lexeme.quotedLength?_cases found
    obtain ⟨interior, isInterior, taken⟩ := QuoteStyle.exists_of_tailLength? isInner
    refine ⟨Nat.succ_le_succ (QuoteStyle.tailLength?_le isInner), ?_⟩
    rw [isQuotedToken_iff, take_succ_cons, taken]
    exact ⟨style, mem_of_find?_eq_some isMark, interior, isInterior, rfl⟩
  complete := by
    intro token isToken rest
    obtain ⟨style, member, interior, isInterior, rfl⟩ :=
      (dialect.isQuotedToken_iff token).mp isToken
    have notBackslash : style.mark ≠ '\\' := fun isBackslash =>
      absurd (isBackslash ▸ mark_of_mem member) (by decide)
    obtain ⟨length, found, fits⟩ :=
      QuoteStyle.exists_tailLength?_interior (fun _ => notBackslash) isInterior rest
    refine ⟨length + 1, ?_, by simpa using fits⟩
    rw [cons_append, append_assoc, singleton_append,
      (Lexeme.quotedLength?_cons (styleOf?_of_mem member) _).2, found]
    rfl

/-- With backtracking, the pattern of a dialect matches the longest quoted token at the front of a
text. -/
theorem matched?_eq_some_iff
    {dialect : Dialect}
    {text token : List Char} :
    dialect.quotedTokenPattern.matched? text = some token ↔
      IsLongest dialect.IsQuotedToken token text := by
  rw [matched?_quotedTokenPattern]
  exact dialect.measures_quotedLength?.map_take_eq_some_iff

end Dialect

/-! ## Comments -/

/-- Two hyphens and more of the same line. -/
def IsLineComment (comment : List Char) : Prop :=
  ∃ line, '\n' ∉ line ∧ comment = '-' :: '-' :: line

/-- A slash and a star, up to the first star and slash behind them. -/
def IsBlockComment (comment : List Char) : Prop :=
  ∃ body, ¬ ['*', '/'] <:+: body ++ ['*'] ∧
    comment = '/' :: '*' :: (body ++ ['*', '/'])

/-- A comment of either kind. -/
def IsComment (comment : List Char) : Prop :=
  IsLineComment comment ∨ IsBlockComment comment

/-- Characters of a kind at the front of a text are in its longest front of that kind. -/
theorem length_le_takeWhile
    {isKind : Char → Bool}
    {front : List Char}
    (ofKind : ∀ c ∈ front, isKind c = true)
    (rest : List Char) :
    front.length ≤ ((front ++ rest).takeWhile isKind).length := by
  rw [takeWhile_append_of_pos ofKind, length_append]
  exact Nat.le_add_right _ _

/-- The scan measures comments. -/
theorem measures_commentLength? :
    Measures IsComment commentLength? where
  sound := by
    intro text length found
    refine ⟨(commentLength?_bounds found).2, ?_⟩
    rcases commentLength?_cases found with
      ⟨rest, rfl, rfl⟩ | ⟨rest, inner, rfl, isInner, rfl⟩
    · refine Or.inl ⟨rest.takeWhile (· ≠ '\n'), fun member => ?_, ?_⟩
      · simpa using all_eq_true.mp all_takeWhile _ member
      · rw [Nat.add_comm, take_succ_cons, take_succ_cons,
          ← prefix_iff_eq_take.mp (List.takeWhile_prefix _)]
    · obtain ⟨body, back, rfl, rfl, unclosed⟩ := exists_of_blockTailLength? isInner
      refine Or.inr ⟨body, unclosed, ?_⟩
      rw [take_succ_cons, take_succ_cons, take_length_add_append]
      rfl
  complete := by
    rintro comment (⟨line, onLine, rfl⟩ | ⟨body, unclosed, rfl⟩) rest
    · refine ⟨_, rfl, ?_⟩
      have notEnd : ∀ c ∈ line, decide (c ≠ '\n') = true := by
        rintro c member
        refine decide_eq_true fun isEnd => onLine ?_
        rwa [← isEnd]
      have fits := length_le_takeWhile notEnd rest
      rw [length_cons, length_cons, Nat.add_comm 2]
      exact Nat.add_le_add_right fits 2
    · refine ⟨body.length + 2 + 2, ?_, by simp⟩
      rw [cons_append, cons_append, append_assoc, commentLength?]
      exact congrArg (Option.map (· + 2)) (blockTailLength?_closed unclosed rest)

/-- A token or a comment starts with a character that is neither a colon nor part of a name. -/
theorem head_of_skipped
    (dialect : Dialect)
    {front : List Char}
    (skipped : dialect.IsQuotedToken front ∨ IsComment front) :
    ∃ c rest, front = c :: rest ∧ c ≠ ':' ∧ isNameChar c = false := by
  rcases skipped with isToken | ⟨line, _, rfl⟩ | ⟨body, _, rfl⟩
  · obtain ⟨style, member, interior, _, rfl⟩ := (dialect.isQuotedToken_iff front).mp isToken
    refine ⟨style.mark, _, rfl, ?_⟩
    have isMark := Dialect.mark_of_mem member
    simp only [mem_cons, not_mem_nil, or_false] at isMark
    rcases isMark with isMark | isMark | isMark <;>
      rw [isMark] <;>
      exact ⟨by decide, by decide⟩
  · exact ⟨'-', _, rfl, by decide, by decide⟩
  · exact ⟨'/', _, rfl, by decide, by decide⟩

/-- No front is both a quoted token and a comment, nor do the two start alike. -/
theorem head_ne_of_quotedToken_of_comment
    {dialect : Dialect}
    {c : Char}
    {rest rest' : List Char}
    (isToken : dialect.IsQuotedToken (c :: rest)) :
    ¬ IsComment (c :: rest') := by
  obtain ⟨style, member, interior, _, shape⟩ := (dialect.isQuotedToken_iff _).mp isToken
  have isMark : c ∈ ['\'', '"', '\x60'] := by
    rw [(cons.inj shape).1]
    exact Dialect.mark_of_mem member
  rintro (⟨line, _, isLine⟩ | ⟨body, _, isBlock⟩)
  · exact absurd ((cons.inj isLine).1 ▸ isMark) (by decide)
  · exact absurd ((cons.inj isBlock).1 ▸ isMark) (by decide)

/-! ## Names -/

/-- What is read as a name is the longest one there. -/
theorem isLongest_nameAtFront
    {text : List Char}
    (nonempty : nameAtFront text ≠ []) :
    IsLongest (isName · = true) (nameAtFront text) text := by
  cases text with
  | nil =>
      exact absurd rfl nonempty
  | cons c rest =>
      rw [nameAtFront] at nonempty ⊢
      split at nonempty
      · rename_i starts
        rw [if_pos starts]
        refine ⟨?_, ?_, ?_⟩
        · rw [isName, starts, Bool.true_and]
          exact all_takeWhile
        · exact (prefix_cons_inj c).mpr (List.takeWhile_prefix _)
        · rintro other valid ⟨more, isText⟩
          cases other with
          | nil =>
              cases valid
          | cons d other =>
              obtain ⟨rfl, rfl⟩ := cons.inj isText
              simp only [isName, Bool.and_eq_true, all_eq_true] at valid
              exact Nat.succ_le_succ (length_le_takeWhile valid.2 more)
      · exact absurd rfl nonempty

/-- Where a text starts with a name, some name is read. -/
theorem nameAtFront_append_ne_nil
    {name : List Char}
    (valid : isName name = true)
    (rest : List Char) :
    nameAtFront (name ++ rest) ≠ [] := by
  cases name with
  | nil =>
      cases valid
  | cons c name =>
      simp only [isName, Bool.and_eq_true] at valid
      simp [nameAtFront, valid.1]

/-- A name at the front of a text is part of the longest one there. -/
theorem isLongest_nameAtFront_iff
    {text name : List Char} :
    IsLongest (isName · = true) name text ↔ name = nameAtFront text ∧ name ≠ [] := by
  constructor
  · intro isLongest
    have nonempty : name ≠ [] := by
      rintro rfl
      exact absurd isLongest.ofKind (by decide)
    have found : nameAtFront text ≠ [] := by
      obtain ⟨rest, rfl⟩ := isLongest.isFront
      exact nameAtFront_append_ne_nil isLongest.ofKind rest
    exact ⟨isLongest.unique (isLongest_nameAtFront found), nonempty⟩
  · rintro ⟨rfl, nonempty⟩
    exact isLongest_nameAtFront nonempty

end QueryGateway.Sql
