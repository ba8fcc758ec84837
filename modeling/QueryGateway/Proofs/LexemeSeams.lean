import QueryGateway.Proofs.Comments
import QueryGateway.Proofs.TidyPieces

/-!
# Lexemes side by side

What the scan reads at the front of a text depends on little of what comes
after it: on the next character, and on whether a quote or a block comment is
closed at all.  So a statement in which nothing is left open is read lexeme by
lexeme, each of them fitting between the character before it and the one after
it (`Legible`), and lexemes that fit are read back.

Two lexemes that were read never are two hyphens, and never two quoted tokens
whose mark stands for itself when it is doubled: these run together
(`runTogether`).
-/

namespace QueryGateway.Sql

open List

/-! ## Tokens up to a seam -/

namespace QuoteStyle

variable {style : QuoteStyle}

/-- The length of a tail counts characters of the text. -/
theorem tailLength?_le
    {cs : List Char}
    {length : Nat}
    (found : style.tailLength? cs = some length) :
    length ≤ cs.length := by
  fun_induction tailLength? style cs generalizing length with
  | case1 => cases found
  | case2 => cases found; simp
  | case3 d rest doubled inner isInner inductionHypothesis =>
      cases found
      exact Nat.add_le_add_right (inductionHypothesis isInner) 2
  | case4 | case5 => cases found; simp
  | case6 => cases found
  | case7 c notMark escapes d rest inductionHypothesis =>
      obtain ⟨inner, isInner, rfl⟩ := Option.map_eq_some_iff.mp found
      exact Nat.add_le_add_right (inductionHypothesis isInner) 2
  | case8 c rest notMark plain inductionHypothesis =>
      obtain ⟨inner, isInner, rfl⟩ := Option.map_eq_some_iff.mp found
      exact Nat.add_le_add_right (inductionHypothesis isInner) 1

/-- A tail is the whole tail of the text that it makes up. -/
theorem tailLength?_take
    {cs : List Char}
    {length : Nat}
    (found : style.tailLength? cs = some length) :
    style.tailLength? (cs.take length) = some length := by
  fun_induction tailLength? style cs generalizing length with
  | case1 => cases found
  | case2 => cases found; simp [tailLength?]
  | case3 d rest doubled inner isInner inductionHypothesis =>
      cases found
      simp [tailLength?, doubled, inductionHypothesis isInner]
  | case4 | case5 => cases found; simp [tailLength?]
  | case6 => cases found
  | case7 c notMark escapes d rest inductionHypothesis =>
      obtain ⟨inner, isInner, rfl⟩ := Option.map_eq_some_iff.mp found
      simp [tailLength?, notMark, escapes, inductionHypothesis isInner]
  | case8 c rest notMark plain inductionHypothesis =>
      obtain ⟨inner, isInner, rfl⟩ := Option.map_eq_some_iff.mp found
      simp [tailLength?_cons notMark (by simpa using plain),
        inductionHypothesis isInner]

/-- A mark that is not followed by another one closes a token. -/
theorem tailLength?_mark
    {rest : List Char}
    (separated : style.doubles = true → rest.head? ≠ some style.mark) :
    style.tailLength? (style.mark :: rest) = some 1 := by
  cases rest with
  | nil =>
      simp [tailLength?]
  | cons next rest =>
      have single : (style.doubles && decide (next = style.mark)) = false := by
        cases doubles : style.doubles with
        | false =>
            rfl
        | true =>
            simpa using separated doubles
      simp [tailLength?, single]

/-- Behind a tail that is closed where it ends, its last mark decides how far the token goes. -/
theorem tailLength?_append
    {tail rest : List Char}
    {more : Nat}
    (closed : style.tailLength? tail = some tail.length)
    (atMark : style.tailLength? (style.mark :: rest) = some (more + 1)) :
    style.tailLength? (tail ++ rest) = some (tail.length + more) := by
  fun_induction tailLength? style tail with
  | case1 => cases closed
  | case2 => simpa [Nat.add_comm] using atMark
  | case3 d inside doubled inner isInner inductionHypothesis =>
      have innerClosed : inner = inside.length := by simpa using closed
      simp only [cons_append, tailLength?, ↓reduceIte, doubled,
        inductionHypothesis (innerClosed ▸ isInner), length_cons]
      rw [Nat.add_right_comm]
  | case4 | case5 => simp at closed
  | case6 => cases closed
  | case7 c notMark escapes d inside inductionHypothesis =>
      have insideClosed : style.tailLength? inside = some inside.length := by
        simpa using closed
      simp only [cons_append, tailLength?, notMark, escapes, ↓reduceIte,
        inductionHypothesis insideClosed, Option.map_some, length_cons]
      rw [Nat.add_right_comm]
  | case8 c inside notMark plain inductionHypothesis =>
      have insideClosed : style.tailLength? inside = some inside.length := by
        simpa using closed
      rw [cons_append, tailLength?_cons notMark (by simpa using plain),
        inductionHypothesis insideClosed, Option.map_some, length_cons,
        Nat.add_right_comm]

/-- A tail that is closed where it ends, ends with its mark. -/
theorem getLast?_of_closed
    {tail : List Char}
    (closed : style.tailLength? tail = some tail.length) :
    tail.getLast? = some style.mark := by
  fun_induction tailLength? style tail with
  | case1 => cases closed
  | case2 => rfl
  | case3 d inside doubled inner isInner inductionHypothesis =>
      have innerClosed : inner = inside.length := by simpa using closed
      rw [getLast?_cons, getLast?_cons,
        inductionHypothesis (innerClosed ▸ isInner)]
      rfl
  | case4 | case5 => simp at closed
  | case6 => cases closed
  | case7 c notMark escapes d inside inductionHypothesis =>
      have insideClosed : style.tailLength? inside = some inside.length := by
        simpa using closed
      rw [getLast?_cons, getLast?_cons, inductionHypothesis insideClosed]
      rfl
  | case8 c inside notMark plain inductionHypothesis =>
      have insideClosed : style.tailLength? inside = some inside.length := by
        simpa using closed
      rw [getLast?_cons, inductionHypothesis insideClosed]
      rfl

end QuoteStyle

namespace Lexeme

variable {dialect : Dialect}

theorem quotedLength?_cons
    {style : QuoteStyle}
    {c : Char}
    (isMark : dialect.styleOf? c = some style)
    (rest : List Char) :
    style.mark = c ∧
      quotedLength? dialect (c :: rest) = (style.tailLength? rest).map (· + 1) := by
  have sameMark : style.mark = c := by
    simpa using find?_some isMark
  refine ⟨sameMark, ?_⟩
  simp [quotedLength?, isMark, QuoteStyle.tokenLength?, sameMark]

/-- A quoted token starts with the mark of a style and is closed where it ends. -/
theorem quotedLength?_cases
    {cs : List Char}
    {length : Nat}
    (found : quotedLength? dialect cs = some length) :
    ∃ style rest inner,
      cs = style.mark :: rest ∧ dialect.styleOf? style.mark = some style ∧
      style.tailLength? rest = some inner ∧ length = inner + 1 := by
  cases cs with
  | nil =>
      cases found
  | cons c rest =>
      cases isMark : dialect.styleOf? c with
      | none =>
          simp [quotedLength?, isMark] at found
      | some style =>
          obtain ⟨rfl, isLength⟩ := quotedLength?_cons isMark rest
          rw [isLength] at found
          obtain ⟨inner, isInner, rfl⟩ := Option.map_eq_some_iff.mp found
          exact ⟨style, rest, inner, rfl, isMark, isInner, rfl⟩

/-! ## What is read at the front of a text -/

/-- The four ways to read the front of a text. -/
inductive Front
    (dialect : Dialect)
    (previous : Option Char)
    (c : Char)
    (rest : List Char) :
    Lexeme → Prop where
  | quoted {length : Nat} :
      quotedLength? dialect (c :: rest) = some length →
      Front dialect previous c rest (.quoted ((c :: rest).take length))
  | comment {length : Nat} :
      quotedLength? dialect (c :: rest) = none →
      commentLength? (c :: rest) = some length →
      Front dialect previous c rest (.comment ((c :: rest).take length))
  | placeholder :
      c = ':' → previous ≠ some ':' → nameAtFront rest ≠ [] →
      Front dialect previous c rest (.placeholder (nameAtFront rest))
  | character :
      quotedLength? dialect (c :: rest) = none →
      commentLength? (c :: rest) = none →
      (c = ':' → previous ≠ some ':' → nameAtFront rest = []) →
      Front dialect previous c rest (.character c)

theorem front_first
    (dialect : Dialect)
    (previous : Option Char)
    (c : Char)
    (rest : List Char) :
    Front dialect previous c rest (first dialect previous c rest) := by
  unfold first
  split
  · rename_i length found
    exact .quoted found
  · rename_i notQuoted
    split
    · rename_i length found
      exact .comment notQuoted found
    · rename_i noComment
      dsimp only
      split
      · rename_i named
        simp only [Bool.and_eq_true, decide_eq_true_eq, Bool.not_eq_true',
          isEmpty_eq_false_iff] at named
        exact .placeholder named.1.1 named.1.2 named.2
      · rename_i unnamed
        refine .character notQuoted noComment fun isColon notAfterColon => ?_
        simpa [isColon, notAfterColon] using unnamed

/-- A mark starts a closed token, or it is read as a character. -/
theorem first_of_mark
    {style : QuoteStyle}
    {c : Char}
    (isMark : dialect.styleOf? c = some style)
    (previous : Option Char)
    (rest : List Char) :
    (∃ length, style.tailLength? rest = some length) ∨
      first dialect previous c rest = .character c := by
  have notBare : isBareChar c = true → False := by
    intro bare
    rw [dialect.styleOf?_bareChar bare] at isMark
    cases isMark
  have front := front_first dialect previous c rest
  generalize first dialect previous c rest = lexeme at front ⊢
  cases front with
  | quoted found =>
      rw [(quotedLength?_cons isMark rest).2] at found
      obtain ⟨length, isLength, _⟩ := Option.map_eq_some_iff.mp found
      exact Or.inl ⟨length, isLength⟩
  | comment _ found =>
      rcases commentLength?_cases found with ⟨_, shape, _⟩ | ⟨_, _, shape, _⟩
      · cases shape
        exact (notBare (by decide)).elim
      · cases shape
        exact (notBare (by decide)).elim
  | placeholder isColon =>
      subst isColon
      have noStyle : dialect.styleOf? ':' = none := by
        cases dialect <;> rfl
      simp [noStyle] at isMark
  | character =>
      exact Or.inr rfl

/-- A token between marks that stand for themselves when they are doubled is not read up to such a
mark if a token starts there. -/
theorem first_ne_quoted
    {style : QuoteStyle}
    (isMark : dialect.styleOf? style.mark = some style)
    (doubles : style.doubles = true)
    {rest : List Char}
    {length : Nat}
    (closed : style.tailLength? rest = some length)
    (previous : Option Char)
    (body : List Char) :
    first dialect previous style.mark (body ++ style.mark :: rest) ≠
      .quoted (style.mark :: body) := by
  intro isQuoted
  have front :=
    front_first dialect previous style.mark (body ++ style.mark :: rest)
  rw [isQuoted] at front
  generalize shape : Lexeme.quoted (style.mark :: body) = lexeme at front
  cases front with
  | comment | placeholder | character => cases shape
  | quoted found =>
      rw [(quotedLength?_cons isMark _).2] at found
      obtain ⟨inner, isInner, rfl⟩ := Option.map_eq_some_iff.mp found
      rw [take_succ_cons] at shape
      simp only [Lexeme.quoted.injEq, cons.injEq, true_and] at shape
      have bodyLength : body.length = inner := by
        rw [shape, length_take,
          Nat.min_eq_left (QuoteStyle.tailLength?_le isInner)]
      have bodyClosed : style.tailLength? body = some body.length := by
        rw [bodyLength]
        conv_lhs => rw [shape]
        exact QuoteStyle.tailLength?_take isInner
      have goesOn :
          style.tailLength? (style.mark :: style.mark :: rest) =
            some (length + 1 + 1) := by
        simp [QuoteStyle.tailLength?, doubles, closed]
      have longer := QuoteStyle.tailLength?_append bodyClosed goesOn
      rw [isInner] at longer
      simp only [Option.some.injEq] at longer
      omega

/-! ## Lexemes that fit -/

/-- A lexeme that is the whole of what is read from it. -/
def IsComplete (dialect : Dialect) : Lexeme → Prop
  | .quoted token => quotedLength? dialect token = some token.length
  | .comment text => commentLength? text = some text.length
  | .placeholder name => isName name = true
  | .character c => dialect.styleOf? c = none

/-- A lexeme that ends before the next character: a mark is not doubled, a line comment ends with
its line, a name is not longer, no comment opens and no name starts.  A colon behind a colon starts
no name. -/
def Fits (dialect : Dialect) (previous next : Option Char) : Lexeme → Prop
  | .quoted token =>
      ∀ style, token.head?.bind dialect.styleOf? = some style →
        style.doubles = true → next ≠ some style.mark
  | .comment text => text.head? = some '-' → ∀ d ∈ next, d = '\n'
  | .placeholder _ => previous ≠ some ':' ∧ ∀ d ∈ next, isNameChar d = false
  | .character c =>
      (∀ d ∈ next, opensComment c d = false) ∧
        (c = ':' → previous = some ':' ∨ ∀ d ∈ next, isNameStart d = false)

/-- Lexemes that are complete and fit where they stand. -/
def Legible (dialect : Dialect) : Option Char → List Lexeme → Prop
  | _, [] => True
  | previous, lexeme :: rest =>
      lexeme.IsComplete dialect ∧
        lexeme.Fits dialect previous (concat rest).head? ∧
          Legible dialect lexeme.chars.getLast? rest

/-- Whether a lexeme is a mark that was read as a character. -/
def isMark (dialect : Dialect) : Lexeme → Bool
  | .character c => (dialect.styleOf? c).isSome
  | _ => false

/-- Lexemes among which no quote and no block comment is left open. -/
structure NothingOpen (dialect : Dialect) (lexemes : List Lexeme) : Prop where
  noMark : ∀ c, .character c ∈ lexemes → dialect.styleOf? c = none
  noBlock :
    lexemes.IsChain fun lexeme next =>
      ¬(lexeme = .character '/' ∧ next = .character '*')

instance (lexemes : List Lexeme) : Decidable (NothingOpen dialect lexemes) :=
  decidable_of_iff
    ((∀ lexeme ∈ lexemes, lexeme.isMark dialect = false) ∧
      lexemes.IsChain fun lexeme next =>
        ¬(lexeme = .character '/' ∧ next = .character '*'))
    ⟨fun both => ⟨fun c member => by simpa [isMark] using both.1 _ member, both.2⟩,
      fun nothingOpen => ⟨fun lexeme member => by
        cases lexeme <;> simp_all [isMark, nothingOpen.noMark], nothingOpen.noBlock⟩⟩

theorem IsComplete.chars_ne_nil
    {lexeme : Lexeme}
    (complete : lexeme.IsComplete dialect) :
    lexeme.chars ≠ [] := by
  cases lexeme with
  | quoted token =>
      obtain ⟨_, _, _, shape, _⟩ := quotedLength?_cases complete
      simp [chars, shape]
  | comment text =>
      rcases commentLength?_cases complete with
        ⟨_, shape, _⟩ | ⟨_, _, shape, _⟩ <;>
        simp [chars, shape]
  | placeholder name =>
      simp [chars]
  | character c =>
      simp [chars]

theorem head?_concat_cons
    {lexeme : Lexeme}
    (complete : lexeme.IsComplete dialect)
    (rest : List Lexeme) :
    (concat (lexeme :: rest)).head? = lexeme.chars.head? := by
  obtain ⟨c, body, shape⟩ := exists_cons_of_ne_nil complete.chars_ne_nil
  simp [shape]

/-! ### From the scan to lexemes that fit -/

/-- A list is cut behind its longest front of some kind, and the rest starts otherwise. -/
theorem head?_of_takeWhile_eq
    {p : Char → Bool}
    {front rest : List Char}
    (longest : (front ++ rest).takeWhile p = front) :
    ∀ d ∈ rest.head?, p d = false := by
  intro d isHead
  have restIs : rest = (front ++ rest).dropWhile p := by
    have whole := takeWhile_append_dropWhile (p := p) (l := front ++ rest)
    rw [longest] at whole
    exact (append_cancel_left whole).symm
  have stops := head?_dropWhile_not p (front ++ rest)
  rw [← restIs, isHead] at stops
  exact stops

/-- A token is read up to a mark only if the mark does not open another one. -/
theorem fits_quoted
    {previous : Option Char}
    {c : Char}
    {before after : List Char}
    (isFirst : first dialect previous c (before ++ after) = .quoted (c :: before))
    (noMark :
      ∀ d, .character d ∈ scanFrom dialect 0 (c :: before).getLast? after →
        dialect.styleOf? d = none) :
    (Lexeme.quoted (c :: before)).Fits dialect previous after.head? := by
  intro style isStyle doubles isNext
  have isMark : dialect.styleOf? c = some style := by
    simpa using isStyle
  obtain ⟨rfl, _⟩ := quotedLength?_cons isMark []
  obtain ⟨later, rfl⟩ := head?_eq_some_iff.mp isNext
  rcases first_of_mark isMark (style.mark :: before).getLast? later with
    ⟨length, closed⟩ | isCharacter
  · exact first_ne_quoted isMark doubles closed previous before isFirst
  · have isOpen := noMark style.mark (by simp [scanFrom, isCharacter])
    rw [isMark] at isOpen
    cases isOpen

/-- A line comment is read up to the end of its line. -/
theorem fits_comment
    {c : Char}
    {before after : List Char}
    (found :
      commentLength? (c :: (before ++ after)) = some (c :: before).length)
    (previous : Option Char) :
    (Lexeme.comment (c :: before)).Fits dialect previous after.head? := by
  intro isHyphen d isNext
  rcases commentLength?_cases found with
    ⟨line, shape, isLength⟩ | ⟨_, _, shape, _⟩
  · cases before with
    | nil =>
        simp only [length_cons, length_nil] at isLength
        omega
    | cons second text =>
        simp only [cons_append, cons.injEq] at shape
        obtain ⟨_, _, rfl⟩ := shape
        have whole := takeWhile_append_dropWhile (p := (· ≠ '\n')) (l := text ++ after)
        have sameLength :
            ((text ++ after).takeWhile (· ≠ '\n')).length = text.length := by
          simp only [length_cons] at isLength
          omega
        have longest := (append_inj whole sameLength).1
        simpa using head?_of_takeWhile_eq longest d isNext
  · simp only [cons.injEq] at shape
    obtain ⟨rfl, _⟩ := shape
    simp at isHyphen

/-- A name is read up to where it ends. -/
theorem name_of_nameAtFront
    {name rest : List Char}
    (nonempty : name ≠ [])
    (longest : nameAtFront (name ++ rest) = name) :
    isName name = true ∧ ∀ d ∈ rest.head?, isNameChar d = false := by
  cases name with
  | nil =>
      exact absurd rfl nonempty
  | cons start name =>
      rw [cons_append, nameAtFront] at longest
      split at longest
      · rename_i starts
        have longestTail := (cons.inj longest).2
        refine ⟨?_, head?_of_takeWhile_eq longestTail⟩
        rw [isName, starts, Bool.true_and, ← longestTail]
        exact all_takeWhile
      · cases longest

/-- A character is read as such only where it opens no comment and starts no name. -/
theorem fits_character
    {previous : Option Char}
    {c : Char}
    {after : List Char}
    (noComment : commentLength? (c :: after) = none)
    (noName : c = ':' → previous ≠ some ':' → nameAtFront after = [])
    (noBlock :
      ∀ next ∈ (scanFrom dialect 0 (some c) after).head?,
        ¬(c = '/' ∧ next = .character '*')) :
    (Lexeme.character c).Fits dialect previous after.head? := by
  refine ⟨fun d isNext => ?_, fun isColon => ?_⟩
  · obtain ⟨later, rfl⟩ := head?_eq_some_iff.mp isNext
    by_contra opens
    simp only [opensComment, Bool.not_eq_false, Bool.or_eq_true,
      Bool.and_eq_true, decide_eq_true_eq] at opens
    rcases opens with ⟨rfl, rfl⟩ | ⟨rfl, rfl⟩
    · cases noComment
    · have isStar :
          first dialect (some '/') '*' later = .character '*' :=
        first_bareChar dialect _ (by decide) (by simp [opensComment])
      exact noBlock (.character '*') (by simp [scanFrom, isStar]) ⟨rfl, rfl⟩
  · by_cases afterColon : previous = some ':'
    · exact Or.inl afterColon
    · right
      intro d isNext
      obtain ⟨later, rfl⟩ := head?_eq_some_iff.mp isNext
      have empty := noName isColon afterColon
      rw [nameAtFront] at empty
      split at empty
      · cases empty
      · rename_i noStart
        simpa using noStart

/-- What is read at the front of a text is complete and fits before what is read behind it, unless
something is left open there. -/
theorem fits_of_first
    {previous : Option Char}
    {c : Char}
    {lexeme : Lexeme}
    {before after : List Char}
    (isFirst : first dialect previous c (before ++ after) = lexeme)
    (shape : lexeme.chars = c :: before)
    (nothingOpen :
      NothingOpen dialect
        (lexeme :: scanFrom dialect 0 (c :: before).getLast? after)) :
    lexeme.IsComplete dialect ∧ lexeme.Fits dialect previous after.head? := by
  have front := front_first dialect previous c (before ++ after)
  rw [isFirst] at front
  cases front with
  | @quoted length found =>
      have isToken : (c :: (before ++ after)).take length = c :: before := shape
      rw [isToken] at isFirst ⊢
      refine ⟨?_, fits_quoted isFirst fun d member =>
        nothingOpen.noMark d (mem_cons_of_mem _ member)⟩
      obtain ⟨style, rest, inner, isCons, isMark, isInner, rfl⟩ :=
        quotedLength?_cases found
      obtain ⟨rfl, rfl⟩ := cons.inj isCons
      rw [take_succ_cons] at isToken
      have isTail := (cons.inj isToken).2
      have tailLength : before.length = inner := by
        rw [← isTail, length_take,
          Nat.min_eq_left (QuoteStyle.tailLength?_le isInner)]
      rw [IsComplete, (quotedLength?_cons isMark before).2, length_cons, tailLength]
      conv_lhs => rw [← isTail, QuoteStyle.tailLength?_take isInner]
      rfl
  | @comment length _ found =>
      have isText : (c :: (before ++ after)).take length = c :: before := shape
      have textLength : length = (c :: before).length := by
        rw [← isText, length_take, Nat.min_eq_left (commentLength?_bounds found).2]
      rw [isText]
      rw [textLength] at found
      have complete : commentLength? (c :: before) = some (c :: before).length :=
        commentLength?_of_append found (Nat.le_refl _)
      exact ⟨complete, fits_comment found previous⟩
  | placeholder isColon notAfterColon named =>
      have isName : nameAtFront (before ++ after) = before := (cons.inj shape).2
      rw [isName] at named ⊢
      obtain ⟨valid, ends⟩ := name_of_nameAtFront named isName
      exact ⟨valid, notAfterColon, ends⟩
  | character _ noComment noName =>
      obtain rfl : [] = before := (cons.inj shape).2
      refine ⟨nothingOpen.noMark c mem_cons_self,
        fits_character noComment noName ?_⟩
      intro next isNext opens
      obtain ⟨later, isScan⟩ := head?_eq_some_iff.mp isNext
      have chain := nothingOpen.noBlock
      rw [getLast?_singleton, isScan] at chain
      exact (isChain_cons_cons.mp chain).1 ⟨by rw [opens.1], opens.2⟩

theorem NothingOpen.tail
    {lexeme : Lexeme}
    {rest : List Lexeme}
    (nothingOpen : NothingOpen dialect (lexeme :: rest)) :
    NothingOpen dialect rest where
  noMark c member := nothingOpen.noMark c (mem_cons_of_mem lexeme member)
  noBlock := (isChain_cons.mp nothingOpen.noBlock).2

/-- What a lexeme stands for is read from the front of a text, and the scan goes on behind it. -/
theorem scanFrom_concat_cons
    {previous : Option Char}
    {lexeme : Lexeme}
    {rest : List Lexeme}
    (read : scanFrom dialect 0 previous (concat (lexeme :: rest)) = lexeme :: rest) :
    ∃ c body,
      lexeme.chars = c :: body ∧
      first dialect previous c (body ++ concat rest) = lexeme ∧
      scanFrom dialect 0 lexeme.chars.getLast? (concat rest) = rest := by
  cases text : concat (lexeme :: rest) with
  | nil =>
      rw [text, scanFrom] at read
      cases read
  | cons c cs =>
      obtain ⟨before, after, split, shape, scanned⟩ :=
        scanFrom_cons dialect previous c cs
      rw [text, scanned] at read
      obtain ⟨isFirst, isRest⟩ := cons.inj read
      have isAfter : concat rest = after := by
        rw [← isRest, concat_scanFrom, drop_zero]
      rw [isFirst] at shape
      refine ⟨c, before, shape, ?_, ?_⟩
      · rw [isAfter, ← split]
        exact isFirst
      · rw [shape, isAfter]
        exact isRest

/-- Where nothing is left open, what is read fits where it stands. -/
theorem legible_of_scan
    {previous : Option Char}
    {lexemes : List Lexeme}
    (nothingOpen : NothingOpen dialect lexemes)
    (read : scanFrom dialect 0 previous (concat lexemes) = lexemes) :
    Legible dialect previous lexemes := by
  induction lexemes generalizing previous with
  | nil =>
      trivial
  | cons lexeme rest inductionHypothesis =>
      obtain ⟨c, body, shape, isFirst, restRead⟩ := scanFrom_concat_cons read
      obtain ⟨complete, fits⟩ :=
        fits_of_first isFirst shape (by rwa [← shape, restRead])
      exact ⟨complete, fits, inductionHypothesis nothingOpen.tail restRead⟩

/-! ### From lexemes that fit to the scan -/

/-- A comment that ends before the next character is the comment at the front of a longer text. -/
theorem commentLength?_of_fits
    {previous : Option Char}
    {text rest : List Char}
    (complete : commentLength? text = some text.length)
    (fits : (Lexeme.comment text).Fits dialect previous rest.head?) :
    commentLength? (text ++ rest) = some text.length := by
  rcases commentLength?_cases complete with
    ⟨line, rfl, isLength⟩ | ⟨block, inner, rfl, isInner, isLength⟩
  · have wholeLine : line.takeWhile (· ≠ '\n') = line := by
      apply (takeWhile_sublist _).eq_of_length
      simp only [length_cons] at isLength
      omega
    have restStops : rest.takeWhile (· ≠ '\n') = [] := by
      cases rest with
      | nil =>
          rfl
      | cons d rest =>
          have isLineEnd : d = '\n' := fits rfl d rfl
          simp [isLineEnd]
    have sameLine : (line ++ rest).takeWhile (· ≠ '\n') = line := by
      rw [takeWhile_append, if_pos (by rw [wholeLine]), restStops, append_nil]
    rw [cons_append, cons_append, commentLength?, sameLine, length_cons,
      length_cons, Nat.add_comm]
  · rw [cons_append, cons_append, commentLength?,
      blockTailLength?_append isInner, isLength]
    rfl

/-- A complete lexeme that fits is what is read from its characters. -/
theorem first_of_fits
    {previous : Option Char}
    {lexeme : Lexeme}
    {c : Char}
    {body rest : List Char}
    (complete : lexeme.IsComplete dialect)
    (fits : lexeme.Fits dialect previous rest.head?)
    (shape : lexeme.chars = c :: body) :
    first dialect previous c (body ++ rest) = lexeme := by
  have takeBody : (c :: (body ++ rest)).take (c :: body).length = c :: body := by
    rw [← cons_append, take_left]
  cases lexeme with
  | quoted token =>
      obtain rfl : token = c :: body := shape
      obtain ⟨style, tail, inner, isCons, isMark, isInner, isLength⟩ :=
        quotedLength?_cases complete
      obtain ⟨rfl, rfl⟩ := cons.inj isCons
      obtain rfl : inner = body.length := by
        simpa using isLength.symm
      have separated := fits style (by simpa using isMark)
      have longest :=
        QuoteStyle.tailLength?_append isInner
          (QuoteStyle.tailLength?_mark separated)
      have found :
          quotedLength? dialect (style.mark :: (body ++ rest)) =
            some (style.mark :: body).length := by
        rw [(quotedLength?_cons isMark _).2, longest]
        rfl
      simp only [first, found, takeBody]
  | comment text =>
      obtain rfl : text = c :: body := shape
      have noMark : dialect.styleOf? c = none := by
        rcases commentLength?_cases complete with
          ⟨_, isCons, _⟩ | ⟨_, _, isCons, _⟩
        · cases isCons
          exact dialect.styleOf?_bareChar (by decide)
        · cases isCons
          exact dialect.styleOf?_bareChar (by decide)
      have found := commentLength?_of_fits complete fits
      rw [cons_append] at found
      simp [first, quotedLength?, noMark, found]
  | placeholder name =>
      obtain ⟨rfl, rfl⟩ := cons.inj shape
      have noStyle : dialect.styleOf? ':' = none := by
        cases dialect <;> rfl
      have named := nameAtFront_append complete fits.2
      have nonempty : name ≠ [] := by
        rintro rfl
        simp [IsComplete, isName] at complete
      simp [first, quotedLength?, noStyle, commentLength?, named, fits.1,
        nonempty]
  | character d =>
      obtain ⟨rfl, rfl⟩ := cons.inj shape
      have noStyle : dialect.styleOf? d = none := complete
      rw [nil_append]
      have noName :
          (d = ':' && previous ≠ some ':' && !(nameAtFront rest).isEmpty) =
            false := by
        by_contra named
        simp only [Bool.not_eq_false, Bool.and_eq_true, decide_eq_true_eq,
          Bool.not_eq_true', isEmpty_eq_false_iff] at named
        obtain ⟨⟨isColon, notAfterColon⟩, named⟩ := named
        rcases fits.2 isColon with afterColon | noStart
        · exact notAfterColon afterColon
        · cases rest with
          | nil =>
              exact named rfl
          | cons start rest =>
              simp [nameAtFront, noStart start rfl] at named
      simp only [first, quotedLength?, noStyle, Option.bind_none,
        commentLength?_eq_none fits.1]
      rw [noName]
      rfl

/-- Lexemes that fit are read back. -/
theorem scan_of_legible
    {previous : Option Char}
    {lexemes : List Lexeme}
    (legible : Legible dialect previous lexemes) :
    scanFrom dialect 0 previous (concat lexemes) = lexemes := by
  induction lexemes generalizing previous with
  | nil =>
      rfl
  | cons lexeme rest inductionHypothesis =>
      obtain ⟨complete, fits, restLegible⟩ := legible
      obtain ⟨c, body, shape⟩ := exists_cons_of_ne_nil complete.chars_ne_nil
      have isFirst := first_of_fits complete fits shape
      have restRead := inductionHypothesis restLegible
      rw [concat_cons, shape, cons_append, scanFrom, isFirst]
      rw [shape, length_cons, Nat.add_sub_cancel, scanFrom_append]
      rw [shape] at restRead
      rw [← getLast?_or_cons c body none, Option.or_none, restRead]

/-! ## Lexemes that run together -/

/-- Whether two neighbours would be read otherwise: two hyphens, or two tokens between marks that
stand for themselves when they are doubled. -/
def runTogether (dialect : Dialect) : Lexeme → Lexeme → Bool
  | .character c, .character d => c = '-' && d = '-'
  | .quoted token, .quoted token' =>
      token.head? = token'.head? &&
        (token.head?.bind dialect.styleOf?).any (·.doubles)
  | _, _ => false

/-- A hyphen before another one is read as a comment. -/
theorem first_ne_hyphen
    (previous : Option Char)
    (rest : List Char) :
    first dialect previous '-' ('-' :: rest) ≠ .character '-' := by
  intro isHyphen
  have front := front_first dialect previous '-' ('-' :: rest)
  rw [isHyphen] at front
  cases front with
  | character _ noComment => cases noComment

theorem closed_of_first
    {previous : Option Char}
    {style : QuoteStyle}
    (isMark : dialect.styleOf? style.mark = some style)
    {token rest : List Char}
    (isQuoted : first dialect previous style.mark rest = .quoted token) :
    ∃ length, style.tailLength? rest = some length := by
  rcases first_of_mark isMark previous rest with closed | isCharacter
  · exact closed
  · rw [isCharacter] at isQuoted
    cases isQuoted

/-- No two lexemes that were read next to each other run together. -/
theorem apart_of_scan
    {previous : Option Char}
    {lexemes : List Lexeme}
    (read : scanFrom dialect 0 previous (concat lexemes) = lexemes) :
    lexemes.IsChain fun lexeme next => runTogether dialect lexeme next = false := by
  induction lexemes generalizing previous with
  | nil =>
      exact .nil
  | cons lexeme rest inductionHypothesis =>
      obtain ⟨c, body, shape, isFirst, restRead⟩ := scanFrom_concat_cons read
      refine isChain_cons.mpr ⟨fun next isNext => ?_, inductionHypothesis restRead⟩
      obtain ⟨later, rfl⟩ := head?_eq_some_iff.mp isNext
      obtain ⟨d, body', shape', isFirst', _⟩ := scanFrom_concat_cons restRead
      rw [concat_cons, shape', cons_append] at isFirst
      by_contra together
      rw [Bool.not_eq_false] at together
      cases lexeme with
      | comment | placeholder => cases together
      | character c' =>
          cases next with
          | quoted | comment | placeholder => cases together
          | character d' =>
              simp only [runTogether, Bool.and_eq_true, decide_eq_true_eq]
                at together
              obtain ⟨rfl, rfl⟩ := together
              obtain ⟨rfl, rfl⟩ := cons.inj shape
              obtain ⟨rfl, rfl⟩ := cons.inj shape'
              exact first_ne_hyphen _ _ isFirst
      | quoted token =>
          cases next with
          | character | comment | placeholder => cases together
          | quoted token' =>
              obtain rfl : token = c :: body := shape
              obtain rfl : token' = d :: body' := shape'
              simp only [runTogether, head?_cons, Option.some.injEq,
                Option.bind_some, Bool.and_eq_true, decide_eq_true_eq,
                Option.any_eq_true] at together
              obtain ⟨rfl, style, isMark, doubles⟩ := together
              obtain ⟨rfl, _⟩ := quotedLength?_cons isMark []
              obtain ⟨length, closed⟩ := closed_of_first isMark isFirst'
              exact first_ne_quoted isMark doubles closed _ _ isFirst

end Lexeme

end QueryGateway.Sql
