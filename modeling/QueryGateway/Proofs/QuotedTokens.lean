import QueryGateway.Sql.Lexeme

/-!
# Quoted tokens are read back

A quoted content is the longest token at the front of any text that goes on
with something else than the mark of the token.  This needs two things of a
style: its mark is no backslash, and it reads the escapes that it writes.
Every style that a dialect writes has both.

The second part concerns the scan itself: characters that belong to a lexeme
already read are passed over, and only the last of them is remembered.
-/

namespace QueryGateway.Sql

open List

namespace QuoteStyle

/-- A style reads the escapes that it writes, and its mark is no backslash. -/
structure ReadsOwnEscapes (style : QuoteStyle) : Prop where
  markNotBackslash : style.mark ≠ '\\'
  escapeRead : style.backslash = true ∨ style.doubles = true

/-- A character that is neither a mark nor starts an escape is one more of the content. -/
theorem tailLength?_cons
    {style : QuoteStyle}
    {c : Char}
    (notMark : c ≠ style.mark)
    (startsNoEscape : (style.backslash && c = '\\') = false)
    (rest : List Char) :
    style.tailLength? (c :: rest) = (style.tailLength? rest).map (· + 1) := by
  rw [tailLength?.eq_def]
  simp only [notMark, startsNoEscape, ↓reduceIte, Bool.false_eq_true]

/-- Behind an escaped content, the first mark that is not doubled closes the token. -/
theorem tailLength?_escape
    {style : QuoteStyle}
    (readable : style.ReadsOwnEscapes)
    (content : List Char)
    {rest : List Char}
    (separated : rest.head? ≠ some style.mark) :
    style.tailLength? (style.escape content ++ style.mark :: rest) =
      some ((style.escape content).length + 1) := by
  have markNotBackslash := readable.markNotBackslash
  induction content with
  | nil =>
      cases rest with
      | nil =>
          simp [escape, tailLength?]
      | cons next rest =>
          have nextNotMark : next ≠ style.mark := by
            simpa using separated
          simp [escape, tailLength?, nextNotMark]
  | cons c content inductionHypothesis =>
      have escapeCons :
          style.escape (c :: content) =
            style.escapeChar c ++ style.escape content := by
        simp [escape]
      rw [escapeCons, append_assoc]
      cases escapes : style.backslash with
      | true =>
          by_cases special : c = '\\' ∨ c = style.mark
          · have written : style.escapeChar c = ['\\', c] := by
              simp [escapeChar, escapes, special]
            simp [written, tailLength?, escapes, markNotBackslash.symm,
              inductionHypothesis]
          · have written : style.escapeChar c = [c] := by
              simp [escapeChar, escapes, special]
            obtain ⟨notBackslash, notMark⟩ := not_or.mp special
            rw [written, singleton_append,
              tailLength?_cons notMark (by simp [notBackslash]),
              inductionHypothesis]
            rfl
      | false =>
          have doubles : style.doubles = true := by
            simpa [escapes] using readable.escapeRead
          by_cases isMark : c = style.mark
          · have written :
                style.escapeChar c = [style.mark, style.mark] := by
              simp [escapeChar, escapes, isMark]
            simp [written, tailLength?, doubles, inductionHypothesis]
          · have written : style.escapeChar c = [c] := by
              simp [escapeChar, escapes, isMark]
            rw [written, singleton_append,
              tailLength?_cons isMark (by simp [escapes]),
              inductionHypothesis]
            rfl

/-- A quoted content is the longest token at the front of its text. -/
theorem tokenLength?_quote
    {style : QuoteStyle}
    (readable : style.ReadsOwnEscapes)
    (content : List Char)
    {rest : List Char}
    (separated : rest.head? ≠ some style.mark) :
    style.tokenLength? (style.quote content ++ rest) =
      some (style.quote content).length := by
  simp [quote, tokenLength?,
    tailLength?_escape readable content separated]

/-- A quoted content starts with its mark and ends with it. -/
theorem quote_eq_cons
    (style : QuoteStyle)
    (content : List Char) :
    style.quote content =
      style.mark :: (style.escape content ++ [style.mark]) := by
  simp [quote]

end QuoteStyle

namespace Dialect

/-- Both styles that a dialect writes read their own escapes. -/
theorem style_readsOwnEscapes
    (dialect : Dialect)
    (kind : QuoteKind) :
    (dialect.style kind).ReadsOwnEscapes := by
  constructor
  · cases dialect <;> cases kind <;> simp [style, textStyle, identifierStyle]
  · cases dialect <;> cases kind <;> simp [style, textStyle, identifierStyle]

/-- The mark of a written token tells its style. -/
theorem styleOf?_mark
    (dialect : Dialect)
    (kind : QuoteKind) :
    dialect.styleOf? (dialect.style kind).mark = some (dialect.style kind) := by
  cases dialect <;> cases kind <;> rfl

end Dialect

theorem getLast?_or_cons
    (c : Char)
    (rest : List Char)
    (previous : Option Char) :
    (c :: rest).getLast?.or previous = rest.getLast?.or (some c) := by
  cases rest <;> simp [getLast?_cons]

namespace Lexeme

/-- A written token is read as it was written, whatever its content. -/
theorem quotedLength?_quote
    (dialect : Dialect)
    (kind : QuoteKind)
    (content : List Char)
    {rest : List Char}
    (separated : rest.head? ≠ some (dialect.style kind).mark) :
    quotedLength? dialect ((dialect.style kind).quote content ++ rest) =
      some ((dialect.style kind).quote content).length := by
  have longest :=
    QuoteStyle.tokenLength?_quote
      (dialect.style_readsOwnEscapes kind) content separated
  rw [QuoteStyle.quote_eq_cons, cons_append] at longest ⊢
  simp only [quotedLength?, dialect.styleOf?_mark, Option.bind_some]
  exact longest

/-- The scan passes over the characters of a lexeme that is already read. -/
theorem scanFrom_append
    (dialect : Dialect)
    (previous : Option Char)
    (taken rest : List Char) :
    scanFrom dialect taken.length previous (taken ++ rest) =
      scanFrom dialect 0 (taken.getLast?.or previous) rest := by
  induction taken generalizing previous with
  | nil =>
      simp
  | cons c taken inductionHypothesis =>
      rw [length_cons, cons_append, scanFrom, inductionHypothesis,
        getLast?_or_cons]

/-- The scan goes on behind the lexeme at the front of a text. -/
theorem scanFrom_cons
    (dialect : Dialect)
    (previous : Option Char)
    (c : Char)
    (rest : List Char) :
    ∃ before after,
      rest = before ++ after ∧
      (first dialect previous c rest).chars = c :: before ∧
      scanFrom dialect 0 previous (c :: rest) =
        first dialect previous c rest ::
          scanFrom dialect 0 (c :: before).getLast? after := by
  let length := (first dialect previous c rest).chars.length - 1
  have split : rest = rest.take length ++ rest.drop length :=
    (take_append_drop length rest).symm
  have shape :
      (first dialect previous c rest).chars = c :: rest.take length :=
    chars_first dialect previous c rest
  have sameLength : length = (rest.take length).length := by
    have counted := congrArg List.length shape
    rw [length_cons] at counted
    omega
  refine ⟨_, _, split, shape, ?_⟩
  have goesOn :
      scanFrom dialect length (some c) rest =
        scanFrom dialect 0 (c :: rest.take length).getLast?
          (rest.drop length) := by
    rw [← Option.or_none (o := (c :: rest.take length).getLast?),
      getLast?_or_cons, ← scanFrom_append, take_append_drop, ← sameLength]
  rw [scanFrom, goesOn]

end Lexeme

end QueryGateway.Sql
