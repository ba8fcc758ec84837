import QueryGateway.Proofs.TidyPieces

/-!
# Statements as their dialect understands them

A dialect reads a quoted token as a kind and a content, with the escapes
undone.  Read in this way, a statement is a list of tokens (`tokens`), and what
is read off tidy pieces is what they were made of (`tokens_write`): no trace of
how a dialect quotes is left in it.

The tokens still determine the text (`Piece.chars_tokens`), because every
dialect has one way to write a token.
-/

namespace QueryGateway.Sql

open List

/-! ## Contents of quoted tokens -/

namespace QuoteStyle

/-- A character that starts no escape stands for itself. -/
theorem unescape_cons
    {style : QuoteStyle}
    {c : Char}
    (noBackslash : (style.backslash && c = '\\') = false)
    (noDouble : (style.doubles && c = style.mark) = false)
    (rest : List Char) :
    style.unescape (c :: rest) = c :: style.unescape rest := by
  cases rest with
  | nil =>
      rfl
  | cons next rest =>
      simp only [unescape, noBackslash, noDouble, Bool.false_and,
        Bool.false_eq_true, ↓reduceIte]

/-- A content comes back when its escapes are undone. -/
theorem unescape_escape
    {style : QuoteStyle}
    (readable : style.ReadsOwnEscapes)
    (content : List Char) :
    style.unescape (style.escape content) = content := by
  induction content with
  | nil =>
      rfl
  | cons c content inductionHypothesis =>
      have escapeCons :
          style.escape (c :: content) =
            style.escapeChar c ++ style.escape content := by
        simp [escape]
      rw [escapeCons]
      cases escapes : style.backslash with
      | true =>
          by_cases special : c = '\\' ∨ c = style.mark
          · have written : style.escapeChar c = ['\\', c] := by
              simp [escapeChar, escapes, special]
            simp [written, unescape, escapes, inductionHypothesis]
          · have written : style.escapeChar c = [c] := by
              simp [escapeChar, escapes, special]
            obtain ⟨notBackslash, notMark⟩ := not_or.mp special
            rw [written, singleton_append,
              unescape_cons (by simp [notBackslash]) (by simp [notMark]),
              inductionHypothesis]
      | false =>
          have doubles : style.doubles = true := by
            simpa [escapes] using readable.escapeRead
          by_cases isMark : c = style.mark
          · have written :
                style.escapeChar c = [style.mark, style.mark] := by
              simp [escapeChar, escapes, isMark]
            rw [written, isMark]
            simp [unescape, escapes, doubles, inductionHypothesis]
          · have written : style.escapeChar c = [c] := by
              simp [escapeChar, escapes, isMark]
            rw [written, singleton_append,
              unescape_cons (by simp [escapes]) (by simp [isMark]),
              inductionHypothesis]

/-- The content of a written token is what was written. -/
theorem unquote_quote
    {style : QuoteStyle}
    (readable : style.ReadsOwnEscapes)
    (content : List Char) :
    style.unquote (style.quote content) = content := by
  have interior :
      ((style.quote content).drop 1).dropLast = style.escape content := by
    simp [quote]
  rw [unquote, interior, unescape_escape readable]

end QuoteStyle

/-! ## Tokens -/

/-- A part of a statement as its dialect understands it.  Comments are passed over, and so would be
a quoted token whose mark the dialect does not know. -/
inductive Token where
  | quoted (kind : QuoteKind) (content : List Char)
  | placeholder (name : List Char)
  | character (c : Char)
  | passedOver (text : List Char)
  deriving Repr, DecidableEq

/-- The kind and the content of a quoted token, as a dialect reads it. -/
def Dialect.readQuoted? (dialect : Dialect) (token : List Char) :
    Option (QuoteKind × List Char) :=
  (token.head?.bind dialect.styleOf?).map fun style =>
    (style.kind, style.unquote token)

/-- What a dialect understands by a lexeme. -/
def Lexeme.token (dialect : Dialect) : Lexeme → Token
  | .quoted token =>
      match dialect.readQuoted? token with
      | some (kind, content) => .quoted kind content
      | none => .passedOver token
  | .comment text => .passedOver text
  | .placeholder name => .placeholder name
  | .character c => .character c

/-- A statement as a dialect understands it. -/
def tokens (dialect : Dialect) (statement : String) : List Token :=
  (Lexeme.scan dialect statement.toList).map (Lexeme.token dialect)

/-- A text of which each character stands for itself. -/
def word (text : String) : List Token :=
  text.toList.map .character

theorem word_append
    (first second : String) :
    word (first ++ second) = word first ++ word second := by
  simp [word]

/-- The character that a token is. -/
def Token.character? : Token → Option Char
  | .character c => some c
  | _ => none

/-- The text of a word is in the word. -/
theorem filterMap_character?_word
    (text : String) :
    (word text).filterMap Token.character? = text.toList := by
  simp [word, filterMap_map, Token.character?, Function.comp_def]

theorem word_injective :
    Function.Injective word := by
  intro first second same
  have sameChars : first.toList = second.toList := by
    rw [← filterMap_character?_word, same, filterMap_character?_word]
  exact String.toList_inj.mp sameChars

/-- What a piece is understood as. -/
def Piece.tokens (dialect : Dialect) : Piece → List Token
  | .bare text => word text
  | .truth value => word (dialect.truthText value)
  | .quoted kind content => [.quoted kind content.toList]
  | .placeholder name => [.placeholder name.toList]
  | .raw text => word text

/-- What pieces are understood as. -/
def Piece.allTokens (dialect : Dialect) (pieces : List Piece) : List Token :=
  pieces.flatMap (Piece.tokens dialect)

namespace Piece

@[simp]
theorem allTokens_nil
    (dialect : Dialect) :
    allTokens dialect [] = [] := rfl

@[simp]
theorem allTokens_cons
    (dialect : Dialect)
    (piece : Piece)
    (rest : List Piece) :
    allTokens dialect (piece :: rest) =
      piece.tokens dialect ++ allTokens dialect rest := rfl

@[simp]
theorem allTokens_append
    (dialect : Dialect)
    (left right : List Piece) :
    allTokens dialect (left ++ right) =
      allTokens dialect left ++ allTokens dialect right := by
  simp [allTokens]

/-- Lists of pieces with a separator between them are understood list by list. -/
theorem allTokens_joined
    (dialect : Dialect)
    (separator : String)
    (lists : List (List Piece)) :
    allTokens dialect (joined separator lists) =
      (word separator).intercalate (lists.map (allTokens dialect)) := by
  induction lists with
  | nil =>
      rfl
  | cons pieces rest inductionHypothesis =>
      cases rest with
      | nil =>
          simp [joined]
      | cons next rest =>
          rw [joined_cons_cons, allTokens_append, allTokens_cons,
            inductionHypothesis]
          simp [tokens]

end Piece

/-- A written token is understood by its kind and content. -/
theorem Dialect.readQuoted?_quote
    (dialect : Dialect)
    (kind : QuoteKind)
    (content : List Char) :
    dialect.readQuoted? ((dialect.style kind).quote content) =
      some (kind, content) := by
  have sameKind : (dialect.style kind).kind = kind := by
    cases dialect <;> cases kind <;> rfl
  have readBack :=
    QuoteStyle.unquote_quote (dialect.style_readsOwnEscapes kind) content
  have mark :
      ((dialect.style kind).quote content).head? =
        some (dialect.style kind).mark := by
    simp [QuoteStyle.quote]
  simp [readQuoted?, mark, dialect.styleOf?_mark, readBack, sameKind]

/-- The lexemes of a piece are understood as the piece. -/
theorem Piece.map_token_lexemes
    (dialect : Dialect)
    (piece : Piece) :
    (piece.lexemes dialect).map (Lexeme.token dialect) =
      piece.tokens dialect := by
  cases piece with
  | bare text =>
      simp [lexemes, tokens, word, Lexeme.token]
  | truth value =>
      simp [lexemes, tokens, word, Lexeme.token]
  | quoted kind content =>
      simp [lexemes, tokens, Lexeme.token, dialect.readQuoted?_quote]
  | placeholder name =>
      rfl
  | raw text =>
      simp [lexemes, tokens, word, Lexeme.token]

/-- The text of tidy pieces is understood as the pieces. -/
theorem tokens_write
    (dialect : Dialect)
    {pieces : List Piece}
    (tidy : Piece.Tidy pieces) :
    tokens dialect (Piece.write dialect pieces) =
      Piece.allTokens dialect pieces := by
  unfold tokens
  rw [Piece.toList_write, Lexeme.scan_allChars dialect tidy, map_flatMap]
  simp only [Piece.map_token_lexemes, Piece.allTokens]

/-! ## From tokens to text -/

/-- How a dialect writes a token. -/
def Token.chars (dialect : Dialect) : Token → List Char
  | .quoted kind content => (dialect.style kind).quote content
  | .placeholder name => ':' :: name
  | .character c => [c]
  | .passedOver text => text

theorem flatMap_chars_word
    (dialect : Dialect)
    (text : String) :
    (word text).flatMap (Token.chars dialect) = text.toList := by
  simp [word, flatMap_map, Token.chars]

/-- What a piece is understood as is written as the piece is. -/
theorem Piece.chars_tokens
    (dialect : Dialect)
    (piece : Piece) :
    (piece.tokens dialect).flatMap (Token.chars dialect) =
      piece.chars dialect := by
  cases piece with
  | bare text =>
      exact flatMap_chars_word dialect text
  | truth value =>
      exact flatMap_chars_word dialect _
  | quoted kind content =>
      simp [tokens, Token.chars, chars]
  | placeholder name =>
      simp [tokens, Token.chars, chars]
  | raw text =>
      exact flatMap_chars_word dialect text

/-- Pieces that are understood alike are written alike. -/
theorem Piece.write_eq_of_allTokens_eq
    {dialect : Dialect}
    {pieces otherPieces : List Piece}
    (same : allTokens dialect pieces = allTokens dialect otherPieces) :
    write dialect pieces = write dialect otherPieces := by
  have written
      (pieces : List Piece) :
      allChars dialect pieces =
        (allTokens dialect pieces).flatMap (Token.chars dialect) := by
    simp only [allTokens, flatMap_assoc, chars_tokens]
    rfl
  rw [write, write, written, written, same]

end QueryGateway.Sql
