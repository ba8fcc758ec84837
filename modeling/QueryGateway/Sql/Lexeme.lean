import QueryGateway.Sql.Dialect

/-!
# Lexemes of a statement

A statement is cut into quoted tokens, comments, placeholders and single
characters.  A placeholder is a colon and a name; a colon after another colon
starts none, so that a cast stays what it is.  A quote or a block comment that
is never closed is a character like any other.

`Lexeme.scan` reads a statement from left to right.  The lexemes it returns
make up the statement (`scan_concat`).
-/

namespace QueryGateway.Sql

/-- A part of a statement. -/
inductive Lexeme where
  | quoted (token : List Char)
  | comment (text : List Char)
  | placeholder (name : List Char)
  | character (c : Char)
  deriving Repr, DecidableEq

/-- Whether a name may start with a character. -/
def isNameStart (c : Char) : Bool :=
  c.isAlpha || c = '_'

/-- Whether a name may go on with a character. -/
def isNameChar (c : Char) : Bool :=
  c.isAlphanum || c = '_'

/-- Whether characters are the name of a parameter. -/
def isName : List Char → Bool
  | [] => false
  | c :: rest => isNameStart c && rest.all isNameChar

/-- The longest name at the front of a text; empty if none starts there. -/
def nameAtFront : List Char → List Char
  | [] => []
  | c :: rest => if isNameStart c then c :: rest.takeWhile isNameChar else []

/-- How many characters of a text belong to a block comment that was opened before it. -/
def blockTailLength? : List Char → Option Nat
  | [] => none
  | [_] => none
  | c :: d :: rest =>
      if c = '*' && d = '/' then some 2 else (blockTailLength? (d :: rest)).map (· + 1)

/-- The length of the comment at the front of a text: two hyphens up to the end of the line, or a
slash and a star up to the first star and slash after them. -/
def commentLength? : List Char → Option Nat
  | '-' :: '-' :: rest => some (2 + (rest.takeWhile (· ≠ '\n')).length)
  | '/' :: '*' :: rest => (blockTailLength? rest).map (· + 2)
  | _ => none

namespace Lexeme

/-- The characters that a lexeme stands for. -/
def chars : Lexeme → List Char
  | .quoted token => token
  | .comment text => text
  | .placeholder name => ':' :: name
  | .character c => [c]

/-- The name of a placeholder. -/
def name? : Lexeme → Option String
  | .placeholder name => some (String.ofList name)
  | _ => none

/-- The length of the quoted token at the front of a text. -/
def quotedLength? (dialect : Dialect) (cs : List Char) : Option Nat :=
  match cs with
  | [] => none
  | c :: _ => (dialect.styleOf? c).bind fun style => style.tokenLength? cs

/-- The lexeme at the front of a text that starts with a character, given the character before
it. -/
def first (dialect : Dialect) (previous : Option Char) (c : Char) (rest : List Char) : Lexeme :=
  match quotedLength? dialect (c :: rest) with
  | some length => .quoted ((c :: rest).take length)
  | none =>
      match commentLength? (c :: rest) with
      | some length => .comment ((c :: rest).take length)
      | none =>
          let name := nameAtFront rest
          if c = ':' && previous ≠ some ':' && !name.isEmpty then .placeholder name else .character c

/-- The lexemes of a text.  The number counts characters at its front that belong to a lexeme
already read, and the character is the one before it. -/
def scanFrom (dialect : Dialect) : Nat → Option Char → List Char → List Lexeme
  | _, _, [] => []
  | taken + 1, _, c :: rest => scanFrom dialect taken (some c) rest
  | 0, previous, c :: rest =>
      let lexeme := first dialect previous c rest
      lexeme :: scanFrom dialect (lexeme.chars.length - 1) (some c) rest

/-- The lexemes of a statement. -/
def scan (dialect : Dialect) (statement : List Char) : List Lexeme :=
  scanFrom dialect 0 none statement

/-- The statement that lexemes make up. -/
def concat (lexemes : List Lexeme) : List Char :=
  lexemes.flatMap chars

@[simp]
theorem concat_nil :
    concat [] = [] := rfl

@[simp]
theorem concat_cons
    (lexeme : Lexeme)
    (rest : List Lexeme) :
    concat (lexeme :: rest) = lexeme.chars ++ concat rest := by
  simp [concat]

/-- A lexeme starts with the character that it was read at, and the rest of it is at the front of
the text after that. -/
theorem chars_first
    (dialect : Dialect)
    (previous : Option Char)
    (c : Char)
    (rest : List Char) :
    (first dialect previous c rest).chars
      = c :: rest.take ((first dialect previous c rest).chars.length - 1) := by
  have tokenPositive : ∀ length, quotedLength? dialect (c :: rest) = some length → 0 < length := by
    intro length found
    simp only [quotedLength?, Option.bind_eq_some_iff] at found
    obtain ⟨style, _, found⟩ := found
    simp only [QuoteStyle.tokenLength?] at found
    split at found
    · obtain ⟨tail, _, rfl⟩ := Option.map_eq_some_iff.1 found
      omega
    · simp at found
  have commentPositive : ∀ length, commentLength? (c :: rest) = some length → 0 < length := by
    intro length found
    unfold commentLength? at found
    split at found
    · simp at found
      omega
    · obtain ⟨tail, _, rfl⟩ := Option.map_eq_some_iff.1 found
      omega
    · simp at found
  have takeFront : ∀ length, 0 < length →
      (c :: rest).take length = c :: rest.take (((c :: rest).take length).length - 1) := by
    intro length positive
    obtain ⟨less, rfl⟩ : ∃ less, length = less + 1 := ⟨length - 1, by omega⟩
    simp [List.take_eq_take_iff]
  unfold first
  split
  · rename_i length found
    exact takeFront length (tokenPositive length found)
  · split
    · rename_i length found
      exact takeFront length (commentPositive length found)
    · dsimp only
      split
      · rename_i starts
        simp only [Bool.and_eq_true, decide_eq_true_eq] at starts
        obtain ⟨⟨rfl, _⟩, _⟩ := starts
        simp only [chars, List.length_cons, Nat.add_one_sub_one, List.cons.injEq, true_and]
        cases rest with
        | nil => rfl
        | cons d more =>
            simp only [nameAtFront]
            split
            · simp only [List.length_cons, List.take_succ_cons, List.cons.injEq, true_and]
              exact (List.prefix_iff_eq_take.1 (List.takeWhile_prefix _))
            · rfl
      · simp [chars]

/-- The lexemes from inside a text make up the text after the characters already taken. -/
theorem concat_scanFrom
    (dialect : Dialect)
    (cs : List Char) :
    ∀ (taken : Nat) (previous : Option Char),
      concat (scanFrom dialect taken previous cs) = cs.drop taken := by
  induction cs with
  | nil => intro taken previous; simp [scanFrom]
  | cons c rest hypothesis =>
      intro taken previous
      cases taken with
      | zero =>
          simp only [scanFrom, concat_cons, hypothesis, List.drop_zero]
          conv => lhs; lhs; rw [chars_first dialect previous c rest]
          rw [List.cons_append, List.take_append_drop]
      | succ taken => simp [scanFrom, hypothesis]

/-- The lexemes of a statement make up the statement. -/
theorem scan_concat
    (dialect : Dialect)
    (statement : List Char) :
    concat (scan dialect statement) = statement := by
  simp [scan, concat_scanFrom]

end Lexeme

end QueryGateway.Sql
