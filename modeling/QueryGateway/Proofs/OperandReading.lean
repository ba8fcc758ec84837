import QueryGateway.Proofs.LiteralPieces
import QueryGateway.Proofs.References
import QueryGateway.Proofs.WrittenPieces

/-!
# Operands are read back from their tokens

An operand that is a column, a parameter, or a constant that is nothing, an
integer or a text is determined by its tokens (`Operand.IsReadable.read_tokens`)
up to an empty qualifier, and it ends at the first token that stops it
(`Operand.IsReadable.tokens_cancel`).  Other constants are left out: a truth
value may be written like an integer, and a list like several values.
-/

namespace QueryGateway

open List Sql

namespace Operand

/-- What an operand is understood as. -/
def tokens (dialect : Dialect) (operand : Operand) : List Token :=
  Piece.allTokens dialect operand.pieces

/-- An operand whose empty qualifier is taken for none. -/
def canonical : Operand → Operand
  | .column table name => .column (present table) name
  | .literal value => .literal value
  | .parameter name => .parameter name

/-- Whether an operand, if it is a constant, is nothing, an integer or a text. -/
def isSimple : Operand → Bool
  | .literal .null | .literal (.int _) | .literal (.text _) => true
  | .literal _ => false
  | .column _ _ | .parameter _ => true

/-- An operand that is written in a form that can be read back. -/
inductive IsReadable : Operand → Prop where
  | column (table : Option String) (name : String) :
      IsReadable (.column table (some name))
  | null : IsReadable (.literal .null)
  | int {value : Int} :
      Numeral.isWritable value = true → IsReadable (.literal (.int value))
  | text (content : String) : IsReadable (.literal (.text content))
  | parameter (name : String) : IsReadable (.parameter (some name))

/-- A simple operand that is written can be read back. -/
theorem isReadable_of_written
    {clause : Clause}
    {operand : Operand}
    (simple : operand.isSimple = true)
    (succeeds : (operand.rendering clause).failure = none) :
    operand.IsReadable := by
  rcases written_cases succeeds with
    ⟨table, name, rfl⟩ | ⟨value, pieces, rfl, isOk⟩ | ⟨name, rfl⟩
  · exact .column table name
  · have short := ((literal_isOk_iff value).mp ⟨pieces, isOk⟩).2
    cases value with
    | null => exact .null
    | int value => exact .int short
    | text content => exact .text content
    | _ => simp [isSimple] at simple
  · exact .parameter name

section

variable {dialect : Dialect}

theorem tokens_column
    (table : Option String)
    (name : String) :
    (Operand.column table (some name)).tokens dialect =
      referenceTokens (present table) name :=
  allTokens_qualified dialect table name

theorem tokens_null :
    (Operand.literal .null).tokens dialect = word "NULL" := rfl

theorem tokens_int
    {value : Int}
    (short : Numeral.isWritable value = true) :
    (Operand.literal (.int value)).tokens dialect =
      word (Numeral.ofInt value) := by
  have written : Sql.literal (.int value) = .ok [.bare (Numeral.ofInt value)] := by
    rw [Sql.literal, if_pos short]
  rw [tokens, pieces, written]
  simp [Except.toOption, Piece.tokens]

theorem tokens_text
    (content : String) :
    (Operand.literal (.text content)).tokens dialect =
      [.quoted .text content.toList] := rfl

theorem tokens_parameter
    (name : String) :
    (Operand.parameter (some name)).tokens dialect =
      [.placeholder name.toList] := rfl

/-- No token of an operand stops it. -/
theorem IsReadable.tokens_free
    {operand : Operand}
    (readable : operand.IsReadable)
    {token : Token}
    (member : token ∈ operand.tokens dialect) :
    ¬ token.IsStop := by
  cases readable with
  | column table name =>
      rw [tokens_column] at member
      exact referenceTokens_free member
  | null =>
      have free : ∀ token ∈ word "NULL", ¬ token.IsStop := by decide
      exact free token member
  | int short =>
      rw [tokens_int short] at member
      obtain ⟨c, isChar, rfl⟩ := mem_map.mp member
      intro stops
      rcases Token.isStop_character stops with rfl | rfl | rfl | rfl
      all_goals
        rcases Numeral.ofInt_chars isChar with digit | sign
        · cases digit
        · cases sign
  | text content =>
      rw [tokens_text, mem_singleton] at member
      simp [member, Token.IsStop, word]
  | parameter name =>
      rw [tokens_parameter, mem_singleton] at member
      simp [member, Token.IsStop, word]

theorem IsReadable.tokens_ne_nil
    {operand : Operand}
    (readable : operand.IsReadable) :
    operand.tokens dialect ≠ [] := by
  cases readable with
  | column table name =>
      rw [tokens_column]
      cases present table <;> simp [referenceTokens]
  | null =>
      simp [tokens_null, word]
  | int short =>
      rw [tokens_int short]
      intro empty
      exact (Numeral.ofInt_sound _).1 (map_eq_nil_iff.mp empty)
  | text content =>
      simp [tokens_text]
  | parameter name =>
      simp [tokens_parameter]

/-- No operand is understood as the word for a negation. -/
theorem IsReadable.tokens_ne_not
    {operand : Operand}
    (readable : operand.IsReadable) :
    operand.tokens dialect ≠ word "NOT" := by
  cases readable with
  | column table name =>
      rw [tokens_column]
      cases present table <;> simp [referenceTokens, word]
  | null =>
      simp [tokens_null, word]
  | int short =>
      rw [tokens_int short]
      exact word_injective.ne
        (Numeral.ofInt_ne (c := 'N') (by decide) (by decide) _)
  | text content =>
      simp [tokens_text, word]
  | parameter name =>
      simp [tokens_parameter, word]

/-- The operand that tokens stand for. -/
def read : List Token → Operand
  | [.quoted .identifier name] => .column none (some (String.ofList name))
  | [.quoted .identifier table, _, .quoted .identifier name] =>
      .column (some (String.ofList table)) (some (String.ofList name))
  | [.quoted .text content] => .literal (.text (String.ofList content))
  | [.placeholder name] => .parameter (some (String.ofList name))
  | characters =>
      if characters = word "NULL" then
        .literal .null
      else
        .literal (.int (Numeral.integerOf (characters.filterMap Token.character?)))

theorem read_word
    (text : String) :
    read (word text) =
      if word text = word "NULL" then
        .literal .null
      else
        .literal (.int
          (Numeral.integerOf ((word text).filterMap Token.character?))) := by
  unfold word
  cases text.toList <;> rfl

/-- An operand is read back from its tokens, an empty qualifier being none. -/
theorem IsReadable.read_tokens
    {operand : Operand}
    (readable : operand.IsReadable)
    (dialect : Dialect) :
    read (operand.tokens dialect) = operand.canonical := by
  cases readable with
  | column table name =>
      rw [tokens_column, canonical]
      cases present table <;> simp [referenceTokens, read]
  | null =>
      rfl
  | @int value short =>
      rw [tokens_int short, canonical]
      have notNull : word (Numeral.ofInt value) ≠ word "NULL" :=
        word_injective.ne
          (Numeral.ofInt_ne (c := 'N') (by decide) (by decide) value)
      rw [read_word, if_neg notNull, filterMap_character?_word,
        Numeral.integerOf_ofInt]
  | text content =>
      simp [tokens_text, read, canonical]
  | parameter name =>
      simp [tokens_parameter, read, canonical]

/-- An operand is told apart from what stops it. -/
theorem IsReadable.tokens_cancel
    {operand other : Operand}
    (readable : operand.IsReadable)
    (otherReadable : other.IsReadable)
    {rest otherRest : List Token}
    (stopped : StartsWithStop Token.IsStop rest)
    (otherStopped : StartsWithStop Token.IsStop otherRest)
    (same :
      operand.tokens dialect ++ rest = other.tokens dialect ++ otherRest) :
    operand.canonical = other.canonical ∧ rest = otherRest := by
  obtain ⟨tokens, rests⟩ :=
    append_cancel_of_stops (fun _ => readable.tokens_free)
      (fun _ => otherReadable.tokens_free) stopped otherStopped same
  rw [← readable.read_tokens dialect, tokens, otherReadable.read_tokens]
  exact ⟨rfl, rests⟩

end

end Operand

end QueryGateway
