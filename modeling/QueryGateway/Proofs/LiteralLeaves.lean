import QueryGateway.Proofs.Substitution
import QueryGateway.Proofs.TokenPatterns

/-!
# Literals of nested values

However deep its lists are nested, a value is written as one flat list: that of
its leaves (`literal_eq_leaves`).  So it is written if each leaf is, the first
leaf that is not is the one that is refused, and the texts that come back from
the quoted tokens of the literal are those of the leaves.
-/

namespace QueryGateway

open List Sql

/-! ## Leaves -/

namespace Value

mutual

/-- The values that a value holds outside of lists and tuples, from left to right.  An empty list
stands for nothing. -/
def leaves : Value → List Value
  | .sequence kind items =>
      if kind.isOrdered then
        if items.isEmpty then [.null] else leavesOf items
      else
        [.sequence kind items]
  | value => [value]

/-- The leaves of the items of a list. -/
def leavesOf : List Value → List Value
  | [] => []
  | value :: rest => value.leaves ++ leavesOf rest

end

/-- The leaves that have a literal: nothing, truth values, integers that are not too long, finite
numbers, texts, times and identifiers. -/
inductive HasLiteral : Value → Prop where
  | null :
      HasLiteral .null
  | bool (value : Bool) :
      HasLiteral (.bool value)
  | int {value : Int} :
      (Numeral.digitsOf value.natAbs).length ≤ Numeral.digitBound →
      HasLiteral (.int value)
  | float {value : Binary64} :
      value.isFinite = true →
      HasLiteral (.float value)
  | decimal {value : Decimal} :
      value.isFinite = true →
      HasLiteral (.decimal value)
  | text (content : String) :
      HasLiteral (.text content)
  | textual (value : Textual) :
      HasLiteral (.textual value)

/-- A leaf is the first one of a value that has no literal. -/
def FirstRefused (value leaf : Value) : Prop :=
  ∃ before after,
    value.leaves = before ++ leaf :: after ∧
      (∀ other ∈ before, other.HasLiteral) ∧ ¬ leaf.HasLiteral

/-- The text of a leaf that stands in quotes. -/
def quotedText? : Value → Option String
  | .text content => some content
  | .textual value => some value.text
  | _ => none

theorem leavesOf_eq_flatMap
    (values : List Value) :
    leavesOf values = values.flatMap leaves := by
  induction values with
  | nil => rfl
  | cons value rest inductionHypothesis =>
      rw [leavesOf, inductionHypothesis, flatMap_cons]

/-- A value has a leaf. -/
theorem leaves_ne_nil
    (value : Value) :
    value.leaves ≠ [] := by
  induction value using itemInduction with
  | scalar value notSequence =>
      cases value with
      | sequence kind items => exact (notSequence kind items rfl).elim
      | _ => exact cons_ne_nil _ _
  | sequence kind items inductionHypothesis =>
      rw [leaves]
      split
      · split
        · exact cons_ne_nil _ _
        · rename_i nonempty
          obtain ⟨item, rest, rfl⟩ := exists_cons_of_ne_nil (by simpa using nonempty)
          rw [leavesOf]
          exact append_ne_nil_of_left_ne_nil (inductionHypothesis item mem_cons_self) _
      · exact cons_ne_nil _ _

/-- Whether a value is no list and no tuple. -/
def isLeaf : Value → Bool
  | .sequence kind _ => !kind.isOrdered
  | _ => true

/-- No leaf is a list or a tuple. -/
theorem isLeaf_of_mem_leaves
    {value leaf : Value}
    (member : leaf ∈ value.leaves) :
    leaf.isLeaf = true := by
  induction value using itemInduction with
  | scalar value notSequence =>
      cases value with
      | sequence kind items =>
          exact (notSequence kind items rfl).elim
      | _ =>
          obtain rfl := mem_singleton.mp member
          rfl
  | sequence kind items inductionHypothesis =>
      rw [leaves] at member
      split at member
      · split at member
        · obtain rfl := mem_singleton.mp member
          rfl
        · rw [leavesOf_eq_flatMap] at member
          obtain ⟨item, isItem, ofItem⟩ := mem_flatMap.mp member
          exact inductionHypothesis item isItem ofItem
      · rename_i unordered
        obtain rfl := mem_singleton.mp member
        simpa [isLeaf] using unordered

end Value

/-! ## Literals of leaves -/

namespace Sql

/-- The kind and the content of a quoted token. -/
def Piece.quoted? : Piece → Option (QuoteKind × String)
  | .quoted kind content => some (kind, content)
  | _ => none

/-- What becomes of a leaf: it is written as one piece, or it is refused. -/
inductive LeafOutcome (leaf : Value) : Except LiteralError (List Piece) → Prop where
  | written {piece : Piece} :
      leaf.HasLiteral →
      piece.quoted? = leaf.quotedText?.map (.text, ·) →
      LeafOutcome leaf (.ok [piece])
  | refused :
      ¬ leaf.HasLiteral →
      LeafOutcome leaf (.error (.ofValue leaf))

/-- An integer is written exactly if it does not have too many digits. -/
theorem isWritable_iff
    (value : Int) :
    Numeral.isWritable value = true ↔
      (Numeral.digitsOf value.natAbs).length ≤ Numeral.digitBound := by
  have bounded
      (digits : Nat)
      (positive : 0 < digits) :
      (Numeral.digitsOf value.natAbs).length ≤ digits ↔ value.natAbs < Nat.pow 10 digits :=
    Nat.length_toDigits_le_iff (by decide) positive
  rw [bounded _ (by decide)]
  exact decide_eq_true_iff

theorem leaf_outcome
    {leaf : Value}
    (isLeaf : leaf.isLeaf = true) :
    LeafOutcome leaf (literal leaf) := by
  cases leaf with
  | null =>
      exact .written .null rfl
  | bool value =>
      exact .written (.bool value) rfl
  | int value =>
      rw [literal]
      split
      · rename_i short
        exact .written (.int ((isWritable_iff value).mp short)) rfl
      · rename_i long
        have refusal : LiteralError.ofValue (.int value) = .longInteger := if_neg long
        rw [← refusal]
        refine .refused fun hasLiteral => ?_
        cases hasLiteral with
        | int short => exact long ((isWritable_iff value).mpr short)
  | float value =>
      rw [literal]
      split
      · rename_i finite
        exact .written (.float finite) rfl
      · rename_i notFinite
        refine .refused fun hasLiteral => ?_
        cases hasLiteral with
        | float finite => exact notFinite finite
  | decimal value =>
      rw [literal]
      split
      · rename_i finite
        exact .written (.decimal finite) rfl
      · rename_i notFinite
        refine .refused fun hasLiteral => ?_
        cases hasLiteral with
        | decimal finite => exact notFinite finite
  | text content =>
      exact .written (.text content) rfl
  | textual value =>
      exact .written (.textual value) rfl
  | sequence kind items =>
      have unordered : kind.isOrdered = false := by simpa [Value.isLeaf] using isLeaf
      rw [literal, unordered]
      exact .refused fun hasLiteral => by cases hasLiteral
  | bytes | typeName | foreign | mapping =>
      exact .refused fun hasLiteral => by cases hasLiteral

/-- A leaf is written exactly if it has a literal. -/
theorem literal_leaf_isOk_iff
    {leaf : Value}
    (isLeaf : leaf.isLeaf = true) :
    (∃ pieces, literal leaf = .ok pieces) ↔ leaf.HasLiteral := by
  have outcome := leaf_outcome isLeaf
  generalize literal leaf = result at outcome
  cases outcome with
  | written hasLiteral _ => exact iff_of_true ⟨_, rfl⟩ hasLiteral
  | refused noLiteral => exact iff_of_false nofun noLiteral

/-- A leaf without a literal is refused. -/
theorem literal_leaf_eq_error_iff
    {leaf : Value}
    (isLeaf : leaf.isLeaf = true)
    {error : LiteralError} :
    literal leaf = .error error ↔ ¬ leaf.HasLiteral ∧ error = .ofValue leaf := by
  have outcome := leaf_outcome isLeaf
  generalize literal leaf = result at outcome
  cases outcome with
  | written hasLiteral _ => exact iff_of_false nofun fun refused => refused.1 hasLiteral
  | refused noLiteral =>
      rw [Except.error.injEq, eq_comm]
      exact (and_iff_right noLiteral).symm

/-! ## Literals of flat lists -/

/-- Lists of values are written side by side, up to the first value that is refused. -/
theorem literals_append
    (first second : List Value) :
    literals (first ++ second) =
      match literals first with
      | .error error => .error error
      | .ok lists => (literals second).map (lists ++ ·) := by
  induction first with
  | nil =>
      rw [nil_append, literals]
      cases literals second <;> rfl
  | cons value rest inductionHypothesis =>
      rw [cons_append, literals, literals, inductionHypothesis]
      cases literal value with
      | error error => rfl
      | ok pieces =>
          cases literals rest with
          | error error => rfl
          | ok lists => cases literals second <;> rfl

theorem literals_isOk_iff
    {values : List Value} :
    (∃ lists, literals values = .ok lists) ↔
      ∀ value ∈ values, ∃ pieces, literal value = .ok pieces := by
  induction values with
  | nil =>
      exact iff_of_true ⟨[], rfl⟩ nofun
  | cons value rest inductionHypothesis =>
      rw [forall_mem_cons, ← inductionHypothesis, literals]
      cases literal value with
      | error error => simp
      | ok pieces => cases literals rest <;> simp [Except.map]

theorem literals_cons_eq_error_iff
    {value : Value}
    {rest : List Value}
    {error : LiteralError} :
    literals (value :: rest) = .error error ↔
      literal value = .error error ∨
        (∃ pieces, literal value = .ok pieces) ∧ literals rest = .error error := by
  rw [literals]
  cases literal value with
  | error other => simp
  | ok pieces => cases literals rest <;> simp [Except.map]

/-- A list is refused for the first of its values that is refused. -/
theorem literals_eq_error_iff
    {values : List Value}
    {error : LiteralError} :
    literals values = .error error ↔
      ∃ before value after, values = before ++ value :: after ∧
        (∀ other ∈ before, ∃ pieces, literal other = .ok pieces) ∧
          literal value = .error error := by
  constructor
  · intro refused
    induction values with
    | nil =>
        cases refused
    | cons value rest inductionHypothesis =>
        rcases literals_cons_eq_error_iff.mp refused with isFirst | ⟨written, inRest⟩
        · exact ⟨[], value, rest, rfl, forall_mem_nil _, isFirst⟩
        · obtain ⟨before, first, after, rfl, othersWritten, isFirst⟩ := inductionHypothesis inRest
          exact ⟨value :: before, first, after, rfl,
            forall_mem_cons.mpr ⟨written, othersWritten⟩, isFirst⟩
  · rintro ⟨before, value, after, rfl, written, refused⟩
    obtain ⟨lists, isWritten⟩ := literals_isOk_iff.mpr written
    rw [literals_append, isWritten, literals, refused]
    rfl

/-! ## Nested lists -/

/-- Separated lists side by side are separated by one more separator. -/
theorem Piece.joined_append
    (separator : String)
    {first second : List (List Piece)}
    (firstNonempty : first ≠ [])
    (secondNonempty : second ≠ []) :
    joined separator (first ++ second) =
      joined separator first ++ .bare separator :: joined separator second := by
  induction first with
  | nil =>
      exact absurd rfl firstNonempty
  | cons pieces rest inductionHypothesis =>
      cases rest with
      | nil =>
          obtain ⟨next, more, rfl⟩ := exists_cons_of_ne_nil secondNonempty
          rfl
      | cons next rest =>
          rw [cons_append, cons_append, joined_cons_cons, ← cons_append,
            inductionHypothesis (cons_ne_nil next rest), joined_cons_cons, append_assoc,
            cons_append]

/-- A list in the place of its items changes nothing, because the separators are the same. -/
theorem Piece.joined_cons_joined
    {separator : String}
    {lists more flat : List (List Piece)}
    (nonempty : lists ≠ [])
    (alike : more = [] ↔ flat = [])
    (same : joined separator more = joined separator flat) :
    joined separator (joined separator lists :: more) = joined separator (lists ++ flat) := by
  by_cases nothing : more = []
  · rw [nothing, alike.mp nothing, append_nil]
    rfl
  · rw [← singleton_append, joined_append separator (cons_ne_nil _ _) nothing,
      joined_append separator nonempty (mt alike.mpr nothing), same]
    rfl

/-- Nothing is written only for nothing. -/
theorem literals_eq_nil_iff
    {values : List Value}
    {lists : List (List Piece)}
    (written : literals values = .ok lists) :
    lists = [] ↔ values = [] := by
  have sameLength : values.length = lists.length :=
    (forall₂_literals (motive := fun _ _ => True) (fun _ _ _ _ => trivial) written).length_eq
  rw [← length_eq_zero_iff, ← sameLength, length_eq_zero_iff]

/-- Items that are written as their leaves are written as the leaves of all of them. -/
theorem joined_literals_flatMap
    {items : List Value}
    (asLeaves :
      ∀ item ∈ items,
        literal item = (literals item.leaves).map (Piece.joined itemSeparator)) :
    (literals items).map (Piece.joined itemSeparator) =
      (literals (items.flatMap Value.leaves)).map (Piece.joined itemSeparator) := by
  induction items with
  | nil =>
      rfl
  | cons item rest inductionHypothesis =>
      obtain ⟨itemAsLeaves, restAsLeaves⟩ := forall_mem_cons.mp asLeaves
      have same := inductionHypothesis restAsLeaves
      rw [literals, flatMap_cons, literals_append, itemAsLeaves]
      rcases own : literals item.leaves with error | lists
      · rfl
      rcases others : literals rest with error | more <;>
        rcases leaves : literals (rest.flatMap Value.leaves) with error' | flat <;>
        rw [others, leaves] at same
      · cases same
        rfl
      · cases same
      · cases same
      · have nonempty : lists ≠ [] :=
          mt (literals_eq_nil_iff own).mp item.leaves_ne_nil
        have alike : more = [] ↔ flat = [] := by
          rw [literals_eq_nil_iff others, literals_eq_nil_iff leaves, flatMap_eq_nil_iff,
            eq_nil_iff_forall_not_mem]
          exact forall₂_congr fun next _ => (iff_false_intro next.leaves_ne_nil).symm
        exact congrArg Except.ok
          (Piece.joined_cons_joined nonempty alike (Except.ok.inj same))

/-- A value is written as the flat list of its leaves. -/
theorem literal_eq_leaves
    (value : Value) :
    literal value = (literals value.leaves).map (Piece.joined itemSeparator) := by
  have single
      (leaf : Value) :
      literal leaf = (literals [leaf]).map (Piece.joined itemSeparator) := by
    rw [literals]
    cases literal leaf <;> rfl
  induction value using Value.itemInduction with
  | scalar value notSequence =>
      cases value with
      | sequence kind items => exact (notSequence kind items rfl).elim
      | _ => exact single _
  | sequence kind items inductionHypothesis =>
      rw [Value.leaves]
      split
      · rename_i ordered
        split
        · rename_i empty
          rw [literal, if_pos ordered, if_pos empty]
          rfl
        · rename_i nonempty
          rw [literal, if_pos ordered, if_neg nonempty, Value.leavesOf_eq_flatMap,
            joined_literals_flatMap inductionHypothesis]
      · exact single _

/-- A value is written exactly if each of its leaves has a literal. -/
theorem literal_isOk_iff_leaves
    {value : Value} :
    (∃ pieces, literal value = .ok pieces) ↔ ∀ leaf ∈ value.leaves, leaf.HasLiteral := by
  have leaves :
      (∃ lists, literals value.leaves = .ok lists) ↔ ∀ leaf ∈ value.leaves, leaf.HasLiteral := by
    rw [literals_isOk_iff]
    exact forall₂_congr fun leaf member =>
      literal_leaf_isOk_iff (Value.isLeaf_of_mem_leaves member)
  rw [literal_eq_leaves, ← leaves]
  cases literals value.leaves with
  | error error => exact iff_of_false nofun nofun
  | ok lists => exact iff_of_true ⟨_, rfl⟩ ⟨_, rfl⟩

/-- A value is refused for the first of its leaves without a literal. -/
theorem literal_eq_error_iff
    {value : Value}
    {error : LiteralError} :
    literal value = .error error ↔
      ∃ before leaf after, value.leaves = before ++ leaf :: after ∧
        (∀ other ∈ before, other.HasLiteral) ∧ ¬ leaf.HasLiteral ∧ error = .ofValue leaf := by
  have refused : literal value = .error error ↔ literals value.leaves = .error error := by
    rw [literal_eq_leaves]
    cases literals value.leaves with
    | error other =>
        rw [Except.error.injEq]
        exact Iff.of_eq (Except.error.injEq other error)
    | ok lists => exact iff_of_false nofun nofun
  rw [refused, literals_eq_error_iff]
  refine exists_congr fun before => exists_congr fun leaf => exists_congr fun after =>
    and_congr_right fun split => ?_
  have isLeaf : ∀ other ∈ before ++ leaf :: after, other.isLeaf = true := by
    rw [← split]
    exact fun _ => Value.isLeaf_of_mem_leaves
  refine and_congr (forall₂_congr fun other inBefore => ?_) ?_
  · exact literal_leaf_isOk_iff (isLeaf other (mem_append_left _ inBefore))
  · exact literal_leaf_eq_error_iff (isLeaf leaf (by simp))

/-! ## Texts of literals -/

/-- Separated lists of pieces are written as separated texts. -/
theorem Piece.write_joined
    (dialect : Dialect)
    (separator : String)
    (lists : List (List Piece)) :
    write dialect (joined separator lists) =
      separator.intercalate (lists.map (write dialect)) := by
  induction lists with
  | nil =>
      rfl
  | cons pieces rest inductionHypothesis =>
      cases rest with
      | nil =>
          rw [map_singleton, String.intercalate_singleton]
          rfl
      | cons next rest =>
          rw [joined_cons_cons, map_cons, map_cons, String.intercalate_cons_cons, ← map_cons,
            ← inductionHypothesis]
          simp [write, allChars, chars, String.append_assoc]

/-- The text of a literal is made up of the literals of the leaves. -/
theorem exists_of_literalText
    {dialect : Dialect}
    {value : Value}
    {text : String}
    (written : literalText dialect value = .ok text) :
    ∃ lists, literals value.leaves = .ok lists ∧
      literal value = .ok (Piece.joined itemSeparator lists) ∧
        text = Piece.write dialect (Piece.joined itemSeparator lists) := by
  rw [literalText, literal_eq_leaves] at written
  rw [literal_eq_leaves]
  cases leaves : literals value.leaves with
  | error error =>
      rw [leaves] at written
      cases written
  | ok lists =>
      rw [leaves] at written
      exact ⟨lists, rfl, rfl, (Except.ok.inj written).symm⟩

/-- The characters of a lexeme that is a quoted token. -/
def Lexeme.quotedToken? : Lexeme → Option (List Char)
  | .quoted token => some token
  | _ => none

/-- A quoted token is a content between apostrophes with the escapes of a dialect. -/
def Dialect.Quotes (dialect : Dialect) (token : List Char) (content : String) : Prop :=
  ∃ interior, token = '\'' :: (interior ++ ['\'']) ∧
    dialect.undoEscapes .text interior = content.toList

theorem Dialect.quotes_quote
    (dialect : Dialect)
    (content : String) :
    dialect.Quotes (dialect.textStyle.quote content.toList) content := by
  refine ⟨dialect.escapes .text content.toList, ?_, dialect.undoEscapes_escapes .text _⟩
  rw [← dialect.escape_eq_escapes]
  cases dialect <;> rfl

/-- The quoted tokens of pieces are read as they are written. -/
theorem filterMap_quotedToken?_lexemes
    (dialect : Dialect)
    (pieces : List Piece) :
    (pieces.flatMap (Piece.lexemes dialect)).filterMap Lexeme.quotedToken? =
      (pieces.filterMap Piece.quoted?).map fun (kind, content) =>
        (dialect.style kind).quote content.toList := by
  have characters
      (cs : List Char) :
      (cs.map Lexeme.character).filterMap Lexeme.quotedToken? = [] := by
    simp [filterMap_map, Function.comp_def, Lexeme.quotedToken?]
  rw [filterMap_flatMap, filterMap_eq_flatMap_toList, map_flatMap]
  refine flatMap_congr fun piece _ => ?_
  cases piece with
  | bare text | raw text => exact characters _
  | truth value => exact characters _
  | quoted kind content | placeholder name => rfl

/-- The quoted pieces of written leaves hold the texts of the leaves, in their order. -/
theorem filterMap_quoted?_literals
    {leaves : List Value}
    (areLeaves : ∀ leaf ∈ leaves, leaf.isLeaf = true)
    {lists : List (List Piece)}
    (written : literals leaves = .ok lists) :
    (Piece.joined itemSeparator lists).filterMap Piece.quoted? =
      (leaves.filterMap Value.quotedText?).map (.text, ·) := by
  have each :
      Forall₂
        (fun leaf pieces =>
          pieces.filterMap Piece.quoted? = leaf.quotedText?.toList.map (QuoteKind.text, ·))
        leaves lists := by
    refine forall₂_literals (fun leaf member pieces isLiteral => ?_) written
    have outcome := leaf_outcome (areLeaves leaf member)
    rw [isLiteral] at outcome
    cases outcome with
    | written _ sameText =>
        rw [filterMap_eq_flatMap_toList, flatMap_singleton, sameText]
        cases leaf.quotedText? <;> rfl
  rw [Piece.filterMap_joined rfl, filterMap_eq_flatMap_toList, map_flatMap]
  clear areLeaves written
  induction each with
  | nil => rfl
  | cons same _ inductionHypothesis =>
      rw [flatMap_cons, flatMap_cons, same, inductionHypothesis]

/-! ## The literal of a value -/

/-- How the literal of a value follows from its leaves. -/
structure FollowsLeaves (dialect : Dialect) (value : Value) : Prop where
  /-- No leaf is a list or a tuple. -/
  flat : ∀ leaf ∈ value.leaves, leaf.isLeaf = true
  /-- A value is written exactly if each leaf has a literal. -/
  written :
    (∃ text, literalText dialect value = .ok text) ↔ ∀ leaf ∈ value.leaves, leaf.HasLiteral
  /-- The literal is made up of those of the leaves, with commas between them. -/
  separated :
    ∀ text, literalText dialect value = .ok text →
      ∃ texts,
        Forall₂ (fun leaf own => literalText dialect leaf = .ok own) value.leaves texts ∧
          text = ", ".intercalate texts
  /-- No placeholder and no comment is read in it. -/
  plain :
    ∀ text, literalText dialect value = .ok text →
      ∀ lexeme ∈ Lexeme.scan dialect text.toList,
        (∀ name, lexeme ≠ .placeholder name) ∧ ∀ comment, lexeme ≠ .comment comment
  /-- Its quoted tokens are those of the texts among the leaves, in the same order. -/
  quoted :
    ∀ text, literalText dialect value = .ok text →
      Forall₂ dialect.Quotes
        ((Lexeme.scan dialect text.toList).filterMap Lexeme.quotedToken?)
        (value.leaves.filterMap Value.quotedText?)
  /-- What is refused is the first leaf without a literal; the error shows it, unless an integer in
  it is too long. -/
  refused :
    ∀ error, literalText dialect value = .error error ↔
      ∃ before leaf after, value.leaves = before ++ leaf :: after ∧
        (∀ other ∈ before, other.HasLiteral) ∧ ¬ leaf.HasLiteral ∧ error = .ofValue leaf

/-- A text is written exactly if pieces are. -/
theorem literalText_isOk_iff
    {dialect : Dialect}
    {value : Value} :
    (∃ text, literalText dialect value = .ok text) ↔ ∃ pieces, literal value = .ok pieces := by
  rw [literalText]
  cases literal value with
  | error error => exact iff_of_false nofun nofun
  | ok pieces => exact iff_of_true ⟨_, rfl⟩ ⟨_, rfl⟩

/-- A text is refused exactly if pieces are, and for the same reason. -/
theorem literalText_eq_error_iff
    {dialect : Dialect}
    {value : Value}
    {error : LiteralError} :
    literalText dialect value = .error error ↔ literal value = .error error := by
  rw [literalText]
  cases literal value with
  | error other =>
      rw [Except.error.injEq]
      exact Iff.of_eq (Except.error.injEq other error)
  | ok pieces => exact iff_of_false nofun nofun

/-- Every value, however deep its lists are nested, is written by its leaves. -/
theorem literalText_followsLeaves
    (dialect : Dialect)
    (value : Value) :
    FollowsLeaves dialect value where
  flat _ := Value.isLeaf_of_mem_leaves
  written := literalText_isOk_iff.trans literal_isOk_iff_leaves
  separated text written := by
    obtain ⟨lists, isLeaves, _, rfl⟩ := exists_of_literalText written
    refine ⟨lists.map (Piece.write dialect), ?_, Piece.write_joined dialect _ lists⟩
    rw [forall₂_map_right_iff]
    refine forall₂_literals (fun leaf _ pieces isLiteral => ?_) isLeaves
    rw [literalText, isLiteral]
    rfl
  plain text written := by
    obtain ⟨lists, _, isLiteral, rfl⟩ := exists_of_literalText written
    rw [Piece.toList_write]
    intro lexeme member
    have ofLiteral := (Lexeme.scan_literal dialect isLiteral).1.parts lexeme member
    constructor
    · rintro name rfl
      exact ofLiteral
    · rintro comment rfl
      exact ofLiteral
  quoted text written := by
    obtain ⟨lists, isLeaves, isLiteral, rfl⟩ := exists_of_literalText written
    rw [Piece.toList_write, Lexeme.scan_allChars dialect (tidy_literal isLiteral),
      filterMap_quotedToken?_lexemes,
      filterMap_quoted?_literals (fun _ => Value.isLeaf_of_mem_leaves) isLeaves, map_map,
      forall₂_map_left_iff, forall₂_same]
    exact fun content _ => dialect.quotes_quote content
  refused _ := literalText_eq_error_iff.trans literal_eq_error_iff

example :
    literalText .postgres
        (.sequence .list [.sequence .tuple [.bool true, .sequence .list []], .text "it's"]) =
      .ok "TRUE, NULL, 'it''s'" := by
  rfl

end Sql

end QueryGateway
