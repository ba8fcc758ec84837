import QueryGateway.Proofs.DumpedRecords
import QueryGateway.Proofs.FilterTree
import QueryGateway.Proofs.LiteralPieces

/-!
# Reading filters that were written

A filter is read back from its document, operand by operand and child by child.
A constant comes back as the very value that it was, of its own type, as long as
it is a closed value.
-/

namespace QueryGateway

open List Document

/-! ## Closed constants -/

/-- Whether the constant that an operand may be is a closed value. -/
def Operand.isClosed : Operand → Bool
  | .literal value => value.isClosed
  | .column .. | .parameter _ => true

/-- Whether the constants of a filter are closed values. -/
def Filter.isClosed (filter : Filter) : Bool :=
  filter.operands.all Operand.isClosed

/-- Literals are read one by one. -/
theorem readLiterals_eq_indexed
    (index : Nat)
    (items : List Value) :
    readLiterals index items = Checked.indexed readLiteral index items := by
  induction items generalizing index with
  | nil =>
      rfl
  | cons item rest inductionHypothesis =>
      rw [readLiterals, Checked.indexed, inductionHypothesis]

/-- A closed value is read as itself. -/
theorem readLiteral_of_closed
    {value : Value}
    (closed : value.isClosed = true) :
    readLiteral value = .ok value := by
  induction value using Value.itemInduction with
  | scalar value notSequence =>
      cases value with
      | null | bool | int | text =>
          rfl
      | float value | decimal value =>
          simp only [Value.isClosed] at closed
          simp [readLiteral, closed]
      | sequence kind items =>
          exact absurd rfl (notSequence kind items)
      | textual | bytes | typeName | foreign | mapping =>
          cases closed
  | sequence kind items inductionHypothesis =>
      cases kind with
      | tuple | set | frozenSet =>
          cases closed
      | list =>
          rw [Value.isClosed, Value.areClosed_eq_all, all_eq_true] at closed
          have itemsRead :=
            Checked.indexed_map
              (fun item member => inductionHypothesis item member (closed item member)) 0
          rw [map_id'] at itemsRead
          rw [readLiteral, readLiterals_eq_indexed, itemsRead]

/-! ## Parts that may hold nothing -/

/-- What is read back from what it is written as is also read back where it may be absent. -/
theorem readOptional_map
    {write : α → Value}
    {read : Value → Checked α}
    {held : Option α}
    (isRead : ∀ part ∈ held, read (write part) = .ok part)
    (notNull : ∀ part, (write part).isNull = false) :
    readOptional read ((held.map write).getD .null) = .ok held := by
  cases held with
  | none =>
      rfl
  | some part =>
      have isPart := isRead part rfl
      have isThere := notNull part
      rw [Option.map_some, Option.getD_some]
      generalize write part = value at isPart isThere
      unfold readOptional
      split
      · cases isThere
      · rw [isPart]
        rfl

/-- A text that may be missing is read back. -/
theorem readOptional_ofText?
    (held : Option String) :
    readOptional readText (.ofText? held) = .ok held := by
  cases held <;> rfl

/-- A number that may be missing is read back. -/
theorem readOptional_ofInt?
    (held : Option Int) :
    readOptional readInt (.ofInt? held) = .ok held := by
  cases held <;> rfl

/-- A choice that may be missing is read back from its name. -/
theorem readOptional_choice
    {choices : List α}
    {nameOf : α → String}
    (isRead : ∀ choice, readChoice choices nameOf (.text (nameOf choice)) = .ok choice)
    (held : Option α) :
    readOptional (readChoice choices nameOf) (.ofText? (held.map nameOf)) =
      .ok held := by
  cases held with
  | none =>
      rfl
  | some choice =>
      rw [Option.map_some, Value.ofText?, readOptional, isRead]
      · rfl
      · rintro ⟨⟩

/-- A comparison is read from its name. -/
theorem ComparisonOp.readChoice_name
    (operator : ComparisonOp) :
    readChoice all name (.text operator.name) = .ok operator := by
  cases operator <;> rfl

/-- A connective is read from its name. -/
theorem LogicalOp.readChoice_name
    (operator : LogicalOp) :
    readChoice all name (.text operator.name) = .ok operator := by
  cases operator <;> rfl

namespace DumpStyle

variable {style : DumpStyle} {fields : List Field} {parts : List (Field × Value)}
variable (fills : Fills fields parts) (field : Field)

include fills

/-- A text that may be missing is read from its entry. -/
theorem optionalText_entries
    (held : Option String)
    (member : (field, .ofText? held) ∈ parts) :
    optionalText field (style.entries parts) = .ok held :=
  nullable_entries fills member (readOptional_ofText? held)

/-- A flag is read from its entry. -/
theorem optionalFlag_entries
    (flag : Bool)
    (member : (field, .bool flag) ∈ parts) :
    optionalFlag field (style.entries parts) = .ok flag := by
  apply optional_entries fills member
  · rfl
  · rintro ⟨⟩

end DumpStyle

open DumpStyle

/-! ## Operands -/

namespace Operand

/-- The tag of an operand. -/
def tag : Operand → String
  | .column .. => "COLUMN"
  | .literal _ => "LITERAL"
  | .parameter _ => "PARAM"

/-- The fields of an operand behind its tag, with their values. -/
def fieldValues : Operand → List (Field × Value)
  | .column table name =>
      [(tableField, .ofText? table), (columnField, .ofText? name)]
  | .literal value => [(.simple "value", value)]
  | .parameter name => [(.simple "name", .ofText? name)]

/-- The entries of an operand. -/
def entries (style : DumpStyle) (operand : Operand) : Entries :=
  style.entries ((typeField, .text operand.tag) :: operand.fieldValues)

/-- A dumped operand is a mapping of its fields. -/
theorem dump_eq
    (style : DumpStyle)
    (operand : Operand) :
    operand.dump style = .mapping (operand.entries style) := by
  rw [entries, ← record_eq]
  cases operand <;> simp [dump, tag, fieldValues]

/-- An operand is read by its tag. -/
theorem readOperand_tag
    (style : DumpStyle)
    (operand : Operand) :
    readOperand (operand.dump style) =
      readOperandAs operand.tag (operand.entries style) := by
  have isKind : (operandKinds.map Prod.fst).contains operand.tag = true := by
    cases operand <;> rfl
  rw [dump_eq, readOperand, entries, readTag_entries isKind]
  rfl

/-- An operand is read back. -/
theorem readOperand_dump
    (style : DumpStyle)
    {operand : Operand}
    (closed : operand.isClosed = true) :
    readOperand (operand.dump style) = .ok operand := by
  rw [readOperand_tag]
  cases operand with
  | column table name =>
      have fills :
          Fills [typeField, tableField, columnField]
            ((typeField, .text "COLUMN") :: (column table name).fieldValues) :=
        ⟨rfl, by decide⟩
      rw [tag, readOperandAs, if_pos rfl]
      apply readTagged_entries fills
      rw [optionalText_entries fills tableField table (by simp [fieldValues]),
        optionalText_entries fills columnField name (by simp [fieldValues])]
      rfl
  | literal value =>
      have fills :
          Fills [typeField, .simple "value"]
            ((typeField, .text "LITERAL") :: (literal value).fieldValues) :=
        ⟨rfl, by decide⟩
      have ifNull : value.isNull = true → Value.null = value := by
        cases value <;> simp [Value.isNull]
      rw [tag, readOperandAs, if_neg (by decide), if_pos rfl]
      apply readTagged_entries fills
      rw [optional_entries fills (by simp [fieldValues]) (readLiteral_of_closed closed) ifNull]
      rfl
  | parameter name =>
      have fills :
          Fills [typeField, .simple "name"]
            ((typeField, .text "PARAM") :: (parameter name).fieldValues) :=
        ⟨rfl, by decide⟩
      rw [tag, readOperandAs, if_neg (by decide), if_neg (by decide)]
      apply readTagged_entries fills
      rw [optionalText_entries fills _ name (by simp [fieldValues])]
      rfl

end Operand

/-- An operand that may be missing is read from its entry. -/
theorem optionalOperand_entries
    {style : DumpStyle}
    {fields : List Field}
    {parts : List (Field × Value)}
    (fills : Fills fields parts)
    (name : String)
    (held : Option Operand)
    (closed : held.toList.all Operand.isClosed = true)
    (member : (.simple name, dumpOperand? style held) ∈ parts) :
    optionalOperand name (style.entries parts) = .ok held := by
  apply nullable_entries fills member
  have written :
      dumpOperand? style held = (held.map (Operand.dump style)).getD .null := by
    cases held <;> rfl
  rw [written]
  apply readOptional_map
  · intro operand isHeld
    rw [all_eq_true] at closed
    exact operand.readOperand_dump style (closed operand (Option.mem_toList.mpr isHeld))
  · intro operand
    rw [Operand.dump_eq]
    rfl

/-- The operands of a list are read back from their dumps. -/
theorem readOptional_dumpOperands?
    (style : DumpStyle)
    {held : Option (List Operand)}
    (closed : (held.getD []).all Operand.isClosed = true) :
    readOptional (readItems .tupleType readOperand) (dumpOperands? style held) =
      .ok held := by
  cases held with
  | none =>
      rfl
  | some operands =>
      rw [Option.getD_some, all_eq_true] at closed
      have isRead :=
        Checked.indexed_map
          (fun operand member => Operand.readOperand_dump style (closed operand member)) 0
      rw [dumpOperands?, readOptional, readItems, itemsOf?]
      · dsimp only
        rw [isRead]
        rfl
      · rintro ⟨⟩

/-! ## Filters -/

namespace Filter

/-- The tag of a filter. -/
def tag : Filter → String
  | .comparison .. => "COMPARISON"
  | .logical .. => "LOGICAL"
  | .membership .. => "IN"
  | .between .. => "BETWEEN"
  | .isNull .. => "IS_NULL"
  | .isNotNull .. => "IS_NOT_NULL"
  | .like .. => "LIKE"

/-- The fields of a filter behind its tag, with their values. -/
def fieldValues (style : DumpStyle) : Filter → List (Field × Value)
  | .comparison left operator right negate =>
      [(.simple "left", dumpOperand? style left),
        (.simple "operator", .ofText? (operator.map ComparisonOp.name)),
        (.simple "right", dumpOperand? style right), (negateField, .bool negate)]
  | .logical operator children negate =>
      [(⟨"logicalOp", "logical_op"⟩, .ofText? (operator.map LogicalOp.name)),
        (childrenField, (children.map fun children =>
          Value.tuple (dumpFilters style children)).getD .null),
        (negateField, .bool negate)]
  | .membership column values negate =>
      [(columnField, dumpOperand? style column),
        (valuesField, dumpOperands? style values), (negateField, .bool negate)]
  | .between column low high negate =>
      [(columnField, dumpOperand? style column),
        (.simple "low", dumpOperand? style low),
        (.simple "high", dumpOperand? style high), (negateField, .bool negate)]
  | .isNull column negate | .isNotNull column negate =>
      [(columnField, dumpOperand? style column), (negateField, .bool negate)]
  | .like column pattern negate =>
      [(columnField, dumpOperand? style column),
        (.simple "pattern", .ofText? pattern), (negateField, .bool negate)]

/-- The entries of a filter. -/
def entries (style : DumpStyle) (filter : Filter) : Entries :=
  style.entries ((typeField, .text filter.tag) :: filter.fieldValues style)

/-- A dumped filter is a mapping of its fields. -/
theorem dump_eq
    (style : DumpStyle)
    (filter : Filter) :
    filter.dump style = .mapping (filter.entries style) := by
  rw [entries, ← record_eq]
  cases filter with
  | logical operator children negate =>
      cases children <;> simp [dump, tag, fieldValues]
  | _ =>
      simp [dump, tag, fieldValues]

/-- A filter is read by its tag, its children first. -/
theorem readFilter_tag
    (style : DumpStyle)
    (filter : Filter) :
    readFilter (filter.dump style) =
      readFilterAs filter.tag (readChildrenField (filter.entries style))
        (filter.entries style) := by
  have isKind : (filterKinds.map Prod.fst).contains filter.tag = true := by
    cases filter <;> rfl
  rw [dump_eq, readFilter, entries, readTag_entries isKind]
  rfl

end Filter

/-- Filters are dumped one by one. -/
theorem dumpFilters_eq_map
    (style : DumpStyle)
    (filters : List Filter) :
    dumpFilters style filters = filters.map (Filter.dump style) := by
  induction filters with
  | nil =>
      rfl
  | cons filter rest inductionHypothesis =>
      rw [dumpFilters, map_cons, inductionHypothesis]

/-- Filters are read one by one. -/
theorem readFilterItems_eq_indexed
    (index : Nat)
    (items : List Value) :
    readFilterItems index items = Checked.indexed readFilter index items := by
  induction items generalizing index with
  | nil =>
      rw [readFilterItems]
      rfl
  | cons item rest inductionHypothesis =>
      rw [readFilterItems, Checked.indexed, inductionHypothesis]

/-- Filters that are read back one by one are read back from a container. -/
theorem readFilterItems_dumpFilters
    {style : DumpStyle}
    {filters : List Filter}
    (isRead : ∀ filter ∈ filters, readFilter (filter.dump style) = .ok filter) :
    readFilterItems 0 (dumpFilters style filters) = .ok filters := by
  rw [readFilterItems_eq_indexed, dumpFilters_eq_map]
  exact Checked.indexed_map isRead 0

/-- The children of a filter are read as an optional field. -/
theorem readChildrenField_eq_optional
    (entries : Entries) :
    readChildrenField entries = childrenField.optional none readChildren entries := by
  rw [Field.optional, Field.given?_simple]
  -- Both ways of reading stop at the first key that is the text they look for.
  induction entries with
  | nil =>
      rw [readChildrenField]
      rfl
  | cons entry rest inductionHypothesis =>
      obtain ⟨key, value⟩ := entry
      by_cases isChildren : key = .text "children"
      · subst isChildren
        rw [readChildrenField]
        simp [Value.field?, Field.simple]
      · rw [readChildrenField, inductionHypothesis]
        · cases key with
          | text name =>
              have different : name ≠ "children" := by
                rintro rfl
                exact isChildren rfl
              simp [Value.field?, different]
          | _ =>
              rfl
        · rintro value' ⟨⟩
          exact isChildren rfl

/-- Filters that are read back are read back as children. -/
theorem readChildren_dumpFilters
    {style : DumpStyle}
    {children : List Filter}
    (isRead : ∀ child ∈ children, readFilter (child.dump style) = .ok child) :
    readChildren (.tuple (dumpFilters style children)) = .ok (some children) := by
  rw [readChildren, readFilterItems_dumpFilters isRead]
  rfl

/-- A connective is read back if its children are. -/
theorem Filter.readFilter_logical
    (style : DumpStyle)
    (operator : Option LogicalOp)
    {children : Option (List Filter)}
    (negate : Bool)
    (isRead :
      readChildren ((children.map fun children =>
        Value.tuple (dumpFilters style children)).getD .null) = .ok children) :
    readFilter ((logical operator children negate).dump style) =
      .ok (.logical operator children negate) := by
  have fills :
      Fills [typeField, ⟨"logicalOp", "logical_op"⟩, childrenField, negateField]
        ((typeField, .text "LOGICAL") ::
          (logical operator children negate).fieldValues style) :=
    ⟨rfl, by decide⟩
  have childrenRead :
      readChildrenField ((logical operator children negate).entries style) =
        .ok children := by
    rw [readChildrenField_eq_optional]
    refine optional_entries fills (by simp [fieldValues]) isRead ?_
    cases children <;> simp [Value.isNull]
  rw [readFilter_tag, childrenRead]
  simp only [tag, readFilterAs, String.reduceEq, ↓reduceIte]
  apply readTagged_entries fills
  rw [nullable_entries fills (by simp [fieldValues])
      (readOptional_choice LogicalOp.readChoice_name operator),
    optionalFlag_entries fills _ negate (by simp [fieldValues])]
  rfl

/-- What is asked of one operand alone is read back. -/
theorem Filter.readTagged_unary
    (style : DumpStyle)
    {tag : String}
    (build : Option Operand → Bool → Filter)
    {column : Option Operand}
    (closed : column.toList.all Operand.isClosed = true)
    (negate : Bool) :
    readTagged tag [columnField, negateField]
        (fun entries =>
          (Checked.and (.ok build) (optionalOperand "column" entries)).and
            (optionalFlag negateField entries))
        (style.entries
          [(typeField, .text tag), (columnField, dumpOperand? style column),
            (negateField, .bool negate)]) =
      .ok (build column negate) := by
  have fills :
      Fills [typeField, columnField, negateField]
        [(typeField, .text tag), (columnField, dumpOperand? style column),
          (negateField, .bool negate)] :=
    ⟨rfl, by decide⟩
  apply readTagged_entries fills
  rw [optionalOperand_entries fills _ column closed (by simp),
    optionalFlag_entries fills _ negate (by simp)]
  rfl

/-- A filter is read back. -/
theorem Filter.readFilter_dump
    (style : DumpStyle)
    {filter : Filter}
    (closed : filter.isClosed = true) :
    readFilter (filter.dump style) = .ok filter := by
  induction filter with
  | comparison left operator right negate =>
      have fills :
          Fills
            [typeField, .simple "left", .simple "operator", .simple "right", negateField]
            ((typeField, .text "COMPARISON") ::
              (comparison left operator right negate).fieldValues style) :=
        ⟨rfl, by decide⟩
      rw [isClosed, operands, all_append, Bool.and_eq_true] at closed
      simp only [readFilter_tag, tag, readFilterAs, ↓reduceIte]
      apply readTagged_entries fills
      rw [optionalOperand_entries fills _ left closed.1 (by simp [fieldValues]),
        nullable_entries fills (by simp [fieldValues])
          (readOptional_choice ComparisonOp.readChoice_name operator),
        optionalOperand_entries fills _ right closed.2 (by simp [fieldValues]),
        optionalFlag_entries fills _ negate (by simp [fieldValues])]
      rfl
  | childless operator negate =>
      apply readFilter_logical
      rw [Option.map_none, Option.getD_none, readChildren]
  | logical operator children negate inductionHypothesis =>
      rw [isClosed, operands, childOperands_eq_flatMap, all_flatMap, all_eq_true]
        at closed
      apply readFilter_logical
      exact readChildren_dumpFilters fun child member =>
        inductionHypothesis child member (closed child member)
  | membership column values negate =>
      have fills :
          Fills [typeField, columnField, valuesField, negateField]
            ((typeField, .text "IN") ::
              (membership column values negate).fieldValues style) :=
        ⟨rfl, by decide⟩
      rw [isClosed, operands, all_append, Bool.and_eq_true] at closed
      simp only [readFilter_tag, tag, readFilterAs, String.reduceEq, ↓reduceIte]
      apply readTagged_entries fills
      rw [optionalOperand_entries fills _ column closed.1 (by simp [fieldValues]),
        nullable_entries fills (by simp [fieldValues])
          (readOptional_dumpOperands? style closed.2),
        optionalFlag_entries fills _ negate (by simp [fieldValues])]
      rfl
  | between column low high negate =>
      have fills :
          Fills [typeField, columnField, .simple "low", .simple "high", negateField]
            ((typeField, .text "BETWEEN") ::
              (between column low high negate).fieldValues style) :=
        ⟨rfl, by decide⟩
      rw [isClosed, operands, all_append, all_append, Bool.and_eq_true,
        Bool.and_eq_true] at closed
      simp only [readFilter_tag, tag, readFilterAs, String.reduceEq, ↓reduceIte]
      apply readTagged_entries fills
      rw [optionalOperand_entries fills _ column closed.1.1 (by simp [fieldValues]),
        optionalOperand_entries fills _ low closed.1.2 (by simp [fieldValues]),
        optionalOperand_entries fills _ high closed.2 (by simp [fieldValues]),
        optionalFlag_entries fills _ negate (by simp [fieldValues])]
      rfl
  | isNull column negate =>
      rw [isClosed, operands] at closed
      simp only [readFilter_tag, tag, readFilterAs, String.reduceEq, ↓reduceIte]
      exact readTagged_unary style isNull closed negate
  | isNotNull column negate =>
      rw [isClosed, operands] at closed
      simp only [readFilter_tag, tag, readFilterAs, String.reduceEq, ↓reduceIte]
      exact readTagged_unary style isNotNull closed negate
  | like column pattern negate =>
      have fills :
          Fills [typeField, columnField, .simple "pattern", negateField]
            ((typeField, .text "LIKE") :: (like column pattern negate).fieldValues style) :=
        ⟨rfl, by decide⟩
      rw [isClosed, operands] at closed
      simp only [readFilter_tag, tag, readFilterAs, String.reduceEq, ↓reduceIte]
      apply readTagged_entries fills
      rw [optionalOperand_entries fills _ column closed (by simp [fieldValues]),
        optionalText_entries fills _ pattern (by simp [fieldValues]),
        optionalFlag_entries fills _ negate (by simp [fieldValues])]
      rfl

end QueryGateway
