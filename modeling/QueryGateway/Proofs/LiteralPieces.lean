import QueryGateway.Proofs.NumberText
import QueryGateway.Sql.Literal

/-!
# What becomes of a value in a statement

`literal` either writes a value or names what cannot be written.  Its outcome
is described once, by `LiteralOutcome`: which values are written, that the
pieces written are tidy and hold no placeholder, and which of the two failures
a value can meet.
-/

namespace QueryGateway

open List Sql

/-! ## Lists between separators -/

namespace Sql.Piece

theorem joined_concat
    (separator : String)
    {lists : List (List Piece)}
    (nonempty : lists ≠ [])
    (last : List Piece) :
    joined separator (lists ++ [last]) =
      joined separator lists ++ .bare separator :: last := by
  induction lists with
  | nil =>
      exact absurd rfl nonempty
  | cons pieces rest inductionHypothesis =>
      cases rest with
      | nil =>
          rfl
      | cons next rest =>
          rw [cons_append, cons_append, joined_cons_cons, joined_cons_cons,
            ← cons_append, inductionHypothesis (cons_ne_nil next rest),
            append_assoc, cons_append]

/-- What is taken from lists of pieces is taken list by list if nothing is taken from the separator
between them. -/
theorem filterMap_joined
    {extract : Piece → Option β}
    {separator : String}
    (passedOver : extract (.bare separator) = none)
    (lists : List (List Piece)) :
    (joined separator lists).filterMap extract =
      lists.flatMap (filterMap extract) := by
  induction lists with
  | nil =>
      rfl
  | cons pieces rest inductionHypothesis =>
      cases rest with
      | nil =>
          simp [joined]
      | cons next rest =>
          rw [joined_cons_cons, filterMap_append, filterMap_cons_none passedOver,
            inductionHypothesis, ← flatMap_cons]

/-! ## Dividing texts -/

instance : DecidablePred Sound
  | .bare text => inferInstanceAs (Decidable (text.toList ≠ [] ∧ Calm text.toList))
  | .raw text => inferInstanceAs (Decidable (text.toList ≠ [] ∧ Calm text.toList))
  | .placeholder name => inferInstanceAs (Decidable (isName name.toList = true))
  | .truth _ => isTrue trivial
  | .quoted _ _ => isTrue trivial

/-- Bare text that keeps apart what stands after it. -/
structure Opens (text : String) : Prop where
  sound : (Piece.bare text).Sound
  ends : (Piece.bare text).endsApart = true

/-- Bare text that keeps apart what stands before it. -/
structure Closes (text : String) : Prop where
  sound : (Piece.bare text).Sound
  starts : (Piece.bare text).startsApart = true

/-- Bare text that keeps apart what stands before it and after it. -/
structure Divides (text : String) : Prop extends Opens text, Closes text

instance (text : String) : Decidable (Opens text) :=
  decidable_of_iff
    ((Piece.bare text).Sound ∧ (Piece.bare text).endsApart = true)
    ⟨fun both => ⟨both.1, both.2⟩, fun opens => ⟨opens.sound, opens.ends⟩⟩

instance (text : String) : Decidable (Closes text) :=
  decidable_of_iff
    ((Piece.bare text).Sound ∧ (Piece.bare text).startsApart = true)
    ⟨fun both => ⟨both.1, both.2⟩, fun closes => ⟨closes.sound, closes.starts⟩⟩

instance (text : String) : Decidable (Divides text) :=
  decidable_of_iff (Opens text ∧ Closes text)
    ⟨fun both => ⟨both.1, both.2.starts⟩,
      fun divides => ⟨divides.toOpens, divides.toCloses⟩⟩

theorem opens_parenthesis :
    Opens "(" := by
  decide

theorem closes_parenthesis :
    Closes ")" := by
  decide

namespace Tidy

/-- Tidy lists stay tidy with a dividing text between them. -/
theorem divided
    {text : String}
    (divides : Divides text)
    {first second : List Piece}
    (firstTidy : Tidy first)
    (secondTidy : Tidy second) :
    Tidy (first ++ .bare text :: second) := by
  apply firstTidy.append
  · apply (singleton divides.sound).append secondTidy
    intro x last y _
    simp only [getLast?_singleton, Option.mem_some_iff] at last
    exact Or.inl (last ▸ divides.ends)
  · intro x _ y next
    simp only [head?_cons, Option.mem_some_iff] at next
    exact Or.inr (next ▸ divides.starts)

/-- Tidy lists with a dividing text between each two are tidy. -/
theorem joined
    {separator : String}
    (divides : Divides separator)
    {lists : List (List Piece)}
    (tidy : ∀ pieces ∈ lists, Tidy pieces) :
    Tidy (Piece.joined separator lists) := by
  induction lists with
  | nil =>
      exact .nil
  | cons pieces rest inductionHypothesis =>
      have firstTidy := tidy pieces (by simp)
      have restTidy := inductionHypothesis fun other member =>
        tidy other (by simp [member])
      cases rest with
      | nil =>
          exact firstTidy
      | cons next rest =>
          exact firstTidy.divided divides restTidy

end Tidy

end Sql.Piece

/-! ## Values that can be written -/

namespace Value

/-- Induction over values, with the hypothesis for each item of a container. -/
@[elab_as_elim]
theorem itemInduction
    {motive : Value → Prop}
    (scalar :
      ∀ value, (∀ kind items, value ≠ .sequence kind items) → motive value)
    (sequence :
      ∀ kind items, (∀ item ∈ items, motive item) →
        motive (.sequence kind items)) :
    ∀ value, motive value
  | .sequence kind items =>
      sequence kind items fun item _ => itemInduction scalar sequence item
  | .null => scalar _ (by simp)
  | .bool _ => scalar _ (by simp)
  | .int _ => scalar _ (by simp)
  | .float _ => scalar _ (by simp)
  | .decimal _ => scalar _ (by simp)
  | .text _ => scalar _ (by simp)
  | .textual _ => scalar _ (by simp)
  | .bytes _ _ => scalar _ (by simp)
  | .typeName _ => scalar _ (by simp)
  | .foreign _ => scalar _ (by simp)
  | .mapping _ => scalar _ (by simp)

mutual

/-- Whether a value is of a kind that can be written: nothing, a truth value, an integer, a finite
number, a text, a time or identifier, or a list or tuple of such values. -/
def isRenderable : Value → Bool
  | .null | .bool _ | .int _ | .text _ | .textual _ => true
  | .float value => value.isFinite
  | .decimal value => value.isFinite
  | .sequence kind items => kind.isOrdered && areRenderable items
  | .bytes .. | .typeName _ | .foreign _ | .mapping _ => false

/-- Whether all values of a list are of a kind that can be written. -/
def areRenderable : List Value → Bool
  | [] => true
  | value :: rest => value.isRenderable && areRenderable rest

end

end Value

namespace Sql

/-- What may become of a value: it is written in tidy pieces without a placeholder, or it is of a
kind that cannot be written, or an integer in it is too long. -/
inductive LiteralOutcome (value : Value) :
    Except LiteralError (List Piece) → Prop where
  | written {pieces : List Piece} :
      value.isRenderable = true →
      value.hasShortIntegers = true →
      Piece.Tidy pieces →
      pieces.filterMap Piece.name? = [] →
      LiteralOutcome value (.ok pieces)
  | unsupported {part : Value} :
      value.isRenderable = false →
      LiteralOutcome value (.error (.unsupported part))
  | longInteger :
      value.hasShortIntegers = false →
      LiteralOutcome value (.error .longInteger)

/-- What may become of the items of a list. -/
inductive LiteralsOutcome (values : List Value) :
    Except LiteralError (List (List Piece)) → Prop where
  | written {lists : List (List Piece)} :
      Value.areRenderable values = true →
      Value.haveShortIntegers values = true →
      (∀ pieces ∈ lists,
        Piece.Tidy pieces ∧ pieces.filterMap Piece.name? = []) →
      LiteralsOutcome values (.ok lists)
  | unsupported {part : Value} :
      Value.areRenderable values = false →
      LiteralsOutcome values (.error (.unsupported part))
  | longInteger :
      Value.haveShortIntegers values = false →
      LiteralsOutcome values (.error .longInteger)

/-- The outcome for a list follows from the outcomes for its items, the first failure counting. -/
theorem literals_outcome
    {values : List Value}
    (outcomes : ∀ value ∈ values, LiteralOutcome value (literal value)) :
    LiteralsOutcome values (literals values) := by
  induction values with
  | nil =>
      exact .written rfl rfl (by simp)
  | cons value rest inductionHypothesis =>
      have restOutcome := inductionHypothesis fun other member =>
        outcomes other (by simp [member])
      have outcome := outcomes value (by simp)
      rw [literals]
      generalize literal value = first at outcome
      cases outcome with
      | unsupported notRenderable =>
          exact .unsupported (by simp [Value.areRenderable, notRenderable])
      | longInteger long =>
          exact .longInteger (by simp [Value.haveShortIntegers, long])
      | written renderable short tidy noNames =>
          dsimp only
          generalize literals rest = others at restOutcome
          cases restOutcome with
          | unsupported notRenderable =>
              exact .unsupported (by
                simp [Value.areRenderable, notRenderable])
          | longInteger long =>
              exact .longInteger (by
                simp [Value.haveShortIntegers, long])
          | written restRenderable restShort restWritten =>
              refine .written
                (by simp [Value.areRenderable, renderable, restRenderable])
                (by simp [Value.haveShortIntegers, short, restShort]) ?_
              intro pieces member
              rcases mem_cons.mp member with rfl | inRest
              · exact ⟨tidy, noNames⟩
              · exact restWritten pieces inRest

theorem itemSeparator_divides :
    Piece.Divides itemSeparator := by
  decide

theorem nullLiteral_tidy :
    Piece.Tidy nullLiteral :=
  .singleton (by decide)

/-- A value that is refused is shown in the error, so it may be too long for that. -/
theorem LiteralOutcome.refused
    {value : Value}
    (notRenderable : value.isRenderable = false) :
    LiteralOutcome value (.error (.ofValue value)) := by
  rw [LiteralError.ofValue]
  split
  · exact .unsupported notRenderable
  · rename_i long
    exact .longInteger (by simpa using long)

/-- What becomes of any value. -/
theorem literal_outcome
    (value : Value) :
    LiteralOutcome value (literal value) := by
  induction value using Value.itemInduction with
  | scalar value notSequence =>
      cases value with
      | null =>
          exact .written rfl rfl nullLiteral_tidy rfl
      | bool value =>
          exact .written rfl rfl (.singleton trivial) rfl
      | int value =>
          rw [literal]
          split
          · rename_i short
            exact .written rfl short (.singleton (Numeral.ofInt_sound value)) rfl
          · rename_i long
            exact .longInteger (by simpa [Value.hasShortIntegers] using long)
      | float value =>
          rw [literal]
          split
          · rename_i finite
            exact .written finite rfl (.singleton (Binary64.text_sound finite)) rfl
          · rename_i notFinite
            exact .refused (by simpa [Value.isRenderable] using notFinite)
      | decimal value =>
          rw [literal]
          split
          · rename_i finite
            exact .written finite rfl (.singleton (Decimal.text_sound finite)) rfl
          · rename_i notFinite
            exact .refused (by simpa [Value.isRenderable] using notFinite)
      | text value =>
          exact .written rfl rfl (.singleton trivial) rfl
      | textual value =>
          exact .written rfl rfl (.singleton trivial) rfl
      | bytes kind data =>
          exact .refused rfl
      | typeName name =>
          exact .refused rfl
      | foreign text =>
          exact .refused rfl
      | sequence kind items =>
          exact (notSequence kind items rfl).elim
      | mapping entries =>
          exact .refused rfl
  | sequence kind items outcomes =>
      rw [literal]
      split
      · rename_i ordered
        split
        · rename_i empty
          have noItems : items = [] := by simpa using empty
          subst items
          exact .written (by simp [Value.isRenderable, ordered, Value.areRenderable])
            rfl nullLiteral_tidy rfl
        · have outcome := literals_outcome outcomes
          generalize literals items = lists at outcome
          cases outcome with
          | written renderable short written =>
              refine .written
                (by simp [Value.isRenderable, ordered, renderable]) short
                (.joined itemSeparator_divides fun pieces member =>
                  (written pieces member).1)
                (by
                  rw [Piece.filterMap_joined rfl, flatMap_eq_nil_iff]
                  exact fun pieces member => (written pieces member).2)
          | unsupported notRenderable =>
              exact .unsupported (by
                simp [Value.isRenderable, notRenderable])
          | longInteger long =>
              exact .longInteger long
      · rename_i unordered
        exact .refused (by simp [Value.isRenderable, unordered])

/-- A value that is written is written in tidy pieces. -/
theorem tidy_literal
    {value : Value}
    {pieces : List Piece}
    (written : literal value = .ok pieces) :
    Piece.Tidy pieces := by
  have outcome := literal_outcome value
  rw [written] at outcome
  cases outcome with
  | written _ _ tidy _ => exact tidy

/-- A value is written exactly if it is of a kind that can be written and its integers are short. -/
theorem literal_isOk_iff
    (value : Value) :
    (∃ pieces, literal value = .ok pieces) ↔
      value.isRenderable = true ∧ value.hasShortIntegers = true := by
  have outcome := literal_outcome value
  generalize literal value = result at outcome
  cases outcome with
  | written renderable short _ _ =>
      simp [renderable, short]
  | unsupported notRenderable =>
      simp [notRenderable]
  | longInteger long =>
      simp [long]

theorem forall₂_literals
    {motive : Value → List Piece → Prop}
    {values : List Value}
    {lists : List (List Piece)}
    (each :
      ∀ value ∈ values, ∀ pieces, literal value = .ok pieces →
        motive value pieces)
    (written : literals values = .ok lists) :
    Forall₂ motive values lists := by
  induction values generalizing lists with
  | nil =>
      cases written
      exact .nil
  | cons value rest inductionHypothesis =>
      rw [literals] at written
      cases first : literal value with
      | error error =>
          rw [first] at written
          cases written
      | ok pieces =>
          cases others : literals rest with
          | error error =>
              rw [first, others] at written
              cases written
          | ok otherLists =>
              rw [first, others] at written
              cases written
              have restEach := fun other member =>
                each other (mem_cons_of_mem value member)
              exact .cons (each value mem_cons_self pieces first)
                (inductionHypothesis restEach others)

/-- Induction over the values that are written and their pieces, with the hypothesis for each item of
a list. -/
@[elab_as_elim]
theorem literalInduction
    {motive : Value → List Piece → Prop}
    (null : motive .null nullLiteral)
    (bool : ∀ value, motive (.bool value) [.truth value])
    (int : ∀ value, motive (.int value) [.bare (Numeral.ofInt value)])
    (float :
      ∀ value, value.isFinite = true →
        motive (.float value) [.bare value.text])
    (decimal :
      ∀ value, value.isFinite = true →
        motive (.decimal value) [.bare value.text])
    (text : ∀ content, motive (.text content) [.text content])
    (textual : ∀ value, motive (.textual value) [.text value.text])
    (empty : ∀ kind, motive (.sequence kind []) nullLiteral)
    (items :
      ∀ kind values lists, values ≠ [] → Forall₂ motive values lists →
        motive (.sequence kind values) (Piece.joined itemSeparator lists))
    {value : Value}
    {pieces : List Piece}
    (written : literal value = .ok pieces) :
    motive value pieces := by
  induction value using Value.itemInduction generalizing pieces with
  | scalar value notSequence =>
      cases value with
      | null =>
          cases written
          exact null
      | bool value =>
          cases written
          exact bool value
      | int value =>
          rw [literal] at written
          split at written
          · cases written
            exact int value
          · cases written
      | float value =>
          rw [literal] at written
          split at written
          · rename_i finite
            cases written
            exact float value finite
          · cases written
      | decimal value =>
          rw [literal] at written
          split at written
          · rename_i finite
            cases written
            exact decimal value finite
          · cases written
      | text content =>
          cases written
          exact text content
      | textual value =>
          cases written
          exact textual value
      | sequence kind values =>
          exact (notSequence kind values rfl).elim
      | _ =>
          cases written
  | sequence kind values inductionHypothesis =>
      rw [literal] at written
      split at written
      · split at written
        · rename_i isEmpty
          cases written
          rw [isEmpty_iff.mp isEmpty]
          exact empty kind
        · rename_i notEmpty
          cases found : literals values with
          | error error =>
              rw [found] at written
              cases written
          | ok lists =>
              rw [found] at written
              cases written
              exact items kind values lists (by simpa using notEmpty)
                (forall₂_literals
                  (fun value member pieces => inductionHypothesis value member)
                  found)
      · cases written

end Sql

end QueryGateway
