import Mathlib.Data.List.Infix
import QueryGateway.Proofs.Tokens

/-!
# Where a list can be cut

Two lists that are equal are cut at the same place if the place can be seen:
by the first item that stops the front (`append_cancel_of_stops`), by the words
of which none starts another (`PrefixFree.word_cancel`), or by cutting item
after item off a list with separators (`intercalate_cancel`).
-/

namespace QueryGateway

open List

/-! ## Stops -/

/-- A list starts with a stop, or there is nothing in it. -/
def StartsWithStop (stops : α → Prop) (items : List α) : Prop :=
  ∀ item ∈ items.head?, stops item

theorem StartsWithStop.nil
    {stops : α → Prop} :
    StartsWithStop stops [] := by
  intro item first
  cases first

theorem StartsWithStop.cons
    {stops : α → Prop}
    {item : α}
    (isStop : stops item)
    (items : List α) :
    StartsWithStop stops (item :: items) := by
  intro first isFirst
  rw [head?_cons, Option.mem_some_iff] at isFirst
  exact isFirst ▸ isStop

theorem StartsWithStop.imp
    {stops otherStops : α → Prop}
    {items : List α}
    (implies : ∀ item, stops item → otherStops item)
    (starts : StartsWithStop stops items) :
    StartsWithStop otherStops items :=
  fun item first => implies item (starts item first)

/-- Fronts without a stop are told apart from what starts with one. -/
theorem append_cancel_of_stops
    {stops : α → Prop}
    {front otherFront back otherBack : List α}
    (free : ∀ item ∈ front, ¬ stops item)
    (otherFree : ∀ item ∈ otherFront, ¬ stops item)
    (stopped : StartsWithStop stops back)
    (otherStopped : StartsWithStop stops otherBack)
    (same : front ++ back = otherFront ++ otherBack) :
    front = otherFront ∧ back = otherBack := by
  induction front generalizing otherFront with
  | nil =>
      cases otherFront with
      | nil =>
          exact ⟨rfl, same⟩
      | cons item otherFront =>
          rw [nil_append] at same
          have isStop := stopped item (by simp [same])
          exact absurd isStop (otherFree item (by simp))
  | cons item front inductionHypothesis =>
      cases otherFront with
      | nil =>
          rw [nil_append] at same
          have isStop := otherStopped item (by simp [← same])
          exact absurd isStop (free item (by simp))
      | cons otherItem otherFront =>
          rw [cons_append, cons_append, cons.injEq] at same
          obtain ⟨rfl, rest⟩ := same
          obtain ⟨rfl, backs⟩ :=
            inductionHypothesis
              (fun later member => free later (by simp [member]))
              (fun later member => otherFree later (by simp [member])) rest
          exact ⟨rfl, backs⟩

/-! ## Items between separators -/

/-- Items between separators are cut off one after the other if each can be cut off before what may
follow it, and if a separator is told apart from another one and from what comes after all items. -/
theorem intercalate_cancel
    (write : α → List γ)
    (view : α → β)
    (follows : List γ → Prop)
    {separator otherSeparator back otherBack : List γ}
    {items otherItems : List α}
    (cut :
      ∀ item ∈ items, ∀ other ∈ otherItems, ∀ rest otherRest,
        follows rest → follows otherRest →
        write item ++ rest = write other ++ otherRest →
        view item = view other ∧ rest = otherRest)
    (separates : ∀ rest, follows (separator ++ rest))
    (otherSeparates : ∀ rest, follows (otherSeparator ++ rest))
    (separators :
      ∀ rest otherRest, separator ++ rest = otherSeparator ++ otherRest →
        separator = otherSeparator ∧ rest = otherRest)
    (backFollows : follows back)
    (otherBackFollows : follows otherBack)
    (backEnds : ∀ rest, back ≠ otherSeparator ++ rest)
    (otherBackEnds : ∀ rest, separator ++ rest ≠ otherBack)
    (nonempty : items ≠ [])
    (otherNonempty : otherItems ≠ [])
    (same :
      separator.intercalate (items.map write) ++ back =
        otherSeparator.intercalate (otherItems.map write) ++ otherBack) :
    items.map view = otherItems.map view ∧ back = otherBack ∧
      (items.length = 1 ∨ separator = otherSeparator) := by
  induction items generalizing otherItems with
  | nil =>
      exact absurd rfl nonempty
  | cons item items inductionHypothesis =>
      obtain ⟨other, others, rfl⟩ := exists_cons_of_ne_nil otherNonempty
      have cutHere := cut item (by simp) other (by simp)
      cases items with
      | nil =>
          cases others with
          | nil =>
              simp only [map_cons, map_nil, intercalate_singleton] at same ⊢
              obtain ⟨sameView, sameBack⟩ :=
                cutHere _ _ backFollows otherBackFollows same
              simp [sameView, sameBack]
          | cons next others =>
              simp only [map_cons, map_nil, intercalate_singleton,
                intercalate_cons_cons, append_assoc] at same
              obtain ⟨_, ended⟩ :=
                cutHere _ _ backFollows (otherSeparates _) same
              exact absurd ended (backEnds _)
      | cons next items =>
          cases others with
          | nil =>
              simp only [map_cons, map_nil, intercalate_singleton,
                intercalate_cons_cons, append_assoc] at same
              obtain ⟨_, ended⟩ :=
                cutHere _ _ (separates _) otherBackFollows same
              exact absurd ended (otherBackEnds _)
          | cons otherNext others =>
              rw [map_cons, map_cons, map_cons, map_cons,
                intercalate_cons_cons, intercalate_cons_cons,
                append_assoc, append_assoc, append_assoc, append_assoc,
                ← map_cons, ← map_cons] at same
              obtain ⟨sameView, rests⟩ :=
                cutHere _ _ (separates _) (otherSeparates _) same
              obtain ⟨sameSeparator, rests⟩ := separators _ _ rests
              obtain ⟨sameViews, sameBack, _⟩ :=
                inductionHypothesis
                  (fun later member otherLater otherMember =>
                    cut later (by simp [member]) otherLater
                      (by simp [otherMember]))
                  (by simp) (by simp) rests
              rw [map_cons, sameViews, sameView]
              exact ⟨rfl, sameBack, Or.inr sameSeparator⟩

/-- Items between equal separators are cut off one after the other if nothing stands behind them. -/
theorem intercalate_inj
    (write : α → List γ)
    (view : α → β)
    (follows : List γ → Prop)
    {separator : List γ}
    (separatorNonempty : separator ≠ [])
    (nothingFollows : follows [])
    (separates : ∀ rest, follows (separator ++ rest))
    {items otherItems : List α}
    (cut :
      ∀ item ∈ items, ∀ other ∈ otherItems, ∀ rest otherRest,
        follows rest → follows otherRest →
        write item ++ rest = write other ++ otherRest →
        view item = view other ∧ rest = otherRest)
    (nonempty : items ≠ [])
    (otherNonempty : otherItems ≠ [])
    (same :
      separator.intercalate (items.map write) =
        separator.intercalate (otherItems.map write)) :
    items.map view = otherItems.map view := by
  have notSeparated
      (rest : List γ) :
      separator ++ rest ≠ [] := by
    simp [separatorNonempty]
  have cancelled :=
    intercalate_cancel write view follows cut separates separates
      (fun _ _ rests => ⟨rfl, append_cancel_left rests⟩)
      nothingFollows nothingFollows (fun rest => (notSeparated rest).symm)
      notSeparated nonempty otherNonempty (by rw [same])
  exact cancelled.1

/-! ## Items with keys -/

/-- Parts whose items tell which part they are of are found again in the list of all parts. -/
theorem filter_flatMap_key
    [DecidableEq α]
    {key : β → α}
    {part : α → List β}
    (tells : ∀ name, ∀ item ∈ part name, key item = name)
    {names : List α}
    (distinct : names.Nodup)
    {name : α}
    (member : name ∈ names) :
    (names.flatMap part).filter (key · = name) = part name := by
  induction names with
  | nil =>
      cases member
  | cons first names inductionHypothesis =>
      obtain ⟨notAgain, restDistinct⟩ := nodup_cons.mp distinct
      rw [flatMap_cons, filter_append]
      by_cases isFirst : name = first
      · subst isFirst
        have own : (part name).filter (key · = name) = part name := by
          simpa [filter_eq_self] using tells name
        have others : (names.flatMap part).filter (key · = name) = [] := by
          rw [filter_eq_nil_iff]
          intro item inParts isNamed
          obtain ⟨other, isOther, inPart⟩ := mem_flatMap.mp inParts
          rw [decide_eq_true_eq, tells other item inPart] at isNamed
          exact notAgain (isNamed ▸ isOther)
        rw [own, others, append_nil]
      · have foreign : (part first).filter (key · = name) = [] := by
          rw [filter_eq_nil_iff]
          intro item inPart isNamed
          rw [decide_eq_true_eq, tells first item inPart] at isNamed
          exact isFirst isNamed.symm
        have later : name ∈ names := by
          simpa [isFirst] using member
        rw [foreign, nil_append, inductionHypothesis restDistinct later]

/-- Lists that look the same item by item under one view do so under another one that the first
determines. -/
theorem map_eq_of_map_eq
    {view : α → β}
    {otherView : α → γ}
    {items otherItems : List α}
    (determines :
      ∀ item ∈ items, ∀ other ∈ otherItems,
        view item = view other → otherView item = otherView other)
    (same : items.map view = otherItems.map view) :
    items.map otherView = otherItems.map otherView := by
  induction items generalizing otherItems with
  | nil =>
      rw [map_nil, nil_eq, map_eq_nil_iff] at same
      rw [same]
  | cons item items inductionHypothesis =>
      cases otherItems with
      | nil =>
          simp at same
      | cons other otherItems =>
          rw [map_cons, map_cons, cons.injEq] at same
          have first := determines item (by simp) other (by simp) same.1
          have rest :=
            inductionHypothesis
              (fun later member otherLater otherMember =>
                determines later (by simp [member]) otherLater
                  (by simp [otherMember]))
              same.2
          rw [map_cons, map_cons, first, rest]

namespace Sql

/-! ## Words -/

/-- None of the words for several things starts another one. -/
def PrefixFree (write : α → String) (all : List α) : Prop :=
  ∀ item ∈ all, ∀ other ∈ all,
    (write item).toList <+: (write other).toList → item = other

instance [DecidableEq α] (write : α → String) (all : List α) :
    Decidable (PrefixFree write all) :=
  inferInstanceAs (Decidable (∀ item ∈ all, ∀ other ∈ all,
    (write item).toList <+: (write other).toList → item = other))

/-- Words of which none starts another one are told apart. -/
theorem PrefixFree.word_cancel
    {write : α → String}
    {all : List α}
    (prefixFree : PrefixFree write all)
    {item other : α}
    (member : item ∈ all)
    (otherMember : other ∈ all)
    {back otherBack : List Token}
    (same : word (write item) ++ back = word (write other) ++ otherBack) :
    item = other ∧ back = otherBack := by
  have characterInjective : Function.Injective Token.character :=
    fun _ _ same => Token.character.inj same
  have starts : word (write item) <+: word (write item) ++ back :=
    prefix_append _ _
  have otherStarts : word (write other) <+: word (write item) ++ back :=
    same ▸ prefix_append _ _
  have sameItem : item = other := by
    rcases prefix_or_prefix_of_prefix starts otherStarts with first | second
    · exact prefixFree item member other otherMember
        ((prefix_map_iff_of_injective characterInjective).mp first)
    · exact (prefixFree other otherMember item member
        ((prefix_map_iff_of_injective characterInjective).mp second)).symm
  subst sameItem
  exact ⟨rfl, append_cancel_left same⟩

end Sql

end QueryGateway
