import Mathlib.Data.List.DropRight
import QueryGateway.Session.Pool

/-!
# The books of the pools

Which pools are registered, and what each was built for, follows from a list of
deeds: a pool is used or probed, or pools are taken out of the registry.  The
registered pool of an identifier was built for its first use since the last
deed that took one out.
-/

namespace QueryGateway

open List

/-- What a session knows of its pools: which of them are registered, and what each was built
for. -/
structure Books where
  registry : List (SourceId × Nat)
  origins : List DataSource

/-- What is done about pools.  The pool of a source is used, or one is built for a probe, with
whether one can be built; or pools are taken out of the registry. -/
inductive Deed where
  | used (source : DataSource) (buildable : Bool)
  | probed (source : DataSource) (buildable : Bool)
  | removed (source : SourceId)
  | cleared

namespace Deed

/-- Whether a deed takes the pool of an identifier out of the registry. -/
def removes (id : SourceId) : Deed → Bool
  | .used .. | .probed .. => false
  | .removed other => other = id
  | .cleared => true

/-- The source with an identifier whose pool a deed uses, if such a pool can be built. -/
def supplies? (id : SourceId) : Deed → Option DataSource
  | .used source buildable => if source.id = id ∧ buildable = true then some source else none
  | .probed .. | .removed _ | .cleared => none

/-- The source with an identifier for which a pool was first used and could be built, since the pool
of that identifier was last taken out of the registry. -/
def firstUse? (id : SourceId) (deeds : List Deed) : Option DataSource :=
  (deeds.rtakeWhile fun deed => !deed.removes id).findSome? (supplies? id)

/-- The books with a deed. -/
def enter (books : Books) : Deed → Books
  | .used source buildable =>
      if books.registry.lookup source.id = none ∧ buildable = true then
        ⟨books.registry ++ [(source.id, books.origins.length)], books.origins ++ [source]⟩
      else
        books
  | .probed source buildable =>
      if buildable then { books with origins := books.origins ++ [source] } else books
  | .removed id => { books with registry := books.registry.filter fun entry => entry.1 ≠ id }
  | .cleared => { books with registry := [] }

/-- The source that a deed asks a pool for: a probe does so, and a use that finds none
registered. -/
def asked (books : Books) : Deed → List SourceId
  | .used source _ => if books.registry.lookup source.id = none then [source.id] else []
  | .probed source _ => [source.id]
  | .removed _ | .cleared => []

end Deed

namespace Books

/-- The books after some deeds. -/
def after (books : Books) (deeds : List Deed) : Books :=
  deeds.foldl Deed.enter books

/-- The sources that some deeds ask a pool for, one after the other. -/
def asked : Books → List Deed → List SourceId
  | _, [] => []
  | books, deed :: deeds => deed.asked books ++ asked (deed.enter books) deeds

/-- The source that the registered pool of an identifier was built for. -/
def sourceOf? (books : Books) (id : SourceId) : Option DataSource :=
  (books.registry.lookup id).bind fun number => books.origins[number]?

/-- Books in which every pool that is registered was built for a source with its identifier. -/
def Consistent (books : Books) : Prop :=
  ∀ entry ∈ books.registry, books.origins[entry.2]?.map DataSource.id = some entry.1

theorem after_append
    (books : Books)
    (deeds later : List Deed) :
    books.after (deeds ++ later) = (books.after deeds).after later :=
  foldl_append

theorem asked_append
    (books : Books)
    (deeds later : List Deed) :
    books.asked (deeds ++ later) = books.asked deeds ++ (books.after deeds).asked later := by
  induction deeds generalizing books with
  | nil =>
      rfl
  | cons deed deeds inductionHypothesis =>
      rw [cons_append, asked, asked, inductionHypothesis, append_assoc]
      rfl

/-- Taking the pool of one identifier out of the registry leaves those of others. -/
theorem lookup_without
    (registry : List (SourceId × Nat))
    (id other : SourceId) :
    (registry.filter fun entry => entry.1 ≠ other).lookup id =
      if other = id then none else registry.lookup id := by
  induction registry with
  | nil =>
      simp
  | cons entry registry inductionHypothesis =>
      obtain ⟨source, number⟩ := entry
      by_cases removed : source = other
      · rw [filter_cons_of_neg (by simpa using removed), inductionHypothesis]
        by_cases same : other = id
        · rw [if_pos same, if_pos same]
        · have different : (id == source) = false := by
            simpa [removed] using Ne.symm same
          rw [if_neg same, if_neg same, lookup_cons, different]
      · rw [filter_cons_of_pos (by simpa using removed), lookup_cons, lookup_cons,
          inductionHypothesis]
        by_cases found : id = source
        · simp [found, Ne.symm removed]
        · have different : (id == source) = false := by simpa using found
          rw [different]

/-- The pool that is registered for an identifier stays unless the deed takes it out of the
registry; if there is none, a deed that uses one registers the next. -/
theorem lookup_enter
    (books : Books)
    (deed : Deed)
    (id : SourceId) :
    (deed.enter books).registry.lookup id =
      if deed.removes id then
        none
      else
        (books.registry.lookup id).or
          ((deed.supplies? id).map fun _ => books.origins.length) := by
  cases deed with
  | used source buildable =>
      rw [Deed.enter, Deed.supplies?]
      by_cases same : source.id = id
      · subst same
        cases registered : books.registry.lookup source.id with
        | some number =>
            simp [registered, Deed.removes]
        | none =>
            cases buildable <;> simp [registered, Deed.removes, lookup_append]
      · have different : (id == source.id) = false := by simpa using Ne.symm same
        split <;> simp [Deed.removes, same, different, lookup_append, lookup_cons]
  | probed source buildable =>
      cases buildable <;> simp [Deed.enter, Deed.removes, Deed.supplies?]
  | removed other =>
      rw [Deed.enter, lookup_without]
      simp [Deed.removes, Deed.supplies?]
  | cleared =>
      rfl

/-- What a pool was built for is never changed. -/
theorem origins_enter
    (books : Books)
    (deed : Deed) :
    books.origins <+: (deed.enter books).origins := by
  cases deed with
  | used source buildable =>
      rw [Deed.enter]
      split
      · exact prefix_append ..
      · exact prefix_rfl
  | probed source buildable =>
      rw [Deed.enter]
      split
      · exact prefix_append ..
      · exact prefix_rfl
  | removed id | cleared =>
      exact prefix_rfl

/-- A pool that stays registered stays what it was built for. -/
theorem origin_enter
    {books : Books}
    {number : Nat}
    {source : DataSource}
    (origin : books.origins[number]? = some source)
    (deed : Deed) :
    (deed.enter books).origins[number]? = some source := by
  obtain ⟨added, shape⟩ := books.origins_enter deed
  rw [← shape, getElem?_append_left (List.getElem?_eq_some_iff.mp origin).1, origin]

namespace Consistent

variable
  {books : Books}
  (consistent : books.Consistent)

include consistent

theorem origin_of_lookup
    {id : SourceId}
    {number : Nat}
    (registered : books.registry.lookup id = some number) :
    ∃ source, books.origins[number]? = some source ∧ source.id = id := by
  obtain ⟨earlier, later, shape, _⟩ := lookup_eq_some_iff.mp registered
  have member : (id, number) ∈ books.registry := by
    rw [shape]
    exact mem_append_right earlier (.head later)
  exact Option.map_eq_some_iff.mp (consistent (id, number) member)

theorem enter
    (deed : Deed) :
    (deed.enter books).Consistent := by
  have kept (entry : SourceId × Nat) (member : entry ∈ books.registry) :
      (deed.enter books).origins[entry.2]?.map DataSource.id = some entry.1 := by
    obtain ⟨source, origin, own⟩ := Option.map_eq_some_iff.mp (consistent entry member)
    rw [origin_enter origin deed, Option.map_some, own]
  intro entry member
  cases deed with
  | used source buildable =>
      rw [Deed.enter] at member kept ⊢
      split at member
      · rename_i absent
        rw [if_pos absent] at kept ⊢
        rcases mem_append.mp member with earlier | last
        · exact kept entry earlier
        · rw [mem_singleton.mp last]
          simp
      · rename_i present
        rw [if_neg present] at kept ⊢
        exact kept entry member
  | probed source buildable =>
      cases buildable <;> exact kept entry member
  | removed id =>
      exact kept entry (mem_filter.mp member).1
  | cleared =>
      exact absurd member not_mem_nil

theorem after
    (deeds : List Deed) :
    (books.after deeds).Consistent := by
  induction deeds generalizing books with
  | nil =>
      exact consistent
  | cons deed deeds inductionHypothesis =>
      exact inductionHypothesis (consistent.enter deed)

/-- The source of the registered pool stays the same unless the deed takes the pool out of the
registry; if there is none, it is the one that the deed uses. -/
theorem sourceOf?_enter
    (deed : Deed)
    (id : SourceId) :
    (deed.enter books).sourceOf? id =
      if deed.removes id then none else (books.sourceOf? id).or (deed.supplies? id) := by
  have lookup := books.lookup_enter deed id
  cases removes : deed.removes id with
  | true =>
      rw [removes, if_pos rfl] at lookup
      rw [if_pos rfl, sourceOf?, lookup, Option.bind_none]
  | false =>
      rw [removes, if_neg Bool.false_ne_true] at lookup
      rw [if_neg Bool.false_ne_true, sourceOf?, lookup, sourceOf?]
      cases registered : books.registry.lookup id with
      | some number =>
          obtain ⟨source, origin, _⟩ := consistent.origin_of_lookup registered
          rw [Option.some_or, Option.bind_some, Option.bind_some, origin_enter origin deed, origin,
            Option.some_or]
      | none =>
          cases deed with
          | used source buildable =>
              rw [Deed.supplies?]
              split
              · rename_i supplied
                obtain ⟨rfl, buildable⟩ := supplied
                simp [Deed.enter, registered, buildable]
              · rfl
          | probed | removed | cleared =>
              rfl

end Consistent

/-- The registered pool of an identifier was built for the source that first used one since there
was none. -/
theorem sourceOf?_after
    (deeds : List Deed)
    (id : SourceId) :
    ((Books.mk [] []).after deeds).sourceOf? id = Deed.firstUse? id deeds := by
  have begun : (Books.mk [] []).Consistent := fun entry listed => absurd listed not_mem_nil
  induction deeds using reverseRecOn with
  | nil =>
      rfl
  | append_singleton deeds deed inductionHypothesis =>
      have step : ((Books.mk [] []).after (deeds ++ [deed])) =
          deed.enter ((Books.mk [] []).after deeds) :=
        after_append ..
      rw [step, (begun.after deeds).sourceOf?_enter, inductionHypothesis, Deed.firstUse?,
        Deed.firstUse?, rtakeWhile_concat]
      cases deed.removes id with
      | true =>
          rfl
      | false =>
          simp [findSome?_append]

/-- Taking a pool out of the registry does not change what it was built for. -/
theorem origins_after_removed
    (books : Books)
    (times : Nat)
    (id : SourceId) :
    (books.after (replicate times (.removed id))).origins = books.origins := by
  induction times generalizing books with
  | zero =>
      rfl
  | succ times inductionHypothesis =>
      exact inductionHypothesis _

/-- An identifier has no pool once its pool was taken out of the registry. -/
theorem lookup_after_removed
    (books : Books)
    {times : Nat}
    (id : SourceId)
    (removed : 0 < times) :
    (books.after (replicate times (.removed id))).registry.lookup id = none := by
  cases times with
  | zero =>
      cases removed
  | succ times =>
      rw [replicate_succ', after_append]
      exact (lookup_enter _ (.removed id) id).trans (by simp [Deed.removes])

/-- A pool that is registered stays so unless a deed takes it out of the registry. -/
theorem lookup_after
    {books : Books}
    {deeds : List Deed}
    {id : SourceId}
    {number : Nat}
    (registered : books.registry.lookup id = some number)
    (kept : ∀ deed ∈ deeds, deed.removes id = false) :
    (books.after deeds).registry.lookup id = some number := by
  induction deeds generalizing books with
  | nil =>
      exact registered
  | cons deed deeds inductionHypothesis =>
      have still : (deed.enter books).registry.lookup id = some number := by
        rw [lookup_enter, kept deed (.head _), registered]
        rfl
      exact inductionHypothesis still fun later listed => kept later (.tail _ listed)

end Books

end QueryGateway
