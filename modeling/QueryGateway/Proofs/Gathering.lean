import QueryGateway.Sql.Placeholder

/-!
# Gathering lists

Each item of a list becomes a list of its own, or it fails.  `gather` puts what
they become side by side, up to the first failure.
-/

namespace QueryGateway.Sql

open List

/-- Whether an outcome is a given success can be told without telling failures apart. -/
instance decidableEqOk
    [DecidableEq α]
    (outcome : Except ε α)
    (value : α) :
    Decidable (outcome = .ok value) :=
  match outcome with
  | .ok found => decidable_of_iff (found = value) (by simp)
  | .error _ => isFalse (by simp)

/-- The lists that the items of a list become, one after the other, up to the first failure. -/
def gather (become : α → Except ε (List β)) : List α → Except ε (List β)
  | [] => .ok []
  | item :: rest =>
      match become item with
      | .error error => .error error
      | .ok gathered => (gather become rest).map (gathered ++ ·)

section

variable {become : α → Except ε (List β)}

/-- A list is gathered if its first item does not fail and the rest is gathered. -/
theorem gather_cons_eq_ok
    {item : α}
    {rest : List α}
    {gathered : List β}
    (isGathered : gather become (item :: rest) = .ok gathered) :
    ∃ front back,
      become item = .ok front ∧ gather become rest = .ok back ∧
        gathered = front ++ back := by
  rw [gather] at isGathered
  cases first : become item with
  | error error =>
      rw [first] at isGathered
      cases isGathered
  | ok front =>
      cases others : gather become rest with
      | error error =>
          rw [first, others] at isGathered
          cases isGathered
      | ok back =>
          rw [first, others] at isGathered
          cases isGathered
          exact ⟨front, back, rfl, rfl, rfl⟩

/-- What is gathered comes from one of the items. -/
theorem exists_of_mem_gather
    {items : List α}
    {gathered : List β}
    (isGathered : gather become items = .ok gathered)
    {part : β}
    (member : part ∈ gathered) :
    ∃ item ∈ items, ∃ front, become item = .ok front ∧ part ∈ front := by
  induction items generalizing gathered with
  | nil =>
      cases isGathered
      cases member
  | cons item rest inductionHypothesis =>
      obtain ⟨front, back, isFront, isBack, rfl⟩ := gather_cons_eq_ok isGathered
      rcases mem_append.mp member with inFront | inBack
      · exact ⟨item, mem_cons_self, front, isFront, inFront⟩
      · obtain ⟨other, inRest, otherFront, isOther, inOther⟩ :=
          inductionHypothesis isBack inBack
        exact ⟨other, mem_cons_of_mem item inRest, otherFront, isOther, inOther⟩

/-- Two parts of a list are gathered one after the other, the first failure counting. -/
theorem gather_append
    (first second : List α) :
    gather become (first ++ second) =
      match gather become first with
      | .error error => .error error
      | .ok gathered => (gather become second).map (gathered ++ ·) := by
  induction first with
  | nil =>
      cases outcome : gather become second <;>
        simp [gather, Except.map, outcome]
  | cons item rest inductionHypothesis =>
      rw [cons_append, gather, gather, inductionHypothesis]
      cases become item with
      | error error =>
          rfl
      | ok gathered =>
          cases gather become rest with
          | error error =>
              rfl
          | ok restGathered =>
              cases gather become second <;> simp [Except.map]

/-- Items that never fail are gathered as they are mapped. -/
theorem gather_ok
    {items : List α}
    {image : α → List β}
    (succeeds : ∀ item ∈ items, become item = .ok (image item)) :
    gather become items = .ok (items.flatMap image) := by
  induction items with
  | nil =>
      rfl
  | cons item rest inductionHypothesis =>
      have restGathered := inductionHypothesis fun other member =>
        succeeds other (by simp [member])
      simp [gather, succeeds item (by simp), restGathered, Except.map]

/-- The failure of a list is the failure of one of its items. -/
theorem exists_of_gather_error
    {items : List α}
    {error : ε}
    (failed : gather become items = .error error) :
    ∃ item ∈ items, become item = .error error := by
  induction items with
  | nil =>
      simp [gather] at failed
  | cons item rest inductionHypothesis =>
      rw [gather] at failed
      cases outcome : become item with
      | error itemError =>
          rw [outcome] at failed
          exact ⟨item, by simp, outcome.trans failed⟩
      | ok gathered =>
          rw [outcome] at failed
          cases restOutcome : gather become rest with
          | error restError =>
              simp only [restOutcome, Except.map, Except.error.injEq] at failed
              subst restError
              obtain ⟨other, member, otherFailed⟩ :=
                inductionHypothesis restOutcome
              exact ⟨other, by simp [member], otherFailed⟩
          | ok restGathered =>
              simp [restOutcome, Except.map] at failed

/-- A list is gathered exactly if none of its items fails. -/
theorem gather_isOk_iff
    (items : List α) :
    (∃ gathered, gather become items = .ok gathered) ↔
      ∀ item ∈ items, ∃ gathered, become item = .ok gathered := by
  induction items with
  | nil =>
      simp [gather]
  | cons item rest inductionHypothesis =>
      rw [forall_mem_cons, ← inductionHypothesis, gather]
      cases become item with
      | error error =>
          simp
      | ok gathered =>
          cases gather become rest <;> simp [Except.map]

/-- A list is gathered in steps if each item can be expanded first. -/
theorem gather_flatMap
    {expand : γ → List α}
    {becomeFirst : γ → Except ε (List δ)}
    {finish : List δ → List β}
    (finish_nil : finish [] = [])
    (finish_append :
      ∀ first second, finish (first ++ second) = finish first ++ finish second)
    {items : List γ}
    (step :
      ∀ item ∈ items,
        gather become (expand item) = (becomeFirst item).map finish) :
    gather become (items.flatMap expand) =
      (gather becomeFirst items).map finish := by
  induction items with
  | nil =>
      simp [gather, Except.map, finish_nil]
  | cons item rest inductionHypothesis =>
      have restGathered := inductionHypothesis fun other member =>
        step other (by simp [member])
      rw [flatMap_cons, gather_append, step item (by simp), restGathered,
        gather]
      cases becomeFirst item with
      | error error =>
          rfl
      | ok first =>
          cases gather becomeFirst rest with
          | error error =>
              rfl
          | ok restFirst =>
              simp [Except.map, finish_append]

end

/-- Lexemes with literals in the places of their placeholders are gathered. -/
theorem substitute_eq_gather
    (parameters : Parameters)
    (dialect : Dialect)
    (lexemes : List Lexeme) :
    substitute dialect parameters lexemes =
      gather (Lexeme.substituted dialect parameters) lexemes := by
  induction lexemes with
  | nil =>
      rfl
  | cons lexeme rest inductionHypothesis =>
      rw [substitute, gather, inductionHypothesis]
      cases lexeme.substituted dialect parameters <;> rfl

/-- A resolved text is gathered from the lexemes of the text. -/
theorem gather_of_resolve
    {dialect : Dialect}
    {text : String}
    {parameters : Parameters}
    {resolved : String}
    (isResolved : resolve dialect text parameters = .ok resolved) :
    gather (Lexeme.substituted dialect parameters)
        (Lexeme.scan dialect text.toList) = .ok resolved.toList := by
  simp only [resolve, substitute_eq_gather] at isResolved
  split at isResolved
  · cases gathered :
        gather (Lexeme.substituted dialect parameters)
          (Lexeme.scan dialect text.toList) with
    | error cause =>
        rw [gathered] at isResolved
        cases isResolved
    | ok cs =>
        rw [gathered] at isResolved
        cases isResolved
        rw [String.toList_ofList]
  · cases isResolved

end QueryGateway.Sql
