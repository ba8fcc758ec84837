import QueryGateway.Proofs.UniqueCuts

/-!
# References are read back

A reference is a name behind an optional qualifier, and a new name may follow
it.  An empty qualifier is written as no qualifier, and an empty new name as no
new name; up to that, a reference is determined by its tokens, and it ends at
the first token that stops it.
-/

namespace QueryGateway.Sql

open List

/-- An empty name counts as none. -/
def present (name : Option String) : Option String :=
  name.filter (· ≠ "")

/-- A token that ends what stands before it. -/
def Token.IsStop (token : Token) : Prop :=
  token ∈ word " ,()"

instance : DecidablePred Token.IsStop :=
  fun token => inferInstanceAs (Decidable (token ∈ word " ,()"))

theorem Token.isStop_character
    {c : Char}
    (stop : (Token.character c).IsStop) :
    c = ' ' ∨ c = ',' ∨ c = '(' ∨ c = ')' := by
  simpa [IsStop, word] using stop

/-- A name behind an optional qualifier as it is understood. -/
def referenceTokens (qualifier : Option String) (name : String) : List Token :=
  match qualifier with
  | none => [.quoted .identifier name.toList]
  | some qualifier =>
      [.quoted .identifier qualifier.toList, .character '.',
        .quoted .identifier name.toList]

/-- An optional new name as it is understood. -/
def aliasTokens : Option String → List Token
  | none => []
  | some name => word " AS " ++ [.quoted .identifier name.toList]

theorem allTokens_qualified
    (dialect : Dialect)
    (qualifier : Option String)
    (name : String) :
    Piece.allTokens dialect (qualified qualifier name) =
      referenceTokens (present qualifier) name := by
  unfold qualified
  split
  · rfl
  · rfl
  · rename_i qualifier nonempty
    have isPresent : present (some qualifier) = some qualifier := by
      simpa [present] using nonempty
    rw [isPresent]
    rfl

theorem allTokens_aliased
    (dialect : Dialect)
    (name : Option String) :
    Piece.allTokens dialect (aliased name) = aliasTokens (present name) := by
  unfold aliased
  split
  · rfl
  · rfl
  · rename_i name nonempty
    have isPresent : present (some name) = some name := by
      simpa [present] using nonempty
    rw [isPresent]
    rfl

/-- No token of a reference stops it. -/
theorem referenceTokens_free
    {qualifier : Option String}
    {name : String}
    {token : Token}
    (member : token ∈ referenceTokens qualifier name) :
    ¬ token.IsStop := by
  cases qualifier with
  | none =>
      simp only [referenceTokens, mem_singleton] at member
      simp [member, Token.IsStop, word]
  | some qualifier =>
      simp only [referenceTokens, mem_cons, not_mem_nil, or_false] at member
      rcases member with rfl | rfl | rfl <;> simp [Token.IsStop, word]

/-- The tokens of a reference tell its qualifier and its name. -/
theorem referenceTokens_inj
    {qualifier otherQualifier : Option String}
    {name otherName : String}
    (same :
      referenceTokens qualifier name =
        referenceTokens otherQualifier otherName) :
    qualifier = otherQualifier ∧ name = otherName := by
  cases qualifier with
  | none =>
      cases otherQualifier with
      | none =>
          simpa [referenceTokens, String.toList_inj] using same
      | some otherQualifier =>
          simp [referenceTokens] at same
  | some qualifier =>
      cases otherQualifier with
      | none =>
          simp [referenceTokens] at same
      | some otherQualifier =>
          simpa [referenceTokens, String.toList_inj] using same

/-- A reference is told apart from what stops it. -/
theorem referenceTokens_cancel
    {qualifier otherQualifier : Option String}
    {name otherName : String}
    {rest otherRest : List Token}
    (stopped : StartsWithStop Token.IsStop rest)
    (otherStopped : StartsWithStop Token.IsStop otherRest)
    (same :
      referenceTokens qualifier name ++ rest =
        referenceTokens otherQualifier otherName ++ otherRest) :
    qualifier = otherQualifier ∧ name = otherName ∧ rest = otherRest := by
  obtain ⟨references, rests⟩ :=
    append_cancel_of_stops (fun _ => referenceTokens_free)
      (fun _ => referenceTokens_free) stopped otherStopped same
  obtain ⟨qualifiers, names⟩ := referenceTokens_inj references
  exact ⟨qualifiers, names, rests⟩

/-- A new name is told apart from what starts otherwise. -/
theorem aliasTokens_cancel
    {name otherName : Option String}
    {rest otherRest : List Token}
    (noAlias : ∀ back, rest ≠ word " AS " ++ back)
    (otherNoAlias : ∀ back, otherRest ≠ word " AS " ++ back)
    (same : aliasTokens name ++ rest = aliasTokens otherName ++ otherRest) :
    name = otherName ∧ rest = otherRest := by
  cases name with
  | none =>
      cases otherName with
      | none =>
          exact ⟨rfl, same⟩
      | some otherName =>
          rw [aliasTokens, aliasTokens, nil_append, append_assoc] at same
          exact absurd same (noAlias _)
  | some name =>
      cases otherName with
      | none =>
          rw [aliasTokens, aliasTokens, nil_append, append_assoc] at same
          exact absurd same.symm (otherNoAlias _)
      | some otherName =>
          rw [aliasTokens, aliasTokens, append_assoc, append_assoc] at same
          simpa [String.toList_inj] using append_cancel_left same

/-- A reference with an optional new name as it is understood. -/
def namedTokens (qualifier : Option String) (name : String) (label : Option String) :
    List Token :=
  referenceTokens qualifier name ++ aliasTokens label

theorem aliasTokens_append_startsWithStop
    {label : Option String}
    {rest : List Token}
    (stopped : StartsWithStop Token.IsStop rest) :
    StartsWithStop Token.IsStop (aliasTokens label ++ rest) := by
  cases label with
  | none =>
      exact stopped
  | some label =>
      exact .cons (by decide) _

/-- A reference with a new name is told apart from what starts otherwise. -/
theorem namedTokens_cancel
    {qualifier otherQualifier : Option String}
    {name otherName : String}
    {label otherLabel : Option String}
    {rest otherRest : List Token}
    (stopped : StartsWithStop Token.IsStop rest)
    (otherStopped : StartsWithStop Token.IsStop otherRest)
    (noAlias : ∀ back, rest ≠ word " AS " ++ back)
    (otherNoAlias : ∀ back, otherRest ≠ word " AS " ++ back)
    (same :
      namedTokens qualifier name label ++ rest =
        namedTokens otherQualifier otherName otherLabel ++ otherRest) :
    qualifier = otherQualifier ∧ name = otherName ∧ label = otherLabel ∧
      rest = otherRest := by
  rw [namedTokens, namedTokens, append_assoc, append_assoc] at same
  obtain ⟨qualifiers, names, backs⟩ :=
    referenceTokens_cancel (aliasTokens_append_startsWithStop stopped)
      (aliasTokens_append_startsWithStop otherStopped) same
  obtain ⟨labels, rests⟩ := aliasTokens_cancel noAlias otherNoAlias backs
  exact ⟨qualifiers, names, labels, rests⟩

end QueryGateway.Sql
