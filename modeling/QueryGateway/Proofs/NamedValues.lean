import Mathlib.Data.List.Induction
import QueryGateway.Proofs.BoundQueries
import QueryGateway.Proofs.LiteralLeaves
import QueryGateway.Proofs.RequestChecks

/-!
# What resolving a statement depends on

A statement is read twice: once for the names of its placeholders, and once to
put the literals of their values in their places.  The first reading is left
out if there is no colon in the statement.

`ResolvesByNames` says that the two readings fit together.  Only the values of
the names that were found count, all names without a value are reported before
any value is looked at, and of the values without a literal the one that is
used first is reported, by the first of its leaves without one.
-/

namespace QueryGateway.Sql

open List

/-! ## Names at their first places -/

/-- A name at the end of a list is kept if it is new. -/
theorem distinct_concat
    (names : List String)
    (name : String) :
    distinct (names ++ [name]) =
      if name ∈ names then distinct names else distinct names ++ [name] := by
  have step :
      distinct (names ++ [name]) =
        if (distinct names).contains name then distinct names
        else distinct names ++ [name] := by
    rw [distinct, foldl_append]
    rfl
  simp only [step, contains_iff_mem, mem_distinct]

/-- The names that are kept stand in the order of their first places. -/
theorem pairwise_idxOf_distinct
    (names : List String) :
    (distinct names).Pairwise fun first second =>
      names.idxOf first < names.idxOf second := by
  induction names using reverseRecOn with
  | nil =>
      exact .nil
  | append_singleton names name inductionHypothesis =>
      -- The first place of a name does not change when a name is added behind it.
      have stillOrdered :
          (distinct names).Pairwise fun first second =>
            (names ++ [name]).idxOf first < (names ++ [name]).idxOf second := by
        refine inductionHypothesis.imp_of_mem fun {first second} inFirst inSecond ordered => ?_
        rwa [idxOf_append_of_mem (mem_distinct.mp inFirst),
          idxOf_append_of_mem (mem_distinct.mp inSecond)]
      rw [distinct_concat]
      split
      · exact stillOrdered
      · rename_i isNew
        refine pairwise_append.mpr ⟨stillOrdered, pairwise_singleton _ _, ?_⟩
        intro first inNames second isName
        rw [mem_singleton.mp isName, idxOf_append_of_notMem isNew,
          idxOf_append_of_mem (mem_distinct.mp inNames)]
        have inside := idxOf_lt_length_of_mem (mem_distinct.mp inNames)
        omega

/-- What is found first among names is found first among the names that are kept. -/
theorem findSome?_distinct
    (find : String → Option α)
    (names : List String) :
    (distinct names).findSome? find = names.findSome? find := by
  induction names using reverseRecOn with
  | nil =>
      rfl
  | append_singleton names name inductionHypothesis =>
      rw [distinct_concat, findSome?_append]
      split
      · rename_i known
        rw [inductionHypothesis]
        cases found : names.findSome? find with
        | some result =>
            rfl
        | none =>
            have notFound := findSome?_eq_none_iff.mp found name known
            simp [notFound]
      · rw [findSome?_append, inductionHypothesis]

/-! ## Names in a statement -/

variable {dialect : Dialect} {statement : String}

/-- A name that is found is the name of a placeholder. -/
theorem mem_parameterNames
    {name : String} :
    name ∈ parameterNames dialect statement ↔
      ∃ lexeme ∈ Lexeme.scan dialect statement.toList,
        lexeme.name? = some name := by
  rw [parameterNames, mem_distinct, mem_filterMap]

/-- There is a colon in a statement with a placeholder. -/
theorem colon_mem_of_placeholder
    {lexeme : Lexeme}
    (member : lexeme ∈ Lexeme.scan dialect statement.toList)
    {name : String}
    (named : lexeme.name? = some name) :
    ':' ∈ statement.toList := by
  cases lexeme with
  | quoted | comment | character => cases named
  | placeholder name =>
      rw [← Lexeme.scan_concat dialect statement.toList, Lexeme.concat, mem_flatMap]
      exact ⟨_, member, mem_cons_self⟩

/-- Nothing is lost by reading only statements with a colon. -/
theorem extractedNames_eq_parameterNames
    (dialect : Dialect)
    (statement : String) :
    extractedNames dialect statement = parameterNames dialect statement := by
  unfold extractedNames
  split
  · rfl
  · rename_i noColon
    refine (eq_nil_iff_forall_not_mem.mpr fun name found => noColon ?_).symm
    obtain ⟨lexeme, member, named⟩ := mem_parameterNames.mp found
    exact contains_iff_mem.mpr (colon_mem_of_placeholder member named)

/-! ## Values for the names of a statement -/

/-- Items that become the same are gathered to the same. -/
theorem gather_congr
    {become become' : α → Except ε (List β)}
    {items : List α}
    (same : ∀ item ∈ items, become item = become' item) :
    gather become items = gather become' items := by
  induction items with
  | nil =>
      rfl
  | cons item rest inductionHypothesis =>
      rw [gather, gather, same item mem_cons_self,
        inductionHypothesis fun other member =>
          same other (mem_cons_of_mem item member)]

/-- Resolving a statement depends only on the values of its names. -/
theorem resolve_congr
    {parameters others : Parameters}
    (agree :
      ∀ name ∈ parameterNames dialect statement,
        others.lookup name = parameters.lookup name) :
    resolve dialect statement others = resolve dialect statement parameters := by
  have sameMissing :
      ((parameterNames dialect statement).filter
          fun name => (others.lookup name).isNone) =
        (parameterNames dialect statement).filter
          fun name => (parameters.lookup name).isNone :=
    filter_congr fun name member => by rw [agree name member]
  have sameLiterals :
      substitute dialect others (Lexeme.scan dialect statement.toList) =
        substitute dialect parameters (Lexeme.scan dialect statement.toList) := by
    rw [substitute_eq_gather, substitute_eq_gather]
    refine gather_congr fun lexeme member => ?_
    unfold Lexeme.substituted
    split
    · rfl
    · rename_i name named
      rw [agree name (mem_parameterNames.mpr ⟨lexeme, member, named⟩)]
  unfold resolve
  rw [sameMissing, sameLiterals]

/-- A statement without placeholders stays as it is. -/
theorem resolve_of_nameless
    (parameters : Parameters)
    (nameless : parameterNames dialect statement = []) :
    resolve dialect statement parameters = .ok statement := by
  have kept :
      ∀ lexeme ∈ Lexeme.scan dialect statement.toList,
        lexeme.substituted dialect parameters = .ok lexeme.chars := by
    intro lexeme member
    unfold Lexeme.substituted
    split
    · rfl
    · rename_i name named
      have found := mem_parameterNames.mpr ⟨lexeme, member, named⟩
      rw [nameless] at found
      cases found
  rw [resolve_of_supplied (by simp [nameless]), substitute_eq_gather,
    gather_ok kept, ← Lexeme.concat, Lexeme.scan_concat]
  exact congrArg Except.ok String.ofList_toList

/-! ## The first failure -/

@[simp]
theorem errorOf?_map
    (change : α → β)
    (outcome : Except ε α) :
    errorOf? (outcome.map change) = errorOf? outcome := by
  cases outcome <;> rfl

theorem errorOf?_eq_none_iff
    {outcome : Except ε α} :
    errorOf? outcome = none ↔ ∃ result, outcome = .ok result := by
  cases outcome <;> simp [errorOf?]

/-- The failure of a list is that of the first of its items that fails. -/
theorem errorOf?_gather
    (become : α → Except ε (List β))
    (items : List α) :
    errorOf? (gather become items) =
      items.findSome? fun item => errorOf? (become item) := by
  induction items with
  | nil =>
      rfl
  | cons item rest inductionHypothesis =>
      rw [gather, findSome?_cons, ← inductionHypothesis]
      cases become item with
      | error error => rfl
      | ok gathered => exact errorOf?_map _ _

/-- Why the value of a name has no literal. -/
def Parameters.fault? (parameters : Parameters) (name : String) : Option LiteralError :=
  (parameters.lookup name).bind fun value => errorOf? (literal value)

theorem errorOf?_substituted
    (parameters : Parameters)
    (lexeme : Lexeme) :
    errorOf? (lexeme.substituted dialect parameters) =
      lexeme.name?.bind parameters.fault? := by
  unfold Lexeme.substituted
  cases lexeme.name? with
  | none =>
      rfl
  | some name =>
      dsimp only
      rw [errorOf?_map, Option.bind_some, Parameters.fault?]
      cases parameters.lookup name <;> rfl

/-- Putting in literals fails with the first value, by the first use of its name, that has none. -/
theorem errorOf?_substitute
    (dialect : Dialect)
    (statement : String)
    (parameters : Parameters) :
    errorOf? (substitute dialect parameters (Lexeme.scan dialect statement.toList)) =
      (parameterNames dialect statement).findSome? parameters.fault? := by
  have byName :
      (fun lexeme : Lexeme => errorOf? (lexeme.substituted dialect parameters)) =
        fun lexeme => lexeme.name?.bind parameters.fault? :=
    funext (errorOf?_substituted parameters)
  rw [substitute_eq_gather, errorOf?_gather, parameterNames, findSome?_distinct, byName]
  simp only [← head?_filterMap, filterMap_filterMap]

/-! ## Outcomes of resolving -/

/-- The names of a statement that have no value. -/
def missingNames
    (dialect : Dialect)
    (statement : String)
    (parameters : Parameters) :
    List String :=
  (extractedNames dialect statement).filter fun name =>
    (parameters.lookup name).isNone

theorem missingNames_eq_nil_iff
    {parameters : Parameters} :
    missingNames dialect statement parameters = [] ↔
      ∀ name ∈ extractedNames dialect statement,
        (parameters.lookup name).isSome = true := by
  simp [missingNames, filter_eq_nil_iff, Option.isSome_iff_ne_none]

/-- What resolving a statement comes to: names without a value are reported first, then the first
value without a literal. -/
theorem resolve_cases
    (dialect : Dialect)
    (statement : String)
    (parameters : Parameters) :
    (missingNames dialect statement parameters ≠ [] ∧
      resolve dialect statement parameters =
        .error (.missing (missingNames dialect statement parameters))) ∨
    (missingNames dialect statement parameters = [] ∧
      ∃ error,
        (extractedNames dialect statement).findSome? parameters.fault? = some error ∧
          resolve dialect statement parameters = .error (.literal error)) ∨
    (missingNames dialect statement parameters = [] ∧
      (extractedNames dialect statement).findSome? parameters.fault? = none ∧
        ∃ text, resolve dialect statement parameters = .ok text) := by
  by_cases complete : missingNames dialect statement parameters = []
  · have supplied := missingNames_eq_nil_iff.mp complete
    have first := errorOf?_substitute dialect statement parameters
    rw [extractedNames_eq_parameterNames] at supplied ⊢
    rw [resolve_of_supplied supplied, ← first]
    cases substitute dialect parameters (Lexeme.scan dialect statement.toList) with
    | error error => exact Or.inr (Or.inl ⟨complete, error, rfl, rfl⟩)
    | ok cs => exact Or.inr (Or.inr ⟨complete, rfl, _, rfl⟩)
  · refine Or.inl ⟨complete, ?_⟩
    rw [missingNames, extractedNames_eq_parameterNames] at complete ⊢
    unfold resolve
    dsimp only
    rw [if_neg (by simpa using complete)]

variable {parameters : Parameters}

/-- The names without a value are reported, all of them, and only if there are any. -/
theorem resolve_eq_missing_iff
    {names : List String} :
    resolve dialect statement parameters = .error (.missing names) ↔
      names ≠ [] ∧ names = missingNames dialect statement parameters := by
  rcases resolve_cases dialect statement parameters with
    ⟨isMissing, outcome⟩ | ⟨complete, error, _, outcome⟩ | ⟨complete, _, text, outcome⟩
  · rw [outcome]
    constructor
    · intro same
      cases same
      exact ⟨isMissing, rfl⟩
    · rintro ⟨_, rfl⟩
      rfl
  · simp +contextual [outcome, complete]
  · simp +contextual [outcome, complete]

/-- If all names have values, the first value without a literal is reported. -/
theorem resolve_eq_literal_iff
    {error : LiteralError} :
    resolve dialect statement parameters = .error (.literal error) ↔
      missingNames dialect statement parameters = [] ∧
        (extractedNames dialect statement).findSome? parameters.fault? =
          some error := by
  rcases resolve_cases dialect statement parameters with
    ⟨isMissing, outcome⟩ | ⟨complete, error, first, outcome⟩ | ⟨_, first, text, outcome⟩
  · simp [outcome, isMissing]
  · simp [outcome, complete, first]
  · simp [outcome, first]

/-- A statement is resolved exactly if all names have values and each value has a literal. -/
theorem resolve_isOk_iff_fault? :
    (∃ text, resolve dialect statement parameters = .ok text) ↔
      missingNames dialect statement parameters = [] ∧
        (extractedNames dialect statement).findSome? parameters.fault? = none := by
  rcases resolve_cases dialect statement parameters with
    ⟨isMissing, outcome⟩ | ⟨_, error, first, outcome⟩ | ⟨complete, first, text, outcome⟩
  · simp [outcome, isMissing]
  · simp [outcome, first]
  · simp [outcome, complete, first]

/-- A value has no fault exactly if it can be written. -/
theorem fault?_eq_none_iff_of_lookup
    {name : String}
    {value : Value}
    (found : parameters.lookup name = some value) :
    parameters.fault? name = none ↔
      value.isRenderable = true ∧ value.hasShortIntegers = true := by
  rw [Parameters.fault?, found, Option.bind_some, errorOf?_eq_none_iff, literal_isOk_iff]

/-- A statement is resolved exactly if all of its names have values that can be written. -/
theorem resolve_isOk_iff :
    (∃ text, resolve dialect statement parameters = .ok text) ↔
      ∀ name ∈ extractedNames dialect statement, ∃ value,
        parameters.lookup name = some value ∧
          value.isRenderable = true ∧ value.hasShortIntegers = true := by
  rw [resolve_isOk_iff_fault?, missingNames_eq_nil_iff, findSome?_eq_none_iff]
  constructor
  · rintro ⟨supplied, noFault⟩ name member
    obtain ⟨value, found⟩ := Option.isSome_iff_exists.mp (supplied name member)
    exact ⟨value, found,
      (fault?_eq_none_iff_of_lookup found).mp (noFault name member)⟩
  · intro writable
    refine ⟨fun name member => ?_, fun name member => ?_⟩
    · obtain ⟨value, found, _⟩ := writable name member
      rw [found, Option.isSome_some]
    · obtain ⟨value, found, canWrite⟩ := writable name member
      exact (fault?_eq_none_iff_of_lookup found).mpr canWrite

/-- As long as no integer is too long, the value that is reported is of a kind that cannot be
written. -/
theorem unsupported_of_fault?
    {name : String}
    (short :
      ∀ value, parameters.lookup name = some value →
        value.hasShortIntegers = true)
    {error : LiteralError}
    (isFault : parameters.fault? name = some error) :
    ∃ value part,
      parameters.lookup name = some value ∧ value.isRenderable = false ∧
        error = .unsupported part := by
  obtain ⟨value, found, isFault⟩ := Option.bind_eq_some_iff.mp isFault
  have outcome := literal_outcome value
  generalize literal value = result at outcome isFault
  cases outcome with
  | written => cases isFault
  | unsupported notRenderable =>
      cases isFault
      exact ⟨value, _, found, notRenderable, rfl⟩
  | longInteger long =>
      rw [short value found] at long
      cases long

/-- If all names have values without a long integer, a value is unsupported exactly if it is of a
kind that cannot be written. -/
theorem resolve_unsupported_iff
    (complete : missingNames dialect statement parameters = [])
    (short :
      ∀ name ∈ extractedNames dialect statement, ∀ value,
        parameters.lookup name = some value →
          value.hasShortIntegers = true) :
    (∃ part,
        resolve dialect statement parameters =
          .error (.literal (.unsupported part))) ↔
      ∃ name ∈ extractedNames dialect statement, ∃ value,
        parameters.lookup name = some value ∧ value.isRenderable = false := by
  simp only [resolve_eq_literal_iff, complete, true_and]
  constructor
  · rintro ⟨part, first⟩
    obtain ⟨name, member, isFault⟩ := exists_of_findSome?_eq_some first
    obtain ⟨value, _, found, notRenderable, _⟩ :=
      unsupported_of_fault? (short name member) isFault
    exact ⟨name, member, value, found, notRenderable⟩
  · rintro ⟨name, member, value, found, notRenderable⟩
    cases first : (extractedNames dialect statement).findSome? parameters.fault? with
    | none =>
        have noFault := findSome?_eq_none_iff.mp first name member
        rw [fault?_eq_none_iff_of_lookup found, notRenderable] at noFault
        cases noFault.1
    | some error =>
        obtain ⟨name', member', isFault⟩ := exists_of_findSome?_eq_some first
        obtain ⟨_, part, _, _, rfl⟩ :=
          unsupported_of_fault? (short name' member') isFault
        exact ⟨part, rfl⟩

/-! ## The leaf that is reported -/

/-- The first leaf without a literal of the first value that has one, in the order of the names of
the values. -/
def Parameters.FirstRefused
    (parameters : Parameters)
    (names : List String)
    (leaf : Value) :
    Prop :=
  ∃ before name after,
    names = before ++ name :: after ∧
      (∀ other ∈ before, ∀ value, parameters.lookup other = some value →
        ∀ leaf ∈ value.leaves, leaf.HasLiteral) ∧
      ∃ value, parameters.lookup name = some value ∧ value.FirstRefused leaf

/-- The value of a name has no fault exactly if all of its leaves have literals. -/
theorem fault?_eq_none_iff
    {name : String} :
    parameters.fault? name = none ↔
      ∀ value, parameters.lookup name = some value → ∀ leaf ∈ value.leaves, leaf.HasLiteral := by
  rw [Parameters.fault?, Option.bind_eq_none_iff]
  exact forall₂_congr fun value _ => errorOf?_eq_none_iff.trans literal_isOk_iff_leaves

/-- The fault of the value of a name is that of its first leaf without a literal. -/
theorem fault?_eq_some_iff
    {name : String}
    {error : LiteralError} :
    parameters.fault? name = some error ↔
      ∃ value,
        parameters.lookup name = some value ∧
          ∃ leaf, value.FirstRefused leaf ∧ error = .ofValue leaf := by
  have refused (value : Value) :
      errorOf? (literal value) = some error ↔
        ∃ leaf, value.FirstRefused leaf ∧ error = .ofValue leaf := by
    have isError : errorOf? (literal value) = some error ↔ literal value = .error error := by
      cases literal value <;> simp [errorOf?]
    rw [isError, literal_eq_error_iff]
    constructor
    · rintro ⟨before, leaf, after, split, written, noLiteral, isOwn⟩
      exact ⟨leaf, ⟨before, after, split, written, noLiteral⟩, isOwn⟩
    · rintro ⟨leaf, ⟨before, after, split, written, noLiteral⟩, isOwn⟩
      exact ⟨before, leaf, after, split, written, noLiteral, isOwn⟩
  rw [Parameters.fault?, Option.bind_eq_some_iff]
  exact exists_congr fun value => and_congr_right fun _ => refused value

/-- If all names have values, the first leaf without a literal is reported. -/
theorem resolve_eq_literal_iff_leaf
    {error : LiteralError} :
    resolve dialect statement parameters = .error (.literal error) ↔
      missingNames dialect statement parameters = [] ∧
        ∃ leaf,
          parameters.FirstRefused (extractedNames dialect statement) leaf ∧
            error = .ofValue leaf := by
  rw [resolve_eq_literal_iff, findSome?_eq_some_iff]
  refine and_congr_right fun _ => ?_
  constructor
  · rintro ⟨before, name, after, split, isFault, noFaults⟩
    obtain ⟨value, found, leaf, isFirst, isOwn⟩ := fault?_eq_some_iff.mp isFault
    exact ⟨leaf,
      ⟨before, name, after, split,
        fun other member => fault?_eq_none_iff.mp (noFaults other member),
        value, found, isFirst⟩,
      isOwn⟩
  · rintro ⟨leaf, ⟨before, name, after, split, written, value, found, isFirst⟩, isOwn⟩
    exact ⟨before, name, after, split,
      fault?_eq_some_iff.mpr ⟨value, found, leaf, isFirst, isOwn⟩,
      fun other member => fault?_eq_none_iff.mpr (written other member)⟩

/-- A leaf is reported as unsupported if the integers in it are short, so that it can be shown. -/
theorem unsupported_eq_ofValue_iff
    {part leaf : Value} :
    LiteralError.unsupported part = .ofValue leaf ↔
      part = leaf ∧ leaf.hasShortIntegers = true := by
  rw [LiteralError.ofValue]
  split <;> simp_all

/-- How the outcome of resolving a statement follows from the names that are found in it and their
values. -/
structure ResolvesByNames
    (dialect : Dialect)
    (statement : String)
    (parameters : Parameters) :
    Prop where
  /-- Statements without a colon need not be read for their names. -/
  allNames :
    extractedNames dialect statement = parameterNames dialect statement
  /-- The names are listed by their first use, each of them once. -/
  firstUses :
    let uses := (Lexeme.scan dialect statement.toList).filterMap Lexeme.name?
    (∀ name, name ∈ extractedNames dialect statement ↔ name ∈ uses) ∧
      (extractedNames dialect statement).Pairwise fun first second =>
        uses.idxOf first < uses.idxOf second
  /-- Values under other names make no difference. -/
  determined :
    ∀ others : Parameters,
      (∀ name ∈ extractedNames dialect statement,
        others.lookup name = parameters.lookup name) →
      resolve dialect statement others = resolve dialect statement parameters
  /-- Names without a value are reported before anything else, and all of them. -/
  missing :
    ∀ names,
      resolve dialect statement parameters = .error (.missing names) ↔
        names ≠ [] ∧ names = missingNames dialect statement parameters
  /-- Otherwise the first leaf without a literal, of the first value that has one, is reported as
  unsupported, if the integers in it are short. -/
  unsupported :
    ∀ leaf,
      resolve dialect statement parameters = .error (.literal (.unsupported leaf)) ↔
        missingNames dialect statement parameters = [] ∧
          parameters.FirstRefused (extractedNames dialect statement) leaf ∧
            leaf.hasShortIntegers = true
  /-- If an integer in that leaf is too long to be written, this is reported instead. -/
  longInteger :
    resolve dialect statement parameters = .error (.literal .longInteger) ↔
      missingNames dialect statement parameters = [] ∧
        ∃ leaf,
          parameters.FirstRefused (extractedNames dialect statement) leaf ∧
            leaf.hasShortIntegers = false
  /-- So a value is unsupported exactly if it is of a kind that cannot be written, as long as no
  integer is too long. -/
  unrenderable :
    missingNames dialect statement parameters = [] →
    (∀ name ∈ extractedNames dialect statement, ∀ value,
      parameters.lookup name = some value → value.hasShortIntegers = true) →
    ((∃ part,
        resolve dialect statement parameters =
          .error (.literal (.unsupported part))) ↔
      ∃ name ∈ extractedNames dialect statement, ∃ value,
        parameters.lookup name = some value ∧ value.isRenderable = false)
  /-- A statement is resolved exactly if all of its names have values that can be written. -/
  resolved :
    (∃ text, resolve dialect statement parameters = .ok text) ↔
      ∀ name ∈ extractedNames dialect statement, ∃ value,
        parameters.lookup name = some value ∧
          value.isRenderable = true ∧ value.hasShortIntegers = true
  /-- A statement without names stays as it is. -/
  unchanged :
    extractedNames dialect statement = [] →
      resolve dialect statement parameters = .ok statement

/-- All names without a value are reported, before a value that has no literal. -/
example :
    resolve .postgres "SELECT ':a', b::c, :d, :e, :f, :d"
        [("e", .mapping []), ("a", .null)] matches
      .error (.missing ["d", "f"]) := by
  decide +kernel

end QueryGateway.Sql
