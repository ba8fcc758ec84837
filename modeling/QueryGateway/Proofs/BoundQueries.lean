import QueryGateway.Proofs.ChangedQueries
import QueryGateway.Proofs.Gathering

/-!
# Giving values to the parameters of a query

A value can be given to a parameter before the query is compiled, as a
constant in its place, or afterwards, as a literal in the place of its
placeholder.  Both ways lead to the same statement, or fail with the same
message.

On pieces the second way is `boundPieces`.  That it is also what happens to the
text is due to the pieces being tidy; that it is also what happens to the query
is a relation between renderings (`Rendering.BindsTo`) that is kept when they
are put together.
-/

namespace QueryGateway

open List Sql

namespace Sql

/-! ## Values for the placeholders of pieces -/

variable (parameters : Parameters)

/-- The value that a piece is to be replaced by. -/
def Piece.value? (piece : Piece) : Option Value :=
  piece.name?.bind fun name => parameters.lookup name

/-- What a piece becomes when parameters have values; a placeholder without a value stays. -/
def Piece.bound (piece : Piece) : Except LiteralError (List Piece) :=
  match piece.value? parameters with
  | some value => literal value
  | none => .ok [piece]

/-- What pieces become when parameters have values, up to the first value without a literal. -/
def boundPieces (pieces : List Piece) : Except LiteralError (List Piece) :=
  gather (Piece.bound parameters) pieces

/-- Pieces without a placeholder stay as they are. -/
theorem boundPieces_nameless
    {pieces : List Piece}
    (nameless : pieces.filterMap Piece.name? = []) :
    boundPieces parameters pieces = .ok pieces := by
  have same : ∀ piece ∈ pieces, piece.bound parameters = .ok [piece] := by
    intro piece member
    have noName := filterMap_eq_nil_iff.mp nameless piece member
    simp [Piece.bound, Piece.value?, noName]
  simpa [boundPieces] using gather_ok same

/-- A failure is the failure of the value of a placeholder. -/
theorem literal_of_boundPieces_error
    {pieces : List Piece}
    {cause : LiteralError}
    (failed : boundPieces parameters pieces = .error cause) :
    ∃ name ∈ pieces.filterMap Piece.name?, ∃ value,
      parameters.lookup name = some value ∧ literal value = .error cause := by
  obtain ⟨piece, member, pieceFailed⟩ := exists_of_gather_error failed
  unfold Piece.bound at pieceFailed
  split at pieceFailed
  · rename_i value isValue
    obtain ⟨name, isName, found⟩ := Option.bind_eq_some_iff.mp isValue
    exact ⟨name, mem_filterMap.mpr ⟨piece, member, isName⟩, value, found,
      pieceFailed⟩
  · simp at pieceFailed

/-- Pieces can be given values exactly if the values of all placeholders can be written. -/
theorem boundPieces_isOk_iff
    (pieces : List Piece) :
    (∃ bound, boundPieces parameters pieces = .ok bound) ↔
      ∀ name ∈ pieces.filterMap Piece.name?, ∀ value,
        parameters.lookup name = some value →
          value.isRenderable = true ∧ value.hasShortIntegers = true := by
  unfold boundPieces
  rw [gather_isOk_iff]
  constructor
  · intro succeeds name named value found
    obtain ⟨piece, member, isName⟩ := mem_filterMap.mp named
    obtain ⟨bound, isBound⟩ := succeeds piece member
    simp only [Piece.bound, Piece.value?, isName, Option.bind_some, found]
      at isBound
    exact (literal_isOk_iff value).mp ⟨bound, isBound⟩
  · intro writable piece member
    unfold Piece.bound
    split
    · rename_i value isValue
      obtain ⟨name, isName, found⟩ := Option.bind_eq_some_iff.mp isValue
      exact (literal_isOk_iff value).mpr
        (writable name (mem_filterMap.mpr ⟨piece, member, isName⟩) value found)
    · exact ⟨_, rfl⟩

/-! ## Values for the placeholders of a text -/

/-- The lexemes of a piece make up its text. -/
theorem Piece.concat_lexemes
    (dialect : Dialect)
    (piece : Piece) :
    (piece.lexemes dialect).flatMap Lexeme.chars = piece.chars dialect := by
  cases piece <;>
    simp [lexemes, chars, Lexeme.chars, flatMap_map]

/-- The lexemes of a piece become what the piece becomes, if it is no placeholder without a
value. -/
theorem gather_lexemes
    (dialect : Dialect)
    {piece : Piece}
    (supplied :
      ∀ name, piece.name? = some name → (parameters.lookup name).isSome = true) :
    gather (Lexeme.substituted dialect parameters) (piece.lexemes dialect) =
      (piece.bound parameters).map (Piece.allChars dialect) := by
  cases named : piece.name? with
  | none =>
      have same :
          ∀ lexeme ∈ piece.lexemes dialect,
            lexeme.substituted dialect parameters = .ok lexeme.chars := by
        intro lexeme member
        have nameless := Piece.name?_lexemes dialect piece
        rw [named, Option.toList_none, filterMap_eq_nil_iff] at nameless
        simp [Lexeme.substituted, nameless lexeme member]
      rw [gather_ok same, Piece.concat_lexemes]
      simp [Piece.bound, Piece.value?, named, Except.map, Piece.allChars]
  | some name =>
      cases piece with
      | placeholder name' =>
          have sameName : name' = name := by
            simpa [Piece.name?] using named
          subst name'
          obtain ⟨value, found⟩ := Option.isSome_iff_exists.mp (supplied name named)
          simp only [Piece.lexemes, gather, Lexeme.substituted, Lexeme.name?,
            Piece.bound, Piece.value?, Piece.name?, String.ofList_toList,
            Option.bind_some, found, Option.getD_some]
          cases literal value <;> simp [Except.map]
      | bare text =>
          simp [Piece.name?] at named
      | truth value =>
          simp [Piece.name?] at named
      | quoted kind content =>
          simp [Piece.name?] at named
      | raw text =>
          simp [Piece.name?] at named

/-- The text of tidy pieces becomes the text of what the pieces become. -/
theorem substitute_write
    (dialect : Dialect)
    {pieces : List Piece}
    (tidy : Piece.Tidy pieces)
    (supplied :
      ∀ name ∈ pieces.filterMap Piece.name?,
        (parameters.lookup name).isSome = true) :
    substitute dialect parameters
        (Lexeme.scan dialect (Piece.write dialect pieces).toList) =
      (boundPieces parameters pieces).map (Piece.allChars dialect) := by
  rw [Piece.toList_write, Lexeme.scan_allChars dialect tidy,
    substitute_eq_gather]
  apply gather_flatMap rfl (Piece.allChars_append dialect)
  intro piece member
  apply gather_lexemes
  intro name isName
  exact supplied name (mem_filterMap.mpr ⟨piece, member, isName⟩)

/-- Leaving out repetitions leaves out no name. -/
theorem mem_distinct
    {name : String}
    {names : List String} :
    name ∈ distinct names ↔ name ∈ names := by
  have accumulated :
      ∀ seen : List String,
        name ∈ names.foldl
            (fun seen name =>
              if seen.contains name then seen else seen ++ [name]) seen ↔
          name ∈ seen ∨ name ∈ names := by
    induction names with
    | nil =>
        simp
    | cons first rest inductionHypothesis =>
        intro seen
        rw [foldl_cons, inductionHypothesis]
        by_cases known : seen.contains first = true
        · rw [if_pos known]
          have member : first ∈ seen := by simpa using known
          constructor
          · rintro (inSeen | inRest)
            · exact Or.inl inSeen
            · exact Or.inr (mem_cons_of_mem first inRest)
          · rintro (inSeen | inList)
            · exact Or.inl inSeen
            · rcases mem_cons.mp inList with rfl | inRest
              · exact Or.inl member
              · exact Or.inr inRest
        · rw [if_neg known]
          simp [or_assoc]
  simpa [distinct] using accumulated []

/-- If every placeholder of a text has a value, resolving it is putting in the literals. -/
theorem resolve_of_supplied
    {parameters : Parameters}
    {dialect : Dialect}
    {text : String}
    (supplied :
      ∀ name ∈ parameterNames dialect text,
        (parameters.lookup name).isSome = true) :
    resolve dialect text parameters =
      match substitute dialect parameters (Lexeme.scan dialect text.toList) with
      | .ok cs => .ok (String.ofList cs)
      | .error cause => .error (.literal cause) := by
  have missing :
      ((parameterNames dialect text).filter
        fun name => (parameters.lookup name).isNone).isEmpty = true := by
    rw [List.isEmpty_iff, filter_eq_nil_iff]
    intro name member
    simp [Option.isSome_iff_ne_none.mp (supplied name member)]
  unfold resolve
  cases outcome :
      substitute dialect parameters (Lexeme.scan dialect text.toList) <;>
    simp [missing]

/-- If a placeholder of a text has no value, the text is not resolved. -/
theorem resolve_missing
    {parameters : Parameters}
    {dialect : Dialect}
    {text name : String}
    (named : name ∈ parameterNames dialect text)
    (noValue : parameters.lookup name = none) :
    ∃ names, resolve dialect text parameters = .error (.missing names) := by
  have missing :
      ((parameterNames dialect text).filter
        fun name => (parameters.lookup name).isNone).isEmpty = false := by
    rw [isEmpty_eq_false_iff]
    exact ne_nil_of_mem (mem_filter.mpr ⟨named, by simp [noValue]⟩)
  unfold resolve
  simp only [missing, Bool.false_eq_true, ↓reduceIte]
  exact ⟨_, rfl⟩

/-- If every parameter of tidy pieces has a value, their text is resolved to the text of what the
pieces become. -/
theorem resolve_write
    (dialect : Dialect)
    {pieces : List Piece}
    (tidy : Piece.Tidy pieces)
    (supplied :
      ∀ name ∈ pieces.filterMap Piece.name?,
        (parameters.lookup name).isSome = true) :
    resolve dialect (Piece.write dialect pieces) parameters =
      match boundPieces parameters pieces with
      | .ok bound => .ok (Piece.write dialect bound)
      | .error cause => .error (.literal cause) := by
  have textSupplied :
      ∀ name ∈ parameterNames dialect (Piece.write dialect pieces),
        (parameters.lookup name).isSome = true := by
    intro name member
    rw [parameterNames_write dialect tidy] at member
    exact supplied name (mem_distinct.mp member)
  rw [resolve_of_supplied textSupplied,
    substitute_write parameters dialect tidy supplied]
  cases boundPieces parameters pieces <;> rfl

/-- If a parameter of tidy pieces has no value, their text is not resolved. -/
theorem resolve_write_missing
    (dialect : Dialect)
    {pieces : List Piece}
    (tidy : Piece.Tidy pieces)
    {name : String}
    (named : name ∈ pieces.filterMap Piece.name?)
    (noValue : parameters.lookup name = none) :
    ∃ names,
      resolve dialect (Piece.write dialect pieces) parameters =
        .error (.missing names) := by
  refine resolve_missing ?_ noValue
  rw [parameterNames_write dialect tidy]
  exact mem_distinct.mpr named

end Sql

/-! ## Values for the parameters of a query -/

/-- An operand with its value in place of the parameter that it stands for, if it has one. -/
def Operand.bind (parameters : Parameters) : Operand → Operand
  | .column table name => .column table name
  | .literal value => .literal value
  | .parameter none => .parameter none
  | .parameter (some name) =>
      match parameters.lookup name with
      | some value => .literal value
      | none => .parameter (some name)

/-- A query with a constant in place of each parameter that has a value. -/
def VisualQuery.bind (parameters : Parameters) (query : VisualQuery) : VisualQuery :=
  query.mapParts .identity (Operand.bind parameters) id

/-- The compile error that a literal error leads to in a clause. -/
def Sql.LiteralError.inClause (clause : Clause) : LiteralError → CompileError
  | .unsupported value => .fault clause (.unsupportedLiteral value)
  | .longInteger => .longInteger

theorem Sql.LiteralError.message_inClause
    (clause : Clause)
    (cause : LiteralError) :
    (cause.inClause clause).message = cause.message := by
  cases cause <;> rfl

theorem Rendering.ofLiteral_eq
    (clause : Clause)
    (value : Value) :
    ofLiteral clause value =
      match literal value with
      | .ok pieces => of pieces
      | .error cause => fail (cause.inClause clause) := by
  unfold ofLiteral
  cases literal value with
  | ok pieces =>
      rfl
  | error cause =>
      cases cause <;> rfl

namespace Rendering

/-- A rendering that does not fail becomes another one when parameters have values. -/
def BindsTo (parameters : Parameters) (rendering bound : Rendering) : Prop :=
  rendering.failure = none →
    match boundPieces parameters rendering.pieces with
    | .ok pieces => bound = of pieces
    | .error cause => ∃ clause, bound.failure = some (cause.inClause clause)

namespace BindsTo

variable {parameters : Parameters}

theorem nameless
    {pieces : List Piece}
    (noNames : pieces.filterMap Piece.name? = []) :
    BindsTo parameters (of pieces) (of pieces) := by
  intro _
  simp [of, boundPieces_nameless parameters noNames]

theorem fail
    (error : CompileError)
    (bound : Rendering) :
    BindsTo parameters (Rendering.fail error) bound := by
  intro succeeds
  simp [Rendering.fail] at succeeds

theorem append
    {first boundFirst second boundSecond : Rendering}
    (firstBinds : BindsTo parameters first boundFirst)
    (secondBinds : BindsTo parameters second boundSecond) :
    BindsTo parameters (first ++ second) (boundFirst ++ boundSecond) := by
  intro succeeds
  rw [failure_append, Option.or_eq_none_iff] at succeeds
  have firstBinds := firstBinds succeeds.1
  have secondBinds := secondBinds succeeds.2
  rw [pieces_append_of_ok second succeeds.1, boundPieces, gather_append]
  unfold boundPieces at firstBinds secondBinds
  cases firstOutcome :
      gather (Piece.bound parameters) first.pieces with
  | error cause =>
      rw [firstOutcome] at firstBinds
      obtain ⟨clause, failed⟩ := firstBinds
      exact ⟨clause, by simp [failed]⟩
  | ok firstPieces =>
      rw [firstOutcome] at firstBinds
      subst boundFirst
      cases secondOutcome :
          gather (Piece.bound parameters) second.pieces with
      | error cause =>
          rw [secondOutcome] at secondBinds
          obtain ⟨clause, failed⟩ := secondBinds
          exact ⟨clause, by simp [failed]⟩
      | ok secondPieces =>
          rw [secondOutcome] at secondBinds
          subst boundSecond
          rfl

theorem ofLiteral
    (clause : Clause)
    (value : Value) :
    BindsTo parameters (Rendering.ofLiteral clause value)
      (Rendering.ofLiteral clause value) := by
  rcases ofLiteral_cases clause value with
    ⟨error, refused⟩ | ⟨pieces, written, _, noNames⟩
  · rw [refused]
    exact fail error _
  · rw [written]
    exact nameless noNames

/-- A placeholder becomes the literal of its value. -/
theorem placeholder
    (clause : Clause)
    {name : String}
    {value : Value}
    (found : parameters.lookup name = some value) :
    BindsTo parameters (of [.placeholder name])
      (Rendering.ofLiteral clause value) := by
  intro _
  have bound :
      boundPieces parameters [.placeholder name] = literal value := by
    simp only [boundPieces, gather, Piece.bound, Piece.value?, Piece.name?,
      Option.bind_some, found]
    cases literal value <;> simp [Except.map]
  rw [ofLiteral_eq, of, bound]
  cases literal value with
  | ok pieces =>
      rfl
  | error cause =>
      exact ⟨clause, rfl⟩

/-- A placeholder without a value stays. -/
theorem unbound
    {name : String}
    (missing : parameters.lookup name = none) :
    BindsTo parameters (of [.placeholder name]) (of [.placeholder name]) := by
  intro _
  have bound :
      boundPieces parameters [.placeholder name] = .ok [.placeholder name] := by
    simp [boundPieces, gather, Piece.bound, Piece.value?, Piece.name?,
      missing, Except.map]
  rw [of, bound]
  rfl

end BindsTo

end Rendering

theorem Operand.bindsTo_rendering
    (parameters : Parameters)
    (clause : Clause)
    (operand : Operand) :
    Rendering.BindsTo parameters (operand.rendering clause)
      ((operand.bind parameters).rendering clause) := by
  rcases operand.rendering_cases clause with
    ⟨error, refused⟩ | ⟨table, name, rfl, written⟩ | ⟨value, rfl, _⟩ |
      ⟨name, rfl, _, written⟩
  · rw [refused]
    exact .fail error _
  · rw [bind, written]
    exact .nameless (name?_qualified table name)
  · exact .ofLiteral clause value
  · cases found : parameters.lookup name with
    | none =>
        simp only [bind, found]
        rw [written]
        exact .unbound found
    | some value =>
        simp only [bind, found]
        rw [written]
        exact .placeholder clause found

/-- Giving values to parameters is a change of operands that renderings follow. -/
theorem bindsTo_parts
    (parameters : Parameters) :
    PartsRelated (Rendering.BindsTo parameters) .identity
      (Operand.bind parameters) id where
  fixed _ noNames := .nameless noNames
  fail error _ := .fail error _
  append := .append
  identifiers _ := .nameless rfl
  operands clause part := part.bindsTo_rendering parameters clause
  patterns _ := .nameless rfl

/-- A query that is compiled is compiled with the values of its parameters to the same statement
as if they were put in afterwards, or the values fail in the same way. -/
theorem VisualQuery.bindsTo_rendering
    (parameters : Parameters)
    (dialect : Dialect)
    (query : VisualQuery) :
    Rendering.BindsTo parameters (query.rendering dialect)
      ((query.bind parameters).rendering dialect) :=
  query.related_rendering (bindsTo_parts parameters) dialect

/-- If every parameter of a query that is written has a value, the text of the query and the query
with the values in place fare as its pieces do. -/
theorem VisualQuery.resolve_rendering
    (dialect : Dialect)
    {query : VisualQuery}
    (plain : query.ExpressionsArePlain)
    (succeeds : (query.rendering dialect).failure = none)
    {parameters : Parameters}
    (supplied :
      ∀ name ∈ query.parameterUses,
        (parameters.lookup name).isSome = true) :
    let pieces := (query.rendering dialect).pieces
    (∃ bound, boundPieces parameters pieces = .ok bound ∧
      (query.bind parameters).rendering dialect = .of bound ∧
      resolve dialect (Piece.write dialect pieces) parameters =
        .ok (Piece.write dialect bound)) ∨
    (∃ cause clause, boundPieces parameters pieces = .error cause ∧
      ((query.bind parameters).rendering dialect).failure =
        some (cause.inClause clause) ∧
      resolve dialect (Piece.write dialect pieces) parameters =
        .error (.literal cause)) := by
  intro pieces
  have uses : pieces.filterMap Piece.name? = query.parameterUses :=
    query.uses_rendering dialect succeeds
  have binds := query.bindsTo_rendering parameters dialect succeeds
  have resolved :=
    resolve_write parameters dialect (query.tidy_rendering dialect plain)
      (uses ▸ supplied)
  cases outcome : boundPieces parameters pieces with
  | ok bound =>
      rw [outcome] at binds resolved
      exact Or.inl ⟨bound, rfl, binds, resolved⟩
  | error cause =>
      rw [outcome] at binds resolved
      obtain ⟨clause, failed⟩ := binds
      exact Or.inr ⟨cause, clause, rfl, failed, resolved⟩

/-- Pieces whose placeholders have all been given values hold no placeholder. -/
theorem Sql.nameless_boundPieces
    {parameters : Parameters}
    {pieces bound : List Piece}
    (supplied :
      ∀ name ∈ pieces.filterMap Piece.name?,
        (parameters.lookup name).isSome = true)
    (isBound : boundPieces parameters pieces = .ok bound) :
    ∀ piece ∈ bound, piece.name? = none := by
  intro part member
  obtain ⟨piece, inPieces, front, isFront, inFront⟩ :=
    exists_of_mem_gather isBound member
  unfold Piece.bound at isFront
  split at isFront
  · rename_i value _
    have outcome := literal_outcome value
    rw [isFront] at outcome
    cases outcome with
    | written _ _ _ noNames => exact filterMap_eq_nil_iff.mp noNames part inFront
  · rename_i noValue
    cases isFront
    rw [mem_singleton.mp inFront]
    cases named : piece.name? with
    | none =>
        rfl
    | some name =>
        have isSupplied :=
          supplied name (mem_filterMap.mpr ⟨piece, inPieces, named⟩)
        rw [Piece.value?, named, Option.bind_some] at noValue
        rw [noValue] at isSupplied
        cases isSupplied

/-- A statement that is resolved is written from the query with its values, and no placeholder is
left in it. -/
theorem VisualQuery.bind_of_resolve
    {dialect : Dialect}
    {query : VisualQuery}
    (plain : query.ExpressionsArePlain)
    (succeeds : (query.rendering dialect).failure = none)
    {parameters : Parameters}
    {statement : String}
    (isResolved :
      resolve dialect (Piece.write dialect (query.rendering dialect).pieces)
        parameters = .ok statement) :
    ∃ bound,
      (query.bind parameters).rendering dialect = .of bound ∧
        statement = Piece.write dialect bound ∧
          ∀ piece ∈ bound, piece.name? = none := by
  have tidy := query.tidy_rendering dialect plain
  have supplied :
      ∀ name ∈ (query.rendering dialect).pieces.filterMap Piece.name?,
        (parameters.lookup name).isSome = true := by
    intro name named
    cases found : parameters.lookup name with
    | some value =>
        rfl
    | none =>
        obtain ⟨names, refused⟩ :=
          resolve_write_missing parameters dialect tidy named found
        rw [refused] at isResolved
        cases isResolved
  have uses := query.uses_rendering dialect succeeds
  rcases resolve_rendering dialect plain succeeds (uses ▸ supplied) with
    ⟨bound, isBound, written, resolved⟩ | ⟨_, _, _, _, refused⟩
  · rw [resolved] at isResolved
    cases isResolved
    exact ⟨bound, written, rfl, nameless_boundPieces supplied isBound⟩
  · rw [refused] at isResolved
    cases isResolved

/-- Giving values to the parameters of a compiled query leads to the same statement as compiling
the query with the values in the places of the parameters.  Both ways fail with the same message
if one of the values cannot be written, and only then. -/
theorem VisualQuery.resolve_compile
    (dialect : Dialect)
    {query : VisualQuery}
    (plain : query.ExpressionsArePlain)
    {compiled : CompiledQuery}
    (isCompiled : query.compile dialect = .ok compiled)
    {parameters : Parameters}
    (supplied :
      ∀ name ∈ query.parameterUses,
        (parameters.lookup name).isSome = true) :
    (∀ bound, (query.bind parameters).compile dialect = .ok bound →
      resolve dialect compiled.sql parameters = .ok bound.sql) ∧
    (∀ error, (query.bind parameters).compile dialect = .error error →
      ∃ refusal, resolve dialect compiled.sql parameters = .error refusal ∧
        refusal.message = error.message ∧
        ((∀ name ∈ query.parameterUses, ∀ value,
            parameters.lookup name = some value →
              value.hasShortIntegers = true) →
          ∃ part clause,
            refusal = .literal (.unsupported part) ∧
              error = .fault clause (.unsupportedLiteral part))) ∧
    ((∃ bound, (query.bind parameters).compile dialect = .ok bound) ↔
      ∀ name ∈ query.parameterUses, ∀ value,
        parameters.lookup name = some value →
          value.isRenderable = true ∧ value.hasShortIntegers = true) := by
  obtain ⟨succeeds, rfl⟩ := compile_eq_ok isCompiled
  have uses := query.uses_rendering dialect succeeds
  have writable := boundPieces_isOk_iff parameters (query.rendering dialect).pieces
  rw [uses] at writable
  rw [← writable]
  rcases resolve_rendering dialect plain succeeds supplied with
    ⟨bound, isBound, written, resolved⟩ | ⟨cause, clause, notBound, failed, refused⟩
  · have compiledBound :
        (query.bind parameters).compile dialect =
          .ok
            { sql := Piece.write dialect bound
              parameterNames := (Rendering.of bound).parameterNames
              dialect := dialect.name } := by
      rw [compile_of_ok (by rw [written]; rfl), written]
      rfl
    simp [compiledBound, isBound, resolved]
  · have compileFails := compile_of_failure failed
    refine ⟨?_, ?_, ?_⟩
    · simp [compileFails]
    · intro error isError
      rw [compileFails, Except.error.injEq] at isError
      subst error
      refine ⟨.literal cause, refused, ?_, ?_⟩
      · rw [LiteralError.message_inClause]
        rfl
      · intro short
        obtain ⟨name, named, value, found, notWritten⟩ :=
          literal_of_boundPieces_error parameters notBound
        rw [uses] at named
        have shortValue := short name named value found
        have outcome := literal_outcome value
        rw [notWritten] at outcome
        cases outcome with
        | unsupported _ =>
            exact ⟨_, clause, rfl, rfl⟩
        | longInteger long =>
            simp [shortValue] at long
    · simp [compileFails, notBound]

/-- Values for the parameters of the sample; one looks like a placeholder behind a quote. -/
def Sql.Parameters.sample : Parameters :=
  [("stop", .list [.null, .bool true]), ("start", .text "' :stop")]

/-- The values of the sample are enough for its parameters. -/
theorem VisualQuery.sample_supplied :
    ∀ name ∈ sample.parameterUses,
      (Parameters.sample.lookup name).isSome = true := by
  decide

/-- The sample with values for its parameters. -/
theorem VisualQuery.resolve_compile_sample :
    ∃ compiled bound,
      sample.compile .postgres = .ok compiled ∧
        (sample.bind Parameters.sample).compile .postgres = .ok bound ∧
        resolve .postgres compiled.sql Parameters.sample = .ok bound.sql := by
  have isCompiled : sample.compile .postgres = .ok _ :=
    compile_of_ok rfl
  have isBound : (sample.bind Parameters.sample).compile .postgres = .ok _ :=
    compile_of_ok rfl
  have same :=
    (resolve_compile .postgres sample_plain isCompiled sample_supplied).1
  exact ⟨_, _, isCompiled, isBound, same _ isBound⟩

end QueryGateway
