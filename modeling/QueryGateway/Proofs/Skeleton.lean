import QueryGateway.Proofs.BoundQueries

/-!
# Contents stay in their tokens

The skeleton of a statement is what is left when the content of every quoted
token is forgotten.  Names, texts and values given to parameters cannot change
it: two queries that differ only in contents, with values that differ only in
contents, lead to statements with the same skeleton.

On the way from a query to its statement the contents are forgotten at three
places, in the query (`VisualQuery.masked`), in the pieces (`Piece.outline`)
and in the text (`skeleton`).
-/

namespace QueryGateway

open List Sql

/-! ## Skeletons of statements -/

namespace Sql

/-- A quoted token of which only the mark is left, or a character outside of quoted tokens. -/
inductive SkeletonPart where
  | token (mark : Char)
  | character (c : Char)
  deriving Repr, DecidableEq

/-- The skeleton of a text.  The number counts characters at its front that belong to a token
already read. -/
def skeletonFrom (dialect : Dialect) : Nat → List Char → List SkeletonPart
  | _, [] => []
  | taken + 1, _ :: rest => skeletonFrom dialect taken rest
  | 0, c :: rest =>
      match Lexeme.quotedLength? dialect (c :: rest) with
      | some length => .token c :: skeletonFrom dialect (length - 1) rest
      | none => .character c :: skeletonFrom dialect 0 rest

/-- The skeleton of a statement: its quoted tokens, read from left to right, without their
contents. -/
def skeleton (dialect : Dialect) (statement : String) : List SkeletonPart :=
  skeletonFrom dialect 0 statement.toList

/-- The skeleton of a piece. -/
def Piece.skeleton (dialect : Dialect) : Piece → List SkeletonPart
  | .bare text => text.toList.map .character
  | .truth value => (dialect.truthText value).toList.map .character
  | .quoted kind _ => [.token (dialect.style kind).mark]
  | .placeholder name => .character ':' :: name.toList.map .character
  | .raw text => text.toList.map .character

/-- The rest of a token that is already read is passed over. -/
theorem skeletonFrom_append
    (dialect : Dialect)
    (taken rest : List Char) :
    skeletonFrom dialect taken.length (taken ++ rest) =
      skeletonFrom dialect 0 rest := by
  induction taken with
  | nil =>
      rfl
  | cons c taken inductionHypothesis =>
      rw [length_cons, cons_append, skeletonFrom, inductionHypothesis]

/-- Characters that are no marks stand for themselves. -/
theorem skeletonFrom_unmarked
    (dialect : Dialect)
    {cs : List Char}
    (unmarked : ∀ c ∈ cs, dialect.styleOf? c = none)
    (rest : List Char) :
    skeletonFrom dialect 0 (cs ++ rest) =
      cs.map .character ++ skeletonFrom dialect 0 rest := by
  induction cs with
  | nil =>
      rfl
  | cons c cs inductionHypothesis =>
      have noToken :
          Lexeme.quotedLength? dialect (c :: (cs ++ rest)) = none := by
        simp [Lexeme.quotedLength?, unmarked c (by simp)]
      have restSkeleton := inductionHypothesis fun other member =>
        unmarked other (by simp [member])
      rw [cons_append, skeletonFrom, noToken, map_cons, cons_append,
        ← restSkeleton]

/-- Calm characters are no marks. -/
theorem Calm.unmarked
    (dialect : Dialect)
    {cs : List Char}
    (calm : Calm cs) :
    ∀ c ∈ cs, dialect.styleOf? c = none :=
  fun c member => dialect.styleOf?_bareChar (calm.bare c member)

/-- The colon and the name of a placeholder hold no mark. -/
theorem unmarked_placeholder
    (dialect : Dialect)
    {name : List Char}
    (valid : isName name = true) :
    ∀ c ∈ ':' :: name, dialect.styleOf? c = none := by
  intro c member
  rcases mem_cons.mp member with rfl | inName
  · cases dialect <;> rfl
  · have nameChar := Lexeme.nameChar_of_mem valid inName
    apply dialect.styleOf?_bareChar
    simp only [isBareChar, Bool.and_eq_true, decide_eq_true_eq]
    refine ⟨⟨⟨?_, ?_⟩, ?_⟩, ?_⟩ <;>
      · rintro rfl
        simp [isNameChar] at nameChar

/-- One sound piece has its own skeleton if a separator keeps it apart from the text after it. -/
theorem skeletonFrom_piece
    (dialect : Dialect)
    {piece : Piece}
    (sound : piece.Sound)
    {rest : List Char}
    (apart :
      ∀ d ∈ rest.head?, piece.endsApart = true ∨ isSeparator d = true) :
    skeletonFrom dialect 0 (piece.chars dialect ++ rest) =
      piece.skeleton dialect ++ skeletonFrom dialect 0 rest := by
  cases piece with
  | bare text =>
      exact skeletonFrom_unmarked dialect (sound.2.unmarked dialect) rest
  | truth value =>
      exact skeletonFrom_unmarked dialect
        ((dialect.calm_truthText value).unmarked dialect) rest
  | quoted kind content =>
      have separated : rest.head? ≠ some (dialect.style kind).mark := by
        intro next
        rcases apart _ next with ends | starts
        · simp [Piece.endsApart] at ends
        · have bare := (separator_cases starts).1
          have unmarked := dialect.styleOf?_bareChar bare
          rw [dialect.styleOf?_mark] at unmarked
          simp at unmarked
      have found :=
        Lexeme.quotedLength?_quote dialect kind content.toList separated
      simp only [Piece.chars, Piece.skeleton]
      rw [QuoteStyle.quote_eq_cons, cons_append] at found ⊢
      rw [skeletonFrom, found]
      simp only [length_cons, Nat.add_one_sub_one]
      rw [skeletonFrom_append]
      rfl
  | placeholder name =>
      exact skeletonFrom_unmarked dialect
        (unmarked_placeholder dialect sound) rest
  | raw text =>
      exact skeletonFrom_unmarked dialect (sound.2.unmarked dialect) rest

/-- The skeleton of tidy pieces is that of each piece. -/
theorem skeleton_write
    (dialect : Dialect)
    {pieces : List Piece}
    (tidy : Piece.Tidy pieces) :
    skeleton dialect (Piece.write dialect pieces) =
      pieces.flatMap (Piece.skeleton dialect) := by
  rw [skeleton, Piece.toList_write]
  induction pieces with
  | nil =>
      rfl
  | cons piece rest inductionHypothesis =>
      have read :=
        skeletonFrom_piece dialect (tidy.sound piece (by simp))
          fun d next => Lexeme.separator_at_meeting dialect tidy next
      rw [flatMap_cons, ← inductionHypothesis tidy.tail]
      exact read

/-! ## Outlines of pieces -/

/-- A piece without the content of its token. -/
def Piece.outline : Piece → Piece
  | .bare text => .bare text
  | .truth value => .truth value
  | .quoted kind _ => .quoted kind ""
  | .placeholder name => .placeholder name
  | .raw text => .raw text

theorem Piece.skeleton_outline
    (dialect : Dialect)
    (piece : Piece) :
    piece.outline.skeleton dialect = piece.skeleton dialect := by
  cases piece <;> rfl

theorem Piece.name?_outline
    (piece : Piece) :
    piece.outline.name? = piece.name? := by
  cases piece <;> rfl

/-- Contents do not matter for the separators of a list of pieces. -/
theorem Piece.map_outline_joined
    (separator : String)
    (lists : List (List Piece)) :
    (Piece.joined separator lists).map outline =
      Piece.joined separator (lists.map (map outline)) := by
  induction lists with
  | nil =>
      rfl
  | cons pieces rest inductionHypothesis =>
      cases rest with
      | nil =>
          rfl
      | cons next rest =>
          simpa [Piece.joined, outline] using inductionHypothesis

/-- The outline of the literal of a value, if it has one. -/
def literalOutline? (value : Value) : Option (List Piece) :=
  (literal value).toOption.map (map Piece.outline)

/-- The outlines of the literals of values, if all have one. -/
def literalsOutline? (values : List Value) : Option (List (List Piece)) :=
  (literals values).toOption.map (map (map Piece.outline))

theorem literalsOutline?_cons
    (value : Value)
    (rest : List Value) :
    literalsOutline? (value :: rest) =
      (literalOutline? value).bind fun pieces =>
        (literalsOutline? rest).map (pieces :: ·) := by
  unfold literalsOutline? literalOutline?
  rw [literals]
  cases literal value with
  | error error =>
      rfl
  | ok pieces =>
      cases literals rest <;> rfl

/-- The outline of a list of items is that of the items between separators. -/
theorem literalOutline?_sequence
    {kind : SequenceKind}
    (ordered : kind.isOrdered = true)
    {items : List Value}
    (nonempty : items.isEmpty = false) :
    literalOutline? (.sequence kind items) =
      (literalsOutline? items).map (Piece.joined itemSeparator) := by
  unfold literalOutline? literalsOutline?
  simp only [literal, ordered, nonempty, ↓reduceIte, Bool.false_eq_true]
  cases literals items with
  | error error =>
      rfl
  | ok lists =>
      simp [Except.map, Except.toOption, Piece.map_outline_joined]

end Sql

namespace Value

mutual

/-- A value without the contents of its texts. -/
def masked : Value → Value
  | .text _ => .text ""
  | .sequence kind items => .sequence kind (maskedItems items)
  | value => value

/-- Values without the contents of their texts. -/
def maskedItems : List Value → List Value
  | [] => []
  | value :: rest => value.masked :: maskedItems rest

end

end Value

/-- Without the contents of its texts, a value has the same literal but for contents. -/
theorem Sql.literalOutline?_masked
    (value : Value) :
    literalOutline? value.masked = literalOutline? value := by
  induction value using Value.itemInduction with
  | scalar value notSequence =>
      cases value with
      | sequence kind items =>
          exact (notSequence kind items rfl).elim
      | text value =>
          rfl
      | _ =>
          rfl
  | sequence kind items inductionHypothesis =>
      have outlines :
          literalsOutline? (Value.maskedItems items) =
            literalsOutline? items := by
        clear kind
        induction items with
        | nil =>
            rfl
        | cons value rest restHypothesis =>
            rw [Value.maskedItems, literalsOutline?_cons,
              literalsOutline?_cons, inductionHypothesis value (by simp),
              restHypothesis fun other member =>
                inductionHypothesis other (by simp [member])]
      rw [Value.masked]
      cases ordered : kind.isOrdered with
      | false =>
          simp [literalOutline?, literal, ordered, Except.toOption]
      | true =>
          cases items with
          | nil =>
              rfl
          | cons value rest =>
              rw [literalOutline?_sequence ordered rfl, outlines,
                literalOutline?_sequence ordered rfl]

/-! ## Outlines of renderings -/

namespace Rendering

/-- The outline of what a rendering becomes when parameters have values, if neither fails. -/
def boundOutline? (parameters : Parameters) (rendering : Rendering) :
    Option (List Piece) :=
  match rendering.failure with
  | some _ => none
  | none =>
      (boundPieces parameters rendering.pieces).toOption.map (map Piece.outline)

variable (parameters : Parameters)

theorem boundOutline?_of
    (pieces : List Piece) :
    (of pieces).boundOutline? parameters =
      (boundPieces parameters pieces).toOption.map (map Piece.outline) := rfl

/-- Outlines are put together as renderings are. -/
theorem boundOutline?_append
    (first second : Rendering) :
    (first ++ second).boundOutline? parameters =
      (first.boundOutline? parameters).bind fun pieces =>
        (second.boundOutline? parameters).map (pieces ++ ·) := by
  unfold boundOutline?
  rw [failure_append]
  cases firstOutcome : first.failure with
  | some error =>
      rfl
  | none =>
      rw [Option.none_or, pieces_append_of_ok second firstOutcome]
      unfold boundPieces
      rw [gather_append]
      cases second.failure with
      | some error =>
          cases gather (Piece.bound parameters) first.pieces <;> rfl
      | none =>
          cases gather (Piece.bound parameters) first.pieces with
          | error cause =>
              rfl
          | ok firstPieces =>
              cases gather (Piece.bound parameters) second.pieces with
              | error cause =>
                  rfl
              | ok secondPieces =>
                  simp [Except.map, Except.toOption]

/-- A placeholder has the outline of its value if it has one. -/
theorem boundOutline?_placeholder
    (name : String) :
    (of [.placeholder name]).boundOutline? parameters =
      ((parameters.lookup name).map literalOutline?).getD
        (some [.placeholder name]) := by
  rw [boundOutline?_of]
  cases found : parameters.lookup name with
  | none =>
      simp [boundPieces, gather, Piece.bound, Piece.value?, Piece.name?,
        found, Except.map, Except.toOption, Piece.outline]
  | some value =>
      simp only [boundPieces, gather, Piece.bound, Piece.value?, Piece.name?,
        Option.bind_some, found, Option.map_some, Option.getD_some,
        literalOutline?]
      cases literal value <;> simp [Except.map, Except.toOption]

/-- A literal has the outline of its value. -/
theorem boundOutline?_ofLiteral
    (clause : Clause)
    (value : Value) :
    (ofLiteral clause value).boundOutline? parameters = literalOutline? value := by
  rw [ofLiteral_eq, literalOutline?]
  have outcome := literal_outcome value
  generalize literal value = result at outcome
  cases outcome with
  | written _ _ _ noNames =>
      dsimp only
      rw [boundOutline?_of, boundPieces_nameless parameters noNames]
  | unsupported _ =>
      rfl
  | longInteger _ =>
      rfl

end Rendering

/-! ## Queries without contents -/

/-- An operand under changed names without the contents of its texts. -/
def Operand.masked (names : Renaming) : Operand → Operand
  | .column table name => .column (table.map names.apply) (name.map names.apply)
  | .literal value => .literal value.masked
  | .parameter name => .parameter name

/-- A query under changed names without the contents of its texts. -/
def VisualQuery.masked (names : Renaming) (query : VisualQuery) : VisualQuery :=
  query.mapParts names (Operand.masked names) fun _ => ""

/-- Two assignments of values that differ only in the contents of texts. -/
def Sql.Parameters.SameMasked (parameters otherParameters : Parameters) : Prop :=
  ∀ name,
    (parameters.lookup name).map Value.masked =
      (otherParameters.lookup name).map Value.masked

theorem Sql.Parameters.SameMasked.map_literalOutline?
    {parameters otherParameters : Parameters}
    (sameValues : parameters.SameMasked otherParameters)
    (name : String) :
    (parameters.lookup name).map literalOutline? =
      (otherParameters.lookup name).map literalOutline? := by
  have outlines : literalOutline? = literalOutline? ∘ Value.masked := by
    funext value
    exact (literalOutline?_masked value).symm
  rw [outlines, ← Option.map_map, sameValues name, Option.map_map]

/-- Two renderings have the same outline under two assignments of values. -/
def Rendering.SameOutline
    (parameters otherParameters : Parameters)
    (rendering otherRendering : Rendering) :
    Prop :=
  rendering.boundOutline? parameters =
    otherRendering.boundOutline? otherParameters

/-- Outlines do not depend on names. -/
theorem sameOutline_names
    (parameters otherParameters : Parameters)
    (names : Renaming) :
    NamesRelated (Rendering.SameOutline parameters otherParameters) names where
  fixed pieces noNames := by
    unfold Rendering.SameOutline
    rw [Rendering.boundOutline?_of, Rendering.boundOutline?_of,
      boundPieces_nameless parameters noNames,
      boundPieces_nameless otherParameters noNames]
  fail _ _ := rfl
  append firstSame secondSame := by
    unfold Rendering.SameOutline at firstSame secondSame ⊢
    rw [Rendering.boundOutline?_append, Rendering.boundOutline?_append,
      firstSame, secondSame]
  identifiers _ := rfl

theorem Operand.sameOutline_rendering
    {parameters otherParameters : Parameters}
    (sameValues : parameters.SameMasked otherParameters)
    (names : Renaming)
    (clause : Clause)
    (operand : Operand) :
    Rendering.SameOutline parameters otherParameters
      (operand.rendering clause)
      ((operand.masked names).rendering clause) := by
  cases operand with
  | column table name =>
      cases name with
      | none =>
          rfl
      | some name =>
          rw [masked, Option.map_some, rendering_column, rendering_column]
          simp only [names.eq_empty_iff]
          split
          · rfl
          · exact related_qualified
              (sameOutline_names parameters otherParameters names) table name
  | literal value =>
      unfold Rendering.SameOutline
      rw [masked, rendering, rendering, Rendering.boundOutline?_ofLiteral,
        Rendering.boundOutline?_ofLiteral, literalOutline?_masked]
  | parameter name =>
      cases name with
      | none =>
          rfl
      | some name =>
          rw [masked, rendering_parameter]
          split
          · unfold Rendering.SameOutline
            rw [Rendering.boundOutline?_placeholder,
              Rendering.boundOutline?_placeholder,
              sameValues.map_literalOutline? name]
          · rfl

/-- Outlines do not depend on names and contents. -/
theorem sameOutline_parts
    {parameters otherParameters : Parameters}
    (sameValues : parameters.SameMasked otherParameters)
    (names : Renaming) :
    PartsRelated (Rendering.SameOutline parameters otherParameters) names
      (Operand.masked names) fun _ => "" where
  toNamesRelated := sameOutline_names parameters otherParameters names
  operands clause part := part.sameOutline_rendering sameValues names clause
  patterns _ := rfl

/-- Queries that differ only in names and contents have the same outline. -/
theorem VisualQuery.sameOutline_rendering
    {parameters otherParameters : Parameters}
    (sameValues : parameters.SameMasked otherParameters)
    {names : Renaming}
    {query otherQuery : VisualQuery}
    (sameQuery : query.masked names = otherQuery.masked .identity)
    (dialect : Dialect) :
    Rendering.SameOutline parameters otherParameters
      (query.rendering dialect) (otherQuery.rendering dialect) := by
  have forgotten :
      Rendering.SameOutline parameters otherParameters
        (query.rendering dialect) ((query.masked names).rendering dialect) :=
    query.related_rendering (sameOutline_parts sameValues names) dialect
  have otherForgotten :
      Rendering.SameOutline otherParameters otherParameters
        (otherQuery.rendering dialect)
        ((otherQuery.masked .identity).rendering dialect) :=
    otherQuery.related_rendering
      (sameOutline_parts (fun _ => rfl) .identity) dialect
  rw [sameQuery] at forgotten
  exact forgotten.trans otherForgotten.symm

/-! ## Statements of queries -/

/-- The statement of a query whose parameters are given values, if it is compiled and resolved. -/
def VisualQuery.resolved?
    (dialect : Dialect)
    (parameters : Parameters)
    (query : VisualQuery) :
    Option String :=
  match query.compile dialect with
  | .error _ => none
  | .ok compiled => (resolve dialect compiled.sql parameters).toOption

/-- Without values, pieces stay as they are. -/
theorem Sql.boundPieces_empty
    (pieces : List Piece) :
    boundPieces [] pieces = .ok pieces := by
  have same : ∀ piece ∈ pieces, piece.bound [] = .ok [piece] := by
    intro piece _
    cases named : piece.name? <;> simp [Piece.bound, Piece.value?, named]
  simpa [boundPieces] using gather_ok same

/-- The skeleton of the statement of a query follows from outlines: it is there if the query is
compiled, if all parameters have values and if the values can be written. -/
theorem VisualQuery.skeleton_resolved?
    (dialect : Dialect)
    (parameters : Parameters)
    {query : VisualQuery}
    (plain : query.ExpressionsArePlain) :
    (query.resolved? dialect parameters).map (skeleton dialect) =
      ((query.rendering dialect).boundOutline? []).bind fun pieces =>
        if (pieces.filterMap Piece.name?).all
            fun name => (parameters.lookup name).isSome then
          ((query.rendering dialect).boundOutline? parameters).map
            (flatMap (Piece.skeleton dialect))
        else
          none := by
  have tidy := query.tidy_rendering dialect plain
  cases outcome : (query.rendering dialect).failure with
  | some error =>
      simp [resolved?, compile_of_failure outcome, Rendering.boundOutline?,
        outcome]
  | none =>
      have uses := query.uses_rendering dialect outcome
      have outlineUses :
          ((query.rendering dialect).pieces.map Piece.outline).filterMap
              Piece.name? = query.parameterUses := by
        rw [filterMap_map, ← uses]
        congr 1
        funext piece
        exact piece.name?_outline
      have unbound :
          (query.rendering dialect).boundOutline? [] =
            some ((query.rendering dialect).pieces.map Piece.outline) := by
        simp [Rendering.boundOutline?, outcome, boundPieces_empty,
          Except.toOption]
      rw [unbound, Option.bind_some, outlineUses, resolved?,
        compile_of_ok outcome]
      dsimp only
      by_cases supplied :
          query.parameterUses.all (fun name => (parameters.lookup name).isSome) =
            true
      · rw [if_pos supplied]
        rw [all_eq_true] at supplied
        rcases resolve_rendering dialect plain outcome supplied with
          ⟨bound, isBound, written, resolved⟩ |
            ⟨cause, clause, notBound, _, refused⟩
        · have boundTidy : Piece.Tidy bound := by
            have all := (query.bind parameters).tidy_rendering dialect
              ((plain_mapParts .identity _ _).mpr plain)
            rw [written] at all
            exact all
          rw [resolved]
          simp [Except.toOption, skeleton_write dialect boundTidy,
            Rendering.boundOutline?, outcome, isBound, flatMap_map,
            Piece.skeleton_outline]
        · rw [refused]
          simp [Except.toOption, Rendering.boundOutline?, outcome, notBound]
      · rw [if_neg supplied]
        rw [Bool.not_eq_true, all_eq_false] at supplied
        obtain ⟨name, named, notSupplied⟩ := supplied
        rw [Option.not_isSome_iff_eq_none] at notSupplied
        rw [← uses] at named
        obtain ⟨names, refused⟩ :=
          resolve_write_missing parameters dialect tidy named notSupplied
        rw [refused]
        rfl

/-- Names, texts and values stay in their tokens: queries that differ only in names and contents,
with values that differ only in contents, are both compiled and resolved or neither is, and their
statements have the same skeleton. -/
theorem VisualQuery.same_skeleton
    (dialect : Dialect)
    {query otherQuery : VisualQuery}
    (plain : query.ExpressionsArePlain)
    {names : Renaming}
    (sameQuery : query.masked names = otherQuery.masked .identity)
    {parameters otherParameters : Parameters}
    (sameValues : parameters.SameMasked otherParameters) :
    (query.resolved? dialect parameters).map (skeleton dialect) =
      (otherQuery.resolved? dialect otherParameters).map (skeleton dialect) := by
  have otherPlain : otherQuery.ExpressionsArePlain := by
    have masked : (otherQuery.masked .identity).ExpressionsArePlain := by
      rw [← sameQuery]
      exact (plain_mapParts names _ _).mpr plain
    exact (plain_mapParts .identity _ _).mp masked
  have unbound : Rendering.SameOutline [] [] (query.rendering dialect)
      (otherQuery.rendering dialect) :=
    sameOutline_rendering (fun _ => rfl) sameQuery dialect
  have bound : Rendering.SameOutline parameters otherParameters
      (query.rendering dialect) (otherQuery.rendering dialect) :=
    sameOutline_rendering sameValues sameQuery dialect
  have sameSupplied :
      (fun name => (parameters.lookup name).isSome) =
        fun name => (otherParameters.lookup name).isSome := by
    funext name
    have same := congrArg Option.isSome (sameValues name)
    simpa using same
  rw [skeleton_resolved? dialect parameters plain,
    skeleton_resolved? dialect otherParameters otherPlain, unbound, bound,
    sameSupplied]

/-- A change of names that puts a mark before every name. -/
def Renaming.marked : Renaming where
  apply name := if name = "" then "" else "\"" ++ name
  injective := by
    intro first second equal
    by_cases firstEmpty : first = ""
    · by_cases secondEmpty : second = ""
      · rw [firstEmpty, secondEmpty]
      · simp [firstEmpty, secondEmpty] at equal
    · by_cases secondEmpty : second = ""
      · simp [firstEmpty, secondEmpty] at equal
      · simpa [firstEmpty, secondEmpty] using equal
  empty := rfl

/-- The sample with marks in its names and other texts. -/
def VisualQuery.markedSample : VisualQuery :=
  sample.mapParts .marked (Operand.masked .marked) fun _ => "' OR ''='"

/-- Values that differ from those of the sample in a text. -/
def Sql.Parameters.otherSample : Parameters :=
  [("stop", .list [.null, .bool true]), ("start", .text "'; --")]

/-- The sample and the marked sample. -/
theorem VisualQuery.same_skeleton_sample :
    (sample.resolved? .postgres Parameters.sample).isSome = true ∧
      (sample.resolved? .postgres Parameters.sample).map (skeleton .postgres) =
        (markedSample.resolved? .postgres Parameters.otherSample).map
          (skeleton .postgres) := by
  have sameQuery :
      sample.masked .marked = markedSample.masked .identity := rfl
  have sameValues :
      Parameters.sample.SameMasked Parameters.otherSample := by
    intro name
    unfold Parameters.sample Parameters.otherSample
    rw [lookup_cons, lookup_cons, lookup_cons, lookup_cons]
    cases name == "stop" <;> cases name == "start" <;> rfl
  constructor
  · rcases resolve_rendering .postgres sample_plain rfl sample_supplied with
      ⟨bound, _, _, resolved⟩ | ⟨cause, clause, notBound, _⟩
    · rw [resolved?, compile_of_ok rfl]
      dsimp only
      rw [resolved]
      rfl
    · have isBound :
          boundPieces Parameters.sample (sample.rendering .postgres).pieces =
            .ok _ := rfl
      rw [isBound] at notBound
      simp at notBound
  · exact same_skeleton .postgres sample_plain sameQuery sameValues

end QueryGateway
