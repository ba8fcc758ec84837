import QueryGateway.Proofs.Gathering
import QueryGateway.Proofs.LexemeSeams
import QueryGateway.Proofs.LiteralPieces

/-!
# Reading a statement after its placeholders are replaced

A literal is put into a statement without anything around it, so it stands
directly beside what stood beside its placeholder.  If nothing was left open in
the statement, the lexemes around it stay what they were, and those of the
literal are what they are on their own, exactly if no two of them run together:
if no hyphen comes to stand before a negative number, and no text beside a
quoted token with the same mark.
-/

namespace QueryGateway.Sql

open List

/-! ## Lexemes of a literal -/

/-- Whether a character may stand in a literal outside a quoted token. -/
def isLiteralChar (c : Char) : Bool :=
  c.isAlphanum || c = ' ' || c = ',' || c = '.' || c = '+' || c = '-'

theorem bareChar_of_literalChar
    {c : Char}
    (isPart : isLiteralChar c = true) :
    isBareChar c = true ∧ c ≠ '/' ∧ c ≠ '*' := by
  have unlike
      (other : Char)
      (noPart : isLiteralChar other = false) :
      c ≠ other := by
    rintro rfl
    simp [noPart] at isPart
  simp [isBareChar, unlike '\'' (by decide), unlike '"' (by decide),
    unlike '\x60' (by decide), unlike ':' (by decide), unlike '/' (by decide),
    unlike '*' (by decide)]

theorem literalChar_of_number
    {c : Char}
    (isPart : isQuietChar c = true ∨ c = '-') :
    isLiteralChar c = true := by
  rcases isPart with quiet | rfl
  · simp only [isQuietChar, Bool.or_eq_true, decide_eq_true_eq] at quiet
    rcases quiet with (((digit | rfl) | rfl) | rfl) | rfl
    · simp [isLiteralChar, Char.isAlphanum, digit]
    all_goals decide
  · decide

namespace Lexeme

/-- A lexeme that may stand in a literal. -/
def IsOfLiteral : Lexeme → Prop
  | .quoted _ => True
  | .character c => isLiteralChar c = true
  | .comment _ | .placeholder _ => False

/-- Lexemes that may make up a literal: the last of them is no hyphen. -/
structure OfLiteral (lexemes : List Lexeme) : Prop where
  nonempty : lexemes ≠ []
  parts : ∀ lexeme ∈ lexemes, lexeme.IsOfLiteral
  noHyphen : lexemes.getLast? ≠ some (.character '-')

namespace OfLiteral

theorem characters
    {cs : List Char}
    (nonempty : cs ≠ [])
    (parts : ∀ c ∈ cs, isLiteralChar c = true)
    (noHyphen : cs.getLast? ≠ some '-') :
    OfLiteral (cs.map .character) where
  nonempty := by simpa using nonempty
  parts := by simpa [IsOfLiteral] using parts
  noHyphen := by
    rw [getLast?_map]
    simpa using noHyphen

theorem number
    {text : String}
    (isNumber : IsNumberText text) :
    OfLiteral (text.toList.map .character) := by
  obtain ⟨c, isLast, quiet⟩ := isNumber.last_quiet
  refine characters ?_ (fun d member => literalChar_of_number (isNumber.chars d member)) ?_
  · rintro empty
    simp [empty] at isLast
  · rintro isHyphen
    rw [isHyphen] at isLast
    cases isLast
    exact absurd quiet (by decide)

theorem append
    {first second : List Lexeme}
    (firstParts : ∀ lexeme ∈ first, lexeme.IsOfLiteral)
    (ofSecond : OfLiteral second) :
    OfLiteral (first ++ second) where
  nonempty := append_ne_nil_of_right_ne_nil first ofSecond.nonempty
  parts lexeme member := by
    rcases mem_append.mp member with inFirst | inSecond
    · exact firstParts lexeme inFirst
    · exact ofSecond.parts lexeme inSecond
  noHyphen := by
    rw [getLast?_append_of_ne_nil first ofSecond.nonempty]
    exact ofSecond.noHyphen

theorem joined
    {dialect : Dialect}
    {lists : List (List Piece)}
    (nonempty : lists ≠ [])
    (each :
      ∀ pieces ∈ lists, OfLiteral (pieces.flatMap (Piece.lexemes dialect))) :
    OfLiteral
      ((Piece.joined itemSeparator lists).flatMap (Piece.lexemes dialect)) := by
  induction lists with
  | nil =>
      exact absurd rfl nonempty
  | cons pieces rest inductionHypothesis =>
      have ofFirst := each pieces mem_cons_self
      have eachRest := fun other member => each other (mem_cons_of_mem pieces member)
      cases rest with
      | nil =>
          exact ofFirst
      | cons next rest =>
          have ofRest := inductionHypothesis (cons_ne_nil next rest) eachRest
          have separator :
              ∀ lexeme ∈ (Piece.bare itemSeparator).lexemes dialect,
                lexeme.IsOfLiteral := by
            simp [Piece.lexemes, itemSeparator, IsOfLiteral, isLiteralChar]
          rw [Piece.joined_cons_cons, flatMap_append, flatMap_cons]
          exact append ofFirst.parts (append separator ofRest)

end OfLiteral

variable (dialect : Dialect)

/-- The lexemes of a literal. -/
theorem ofLiteral_lexemes
    {value : Value}
    {pieces : List Piece}
    (written : literal value = .ok pieces) :
    OfLiteral (pieces.flatMap (Piece.lexemes dialect)) := by
  have text
      (token : List Char) :
      OfLiteral [.quoted token] :=
    ⟨by simp, by simp [IsOfLiteral], by simp⟩
  have bare
      {text : String}
      (characters : OfLiteral (text.toList.map .character)) :
      OfLiteral ([Piece.bare text].flatMap (Piece.lexemes dialect)) := by
    simpa [Piece.lexemes] using characters
  refine literalInduction ?null ?bool
    (fun value => bare (.number (Numeral.ofInt_isNumberText value)))
    (fun _ finite => bare (.number (Binary64.text_isNumberText finite)))
    (fun _ finite => bare (.number (Decimal.text_isNumberText finite)))
    (fun _ => text _) (fun _ => text _) (fun _ => ?null) ?items written
  case null =>
    exact bare (.characters (by decide) (all_eq_true.mp (by decide)) (by decide))
  case bool =>
    intro value
    suffices OfLiteral ((dialect.truthText value).toList.map .character) by
      simpa [Piece.lexemes] using this
    rcases dialect with _ | fullJoin <;> try cases fullJoin
    all_goals
      cases value <;>
        exact .characters (by decide) (all_eq_true.mp (by decide)) (by decide)
  case items =>
    intro kind values lists nonempty writtenItems
    refine OfLiteral.joined ?_ ?_
    · rintro rfl
      exact nonempty (forall₂_nil_right_iff.mp writtenItems)
    · clear nonempty
      induction writtenItems with
      | nil => simp
      | cons first _ inductionHypothesis =>
          exact forall_mem_cons.mpr ⟨first, inductionHypothesis⟩

variable {dialect}

/-- A character of a literal is no mark. -/
theorem IsOfLiteral.noMark
    {c : Char}
    (isPart : (Lexeme.character c).IsOfLiteral) :
    dialect.styleOf? c = none :=
  dialect.styleOf?_bareChar (bareChar_of_literalChar isPart).1

/-- Nothing is left open in a literal. -/
theorem OfLiteral.nothingOpen
    {lexemes : List Lexeme}
    (ofLiteral : OfLiteral lexemes) :
    NothingOpen dialect lexemes where
  noMark c member := (ofLiteral.parts _ member).noMark
  noBlock := by
    refine (isChain_isInfix lexemes).imp fun lexeme next side opens => ?_
    have isPart := ofLiteral.parts lexeme (side.subset (by simp))
    rw [opens.1] at isPart
    exact (bareChar_of_literalChar isPart).2.1 rfl

/-- What a literal is read as on its own. -/
theorem scan_literal
    (dialect : Dialect)
    {value : Value}
    {pieces : List Piece}
    (written : literal value = .ok pieces) :
    OfLiteral (scan dialect (Piece.allChars dialect pieces)) ∧
      Legible dialect none (scan dialect (Piece.allChars dialect pieces)) := by
  have lexemes := scan_allChars dialect (tidy_literal written)
  have ofLiteral := ofLiteral_lexemes dialect written
  rw [← lexemes] at ofLiteral
  refine ⟨ofLiteral, legible_of_scan ofLiteral.nothingOpen ?_⟩
  rw [scan_concat]
  rfl

/-! ## Seams -/

/-- A complete lexeme that starts with a mark is a quoted token. -/
theorem quoted_of_mark
    {lexeme : Lexeme}
    (complete : lexeme.IsComplete dialect)
    {c : Char}
    (isFirst : lexeme.chars.head? = some c)
    {style : QuoteStyle}
    (isMark : dialect.styleOf? c = some style) :
    ∃ token, lexeme = .quoted token ∧ token.head? = some c := by
  have notBare : isBareChar c = true → False := by
    intro bare
    rw [dialect.styleOf?_bareChar bare] at isMark
    cases isMark
  cases lexeme with
  | quoted token =>
      exact ⟨token, rfl, isFirst⟩
  | comment text =>
      rcases commentLength?_cases complete with
        ⟨_, rfl, _⟩ | ⟨_, _, rfl, _⟩
      all_goals
        cases isFirst
        exact (notBare (by decide)).elim
  | placeholder name =>
      have noStyle : dialect.styleOf? ':' = none := by
        cases dialect <;> rfl
      cases isFirst
      rw [noStyle] at isMark
      cases isMark
  | character d =>
      cases isFirst
      have noStyle : dialect.styleOf? c = none := complete
      rw [noStyle] at isMark
      cases isMark

/-- A quoted token fits before a lexeme that it does not run together with. -/
theorem fits_before
    {token : List Char}
    {next : Lexeme}
    (complete : next.IsComplete dialect)
    (apart : runTogether dialect (.quoted token) next = false)
    (previous : Option Char) :
    (Lexeme.quoted token).Fits dialect previous next.chars.head? := by
  intro style isStyle doubles isNext
  obtain ⟨c, isFirst, isMark⟩ := Option.bind_eq_some_iff.mp isStyle
  obtain ⟨rfl, _⟩ := quotedLength?_cons isMark []
  obtain ⟨token', rfl, isFirst'⟩ := quoted_of_mark complete isNext isMark
  simp [runTogether, isFirst, isFirst', isMark, doubles] at apart

/-- Before a literal fits what fits before a placeholder and does not run together with the
literal. -/
theorem fits_before_literal
    {lexeme next : Lexeme}
    {previous : Option Char}
    (fits : lexeme.Fits dialect previous (some ':'))
    (noName : lexeme.name? = none)
    (noColon : lexeme.chars.getLast? ≠ some ':')
    (complete : next.IsComplete dialect)
    (isPart : next.IsOfLiteral)
    (apart : runTogether dialect lexeme next = false)
    (previous' : Option Char) :
    lexeme.Fits dialect previous' next.chars.head? := by
  cases lexeme with
  | quoted token =>
      exact fits_before complete apart previous'
  | comment text =>
      intro isLine
      exact absurd (fits isLine ':' rfl) (by decide)
  | placeholder name =>
      cases noName
  | character c =>
      refine ⟨fun d isNext => ?_, fun isColon => ?_⟩
      · by_contra opens
        simp only [opensComment, Bool.not_eq_false, Bool.or_eq_true,
          Bool.and_eq_true, decide_eq_true_eq] at opens
        cases next with
        | comment | placeholder => cases isPart
        | quoted token =>
            obtain ⟨style, _, _, rfl, isMark, _⟩ := quotedLength?_cases complete
            obtain rfl : style.mark = d := by simpa [chars] using isNext
            have noMark : dialect.styleOf? style.mark = none := by
              rcases opens with ⟨_, isHyphen⟩ | ⟨_, isStar⟩
              · rw [isHyphen]
                exact dialect.styleOf?_bareChar (by decide)
              · rw [isStar]
                exact dialect.styleOf?_bareChar (by decide)
            rw [isMark] at noMark
            cases noMark
        | character d' =>
            obtain rfl : d' = d := by simpa [chars] using isNext
            rcases opens with ⟨isHyphen, isHyphen'⟩ | ⟨_, isStar⟩
            · simp [runTogether, isHyphen, isHyphen'] at apart
            · exact (bareChar_of_literalChar isPart).2.2 isStar
      · exact absurd (by simp [chars, isColon]) noColon

/-- The last lexeme of a literal fits before what it does not run together with. -/
theorem fits_after_literal
    {lexeme next : Lexeme}
    (isPart : lexeme.IsOfLiteral)
    (noHyphen : lexeme ≠ .character '-')
    (complete : next.IsComplete dialect)
    (apart : runTogether dialect lexeme next = false)
    (previous : Option Char) :
    lexeme.Fits dialect previous next.chars.head? := by
  cases lexeme with
  | comment | placeholder => cases isPart
  | quoted token =>
      exact fits_before complete apart previous
  | character c =>
      obtain ⟨bare, notSlash, _⟩ := bareChar_of_literalChar isPart
      refine ⟨fun d _ => ?_, fun isColon => ?_⟩
      · have notHyphen : c ≠ '-' := fun isHyphen => noHyphen (by rw [isHyphen])
        simp [opensComment, notHyphen, notSlash]
      · subst isColon
        exact absurd bare (by decide)

/-- A lexeme of a literal fits wherever it fits, whatever stands before it. -/
theorem IsOfLiteral.fits
    {lexeme : Lexeme}
    (isPart : lexeme.IsOfLiteral)
    {previous next : Option Char}
    (fits : lexeme.Fits dialect previous next)
    (previous' : Option Char) :
    lexeme.Fits dialect previous' next := by
  cases lexeme with
  | quoted token =>
      exact fits
  | character c =>
      refine ⟨fits.1, fun isColon => ?_⟩
      subst isColon
      have bare := (bareChar_of_literalChar isPart).1
      exact absurd bare (by decide)
  | comment | placeholder => cases isPart

/-- A lexeme of a literal ends with no colon. -/
theorem IsOfLiteral.noColon
    {lexeme : Lexeme}
    (isPart : lexeme.IsOfLiteral)
    (complete : lexeme.IsComplete dialect) :
    lexeme.chars.getLast? ≠ some ':' := by
  have notMark : dialect.styleOf? ':' = none := by
    cases dialect <;> rfl
  intro isColon
  cases lexeme with
  | comment | placeholder => cases isPart
  | character c =>
      obtain rfl : c = ':' := by simpa [chars] using isColon
      have bare := (bareChar_of_literalChar isPart).1
      exact absurd bare (by decide)
  | quoted token =>
      obtain ⟨style, rest, inner, rfl, isMark, isInner, isLength⟩ :=
        quotedLength?_cases complete
      obtain rfl : inner = rest.length := by
        simpa using isLength.symm
      rw [chars, getLast?_cons, QuoteStyle.getLast?_of_closed isInner] at isColon
      have markIsColon : style.mark = ':' := by simpa using isColon
      rw [markIsColon, notMark] at isMark
      cases isMark

/-- Whether a lexeme fits depends on no more of the character before it than whether that is a
colon. -/
theorem Fits.after
    {lexeme : Lexeme}
    {previous previous' next : Option Char}
    (fits : lexeme.Fits dialect previous next)
    (sameColon : previous = some ':' ↔ previous' = some ':') :
    lexeme.Fits dialect previous' next := by
  cases lexeme with
  | quoted | comment => exact fits
  | placeholder name =>
      exact ⟨fun isColon => fits.1 (sameColon.mpr isColon), fits.2⟩
  | character c =>
      exact ⟨fits.1, fun isColon => (fits.2 isColon).imp_left sameColon.mp⟩

/-- A literal is legible before legible lexemes that its last lexeme does not run together with. -/
theorem legible_literal_append
    {lexemes rest : List Lexeme}
    {previous previous' : Option Char}
    (parts : ∀ lexeme ∈ lexemes, lexeme.IsOfLiteral)
    (noHyphen : lexemes.getLast? ≠ some (.character '-'))
    (legible : Legible dialect previous lexemes)
    (restLegible : ∀ last, last ≠ some ':' → Legible dialect last rest)
    (apart :
      (lexemes ++ rest).IsChain fun lexeme next =>
        runTogether dialect lexeme next = false)
    (notAfterColon : previous' ≠ some ':') :
    Legible dialect previous' (lexemes ++ rest) := by
  induction lexemes generalizing previous previous' with
  | nil =>
      exact restLegible previous' notAfterColon
  | cons lexeme more inductionHypothesis =>
      obtain ⟨complete, fits, moreLegible⟩ := legible
      have isPart := parts lexeme mem_cons_self
      have noColon := isPart.noColon complete
      rw [cons_append] at apart ⊢
      rw [isChain_cons] at apart
      refine ⟨complete, ?_, ?_⟩
      · cases more with
        | cons next more =>
            rw [cons_append, head?_concat_cons moreLegible.1,
              ← head?_concat_cons moreLegible.1 more]
            exact isPart.fits fits previous'
        | nil =>
            cases rest with
            | nil =>
                exact isPart.fits fits previous'
            | cons next rest =>
                have nextComplete := (restLegible none (by simp)).1
                rw [nil_append, head?_concat_cons nextComplete]
                exact fits_after_literal isPart (by simpa using noHyphen)
                  nextComplete (apart.1 next rfl) previous'
      · refine inductionHypothesis
          (fun other member => parts other (mem_cons_of_mem lexeme member))
          ?_ moreLegible apart.2 noColon
        cases more with
        | nil =>
            simp
        | cons next more =>
            rwa [getLast?_cons_cons] at noHyphen

/-! ## Replacing every placeholder -/

/-- The lexemes that a lexeme becomes when its placeholder is replaced: those of the literal, read
on its own. -/
def replaced
    (dialect : Dialect)
    (parameters : Parameters)
    (lexeme : Lexeme) :
    Except LiteralError (List Lexeme) :=
  match lexeme.name? with
  | none => .ok [lexeme]
  | some name =>
      (literal ((parameters.lookup name).getD .null)).map fun pieces =>
        scan dialect (Piece.allChars dialect pieces)

variable {parameters : Parameters}

theorem replaced_eq_self
    {lexeme : Lexeme}
    (noName : lexeme.name? = none) :
    lexeme.replaced dialect parameters = .ok [lexeme] := by
  simp only [replaced, noName]

theorem replaced_placeholder
    {name : List Char}
    {lexemes : List Lexeme}
    (isReplaced :
      (Lexeme.placeholder name).replaced dialect parameters = .ok lexemes) :
    OfLiteral lexemes ∧ Legible dialect none lexemes := by
  simp only [replaced, name?] at isReplaced
  generalize (parameters.lookup (String.ofList name)).getD .null = value
    at isReplaced
  cases written : literal value with
  | error cause =>
      rw [written] at isReplaced
      cases isReplaced
  | ok pieces =>
      rw [written] at isReplaced
      cases isReplaced
      exact scan_literal dialect written

/-- A lexeme still fits when the placeholders behind it are replaced, if it does not run together
with what comes next then. -/
theorem fits_before_replaced
    {lexeme : Lexeme}
    {rest back : List Lexeme}
    {previous previous' : Option Char}
    (fits : lexeme.Fits dialect previous (concat rest).head?)
    (noName : lexeme.name? = none)
    (restLegible : Legible dialect lexeme.chars.getLast? rest)
    (isBack : gather (replaced dialect parameters) rest = .ok back)
    (apart : ∀ next ∈ back.head?, runTogether dialect lexeme next = false)
    (sameColon : previous = some ':' ↔ previous' = some ':') :
    lexeme.Fits dialect previous' (concat back).head? := by
  cases rest with
  | nil =>
      cases isBack
      exact fits.after sameColon
  | cons next more =>
      obtain ⟨front, later, isFront, _, rfl⟩ := gather_cons_eq_ok isBack
      obtain ⟨nextComplete, nextFits, _⟩ := restLegible
      rw [head?_concat_cons nextComplete] at fits
      cases named : next.name? with
      | none =>
          rw [replaced_eq_self named] at isFront
          cases isFront
          rw [singleton_append, head?_concat_cons nextComplete]
          exact fits.after sameColon
      | some name =>
          cases next with
          | quoted | comment | character => cases named
          | placeholder name =>
              obtain ⟨ofLiteral, literalLegible⟩ := replaced_placeholder isFront
              obtain ⟨first, others, rfl⟩ :=
                exists_cons_of_ne_nil ofLiteral.nonempty
              have firstComplete := literalLegible.1
              rw [cons_append, head?_concat_cons firstComplete]
              exact fits_before_literal fits noName nextFits.1 firstComplete
                (ofLiteral.parts first mem_cons_self) (apart first rfl) previous'

/-- A name ends with no colon. -/
theorem getLast?_placeholder
    {name : List Char}
    (valid : isName name = true) :
    (Lexeme.placeholder name).chars.getLast? ≠ some ':' := by
  intro isColon
  rw [chars, getLast?_cons] at isColon
  cases last : name.getLast? with
  | none =>
      rw [getLast?_eq_none_iff.mp last] at valid
      cases valid
  | some c =>
      obtain rfl : c = ':' := by simpa [last] using isColon
      exact absurd (nameChar_of_mem valid (mem_of_getLast? last)) (by decide)

/-- Lexemes that fit still fit when the placeholders among them are replaced, if no two lexemes
run together then. -/
theorem legible_replaced
    {lexemes result : List Lexeme}
    {previous previous' : Option Char}
    (legible : Legible dialect previous lexemes)
    (isReplaced : gather (replaced dialect parameters) lexemes = .ok result)
    (apart :
      result.IsChain fun lexeme next => runTogether dialect lexeme next = false)
    (sameColon : previous = some ':' ↔ previous' = some ':') :
    Legible dialect previous' result := by
  induction lexemes generalizing previous previous' result with
  | nil =>
      cases isReplaced
      trivial
  | cons lexeme rest inductionHypothesis =>
      obtain ⟨complete, fits, restLegible⟩ := legible
      obtain ⟨front, back, isFront, isBack, rfl⟩ := gather_cons_eq_ok isReplaced
      have backLegible
          {last : Option Char}
          (same : lexeme.chars.getLast? = some ':' ↔ last = some ':') :
          Legible dialect last back :=
        inductionHypothesis restLegible isBack apart.right_of_append same
      cases named : lexeme.name? with
      | none =>
          -- The lexeme stays; only what comes next may have changed.
          rw [replaced_eq_self named] at isFront
          cases isFront
          exact ⟨complete,
            fits_before_replaced fits named restLegible isBack
              (isChain_cons.mp apart).1 sameColon,
            backLegible Iff.rfl⟩
      | some name =>
          cases lexeme with
          | quoted | comment | character => cases named
          | placeholder name =>
              obtain ⟨ofLiteral, literalLegible⟩ := replaced_placeholder isFront
              -- Neither a name nor a literal ends with a colon, so what follows is read alike.
              have noColon := getLast?_placeholder complete
              exact legible_literal_append ofLiteral.parts ofLiteral.noHyphen
                literalLegible
                (fun last notColon => backLegible (by simp [noColon, notColon]))
                apart (fun isColon => fits.1 (sameColon.mpr isColon))

/-- What a lexeme is written as when its placeholder is replaced is what its lexemes make up. -/
theorem substituted_eq_map
    (dialect : Dialect)
    (parameters : Parameters)
    (lexeme : Lexeme) :
    lexeme.substituted dialect parameters =
      (lexeme.replaced dialect parameters).map concat := by
  unfold substituted replaced
  cases lexeme.name? with
  | none =>
      simp [Except.map]
  | some name =>
      dsimp only
      cases literal ((parameters.lookup name).getD .null) <;>
        simp [Except.map, scan_concat]

/-- No placeholder is left where all have been replaced. -/
theorem name?_of_mem_replaced
    {lexeme part : Lexeme}
    {front : List Lexeme}
    (isReplaced : lexeme.replaced dialect parameters = .ok front)
    (member : part ∈ front) :
    part.name? = none := by
  cases named : lexeme.name? with
  | none =>
      rw [replaced_eq_self named] at isReplaced
      cases isReplaced
      rw [mem_singleton.mp member, named]
  | some name =>
      cases lexeme with
      | quoted | comment | character => cases named
      | placeholder name =>
          have isPart := (replaced_placeholder isReplaced).1.parts part member
          cases part with
          | quoted | comment | character => rfl
          | placeholder name' => cases isPart

end Lexeme

/-- A resolved statement is made up of the lexemes of the statement with those of the literals in
the places of the placeholders. -/
theorem resolve_eq_ok
    {dialect : Dialect}
    {statement : String}
    {parameters : Parameters}
    {resolved : String}
    (isResolved : resolve dialect statement parameters = .ok resolved) :
    ∃ lexemes,
      gather (Lexeme.replaced dialect parameters)
          (Lexeme.scan dialect statement.toList) = .ok lexemes ∧
        resolved.toList = Lexeme.concat lexemes := by
  have step :
      ∀ lexeme ∈ Lexeme.scan dialect statement.toList,
        gather (Lexeme.substituted dialect parameters) [lexeme] =
          (lexeme.replaced dialect parameters).map Lexeme.concat := by
    intro lexeme _
    rw [← Lexeme.substituted_eq_map, gather]
    cases lexeme.substituted dialect parameters <;> simp [gather, Except.map]
  have inSteps :=
    gather_flatMap Lexeme.concat_nil (fun _ _ => flatMap_append) step
  rw [flatMap_singleton', gather_of_resolve isResolved] at inSteps
  cases gathered :
      gather (Lexeme.replaced dialect parameters)
        (Lexeme.scan dialect statement.toList) with
  | error cause =>
      rw [gathered] at inSteps
      cases inSteps
  | ok lexemes =>
      rw [gathered] at inSteps
      exact ⟨lexemes, rfl, Except.ok.inj inSteps⟩

/-- A statement in which nothing is left open is read as before after its placeholders are
replaced, with the lexemes of the literals in their places, exactly if no two of these lexemes run
together; and then it holds no placeholder. -/
theorem scan_resolve
    (dialect : Dialect)
    (statement : String)
    (parameters : Parameters)
    (nothingOpen :
      Lexeme.NothingOpen dialect (Lexeme.scan dialect statement.toList))
    (resolved : String)
    (isResolved : resolve dialect statement parameters = .ok resolved) :
    ∃ lexemes,
      gather (Lexeme.replaced dialect parameters)
          (Lexeme.scan dialect statement.toList) = .ok lexemes ∧
        (Lexeme.scan dialect resolved.toList = lexemes ↔
          lexemes.IsChain fun lexeme next =>
            Lexeme.runTogether dialect lexeme next = false) ∧
          (Lexeme.scan dialect resolved.toList = lexemes →
            parameterNames dialect resolved = []) := by
  obtain ⟨lexemes, isReplaced, written⟩ := resolve_eq_ok isResolved
  refine ⟨lexemes, isReplaced, ⟨fun read => ?_, fun apart => ?_⟩, fun read => ?_⟩
  · have readBack :
        Lexeme.scanFrom dialect 0 none (Lexeme.concat lexemes) = lexemes := by
      rw [← written]
      exact read
    exact Lexeme.apart_of_scan readBack
  · have legible :=
      Lexeme.legible_of_scan nothingOpen
        (by rw [Lexeme.scan_concat]; rfl)
    rw [written]
    exact Lexeme.scan_of_legible
      (Lexeme.legible_replaced legible isReplaced apart Iff.rfl)
  · rw [parameterNames, read]
    have noNames : lexemes.filterMap Lexeme.name? = [] := by
      rw [filterMap_eq_nil_iff]
      intro part member
      obtain ⟨lexeme, _, front, isFront, inFront⟩ :=
        exists_of_mem_gather isReplaced member
      exact Lexeme.name?_of_mem_replaced isFront inFront
    rw [noNames]
    rfl

/-- A placeholder for a text is replaced without a change to the token behind it. -/
theorem scan_resolve_text :
    let statement := "SELECT :x, ':y'"
    let parameters : Parameters := [("x", .text "it's")]
    Lexeme.NothingOpen .postgres (Lexeme.scan .postgres statement.toList) ∧
      resolve .postgres statement parameters = .ok "SELECT 'it''s', ':y'" ∧
        ∃ lexemes,
          gather (Lexeme.replaced .postgres parameters)
              (Lexeme.scan .postgres statement.toList) = .ok lexemes ∧
            (Lexeme.scan .postgres "SELECT 'it''s', ':y'".toList = lexemes ↔
              lexemes.IsChain fun lexeme next =>
                Lexeme.runTogether .postgres lexeme next = false) ∧
              (Lexeme.scan .postgres "SELECT 'it''s', ':y'".toList = lexemes →
                parameterNames .postgres "SELECT 'it''s', ':y'" = []) :=
  ⟨by decide +kernel, by decide +kernel,
    scan_resolve .postgres _ _ (by decide +kernel) _ (by decide +kernel)⟩

/-- A hyphen before a negative number starts a comment, and what stood in the token behind it is
read as a placeholder. -/
theorem scan_resolve_hyphen :
    let statement := "SELECT 5 -:x 'a\n:y'"
    let parameters : Parameters := [("x", .int (-1))]
    Lexeme.NothingOpen .postgres (Lexeme.scan .postgres statement.toList) ∧
      resolve .postgres statement parameters = .ok "SELECT 5 --1 'a\n:y'" ∧
        gather (Lexeme.replaced .postgres parameters)
            (Lexeme.scan .postgres statement.toList) ≠
          .ok (Lexeme.scan .postgres "SELECT 5 --1 'a\n:y'".toList) ∧
          parameterNames .postgres "SELECT 5 --1 'a\n:y'" = ["y"] := by
  decide +kernel

end QueryGateway.Sql
