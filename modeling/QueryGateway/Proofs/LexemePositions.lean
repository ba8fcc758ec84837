import QueryGateway.Proofs.NamedValues
import QueryGateway.Proofs.TokenGrammar

/-!
# Where the lexemes of a text stand

A scan cuts any text, whatever is left open in it.  `IsLexedAs` says which cut
this is without going through the text: what is passed over is the longest
token or comment at its position, outside of these none starts, and a colon is
reported as a placeholder wherever it stands outside of them, behind no other
colon and before a name.

These conditions leave no choice (`isLexedAs_iff`), because each of them is
about one position, and together they say at each position what the grammar
makes of the text from there on (`IsFront`).
-/

namespace QueryGateway.Sql

open List

/-! ## Positions -/

/-- Whether a lexeme is passed over when placeholders are looked for. -/
def Lexeme.isSkipped : Lexeme → Bool
  | .quoted _ | .comment _ => true
  | .placeholder _ | .character _ => false

/-- The lexeme that a position belongs to, behind the number of its characters that stand before
the position. -/
def lexemeAt? : List Lexeme → Nat → Option (Nat × Lexeme)
  | [], _ => none
  | lexeme :: rest, position =>
      if position < lexeme.chars.length then
        some (position, lexeme)
      else
        lexemeAt? rest (position - lexeme.chars.length)

/-- A position outside of all quoted tokens and comments. -/
def LiesOutside (lexemes : List Lexeme) (position : Nat) : Prop :=
  ∀ before lexeme, lexemeAt? lexemes position = some (before, lexeme) → lexeme.isSkipped = false

/-- A position of a colon behind no other colon and before a letter or a low line. -/
def StartsPlaceholder (text : List Char) (position : Nat) : Prop :=
  (text.take position).getLast? ≠ some ':' ∧
    ∃ start rest, text.drop position = ':' :: start :: rest ∧ isNameStart start = true

/-- Lexemes that a text is read as. -/
structure IsLexedAs (dialect : Dialect) (text : List Char) (lexemes : List Lexeme) : Prop where
  /-- The lexemes are consecutive parts of the text. -/
  whole : Lexeme.concat lexemes = text
  nonempty : ∀ lexeme ∈ lexemes, lexeme.chars ≠ []
  /-- A quoted token is the longest of the grammar at its position. -/
  quoted :
    ∀ position token, lexemeAt? lexemes position = some (0, .quoted token) →
      IsLongest dialect.IsQuotedToken token (text.drop position)
  /-- A comment goes up to the line end, or up to the first end of a block. -/
  comment :
    ∀ position comment, lexemeAt? lexemes position = some (0, .comment comment) →
      IsLongest IsComment comment (text.drop position)
  /-- What starts outside of these tokens and comments is never closed. -/
  unclosed :
    ∀ position, LiesOutside lexemes position →
      ∀ front, front <+: text.drop position →
        ¬ dialect.IsQuotedToken front ∧ ¬ IsComment front
  /-- A mark, a hyphen or a slash outside is a lexeme of its own: what is never closed hides no
  character behind it. -/
  alone :
    ∀ position c rest, text.drop position = c :: rest → LiesOutside lexemes position →
      c ≠ ':' → isNameChar c = false → lexemeAt? lexemes position = some (0, .character c)
  /-- The colons that are reported are those outside that have no colon before them and a name
  behind them. -/
  reported :
    ∀ position, (∃ name, lexemeAt? lexemes position = some (0, .placeholder name)) ↔
      LiesOutside lexemes position ∧ StartsPlaceholder text position
  /-- The name of a placeholder is as long as it can be. -/
  named :
    ∀ position name, lexemeAt? lexemes position = some (0, .placeholder name) →
      IsLongest (isName · = true) name (text.drop (position + 1))

/-! ## Lexemes and positions -/

/-- The characters of a lexeme stand behind those of the lexemes before it. -/
theorem lexemeAt?_append
    (before after : List Lexeme)
    {lexeme : Lexeme}
    {offset : Nat}
    (inside : offset < lexeme.chars.length) :
    lexemeAt? (before ++ lexeme :: after) ((Lexeme.concat before).length + offset) =
      some (offset, lexeme) := by
  induction before with
  | nil =>
      simp [lexemeAt?, inside]
  | cons first before inductionHypothesis =>
      rw [cons_append, lexemeAt?, Lexeme.concat_cons, length_append, Nat.add_assoc,
        if_neg (by omega), Nat.add_sub_cancel_left, inductionHypothesis]

theorem exists_of_lexemeAt?
    {lexemes : List Lexeme}
    {position offset : Nat}
    {lexeme : Lexeme}
    (found : lexemeAt? lexemes position = some (offset, lexeme)) :
    ∃ before after, lexemes = before ++ lexeme :: after ∧
      position = (Lexeme.concat before).length + offset ∧ offset < lexeme.chars.length := by
  induction lexemes generalizing position with
  | nil =>
      cases found
  | cons first rest inductionHypothesis =>
      rw [lexemeAt?] at found
      split at found
      · rename_i inside
        cases found
        exact ⟨[], rest, rfl, (Nat.zero_add _).symm, inside⟩
      · rename_i behind
        obtain ⟨before, after, rfl, isPosition, inside⟩ := inductionHypothesis found
        refine ⟨first :: before, after, rfl, ?_, inside⟩
        rw [Lexeme.concat_cons, length_append]
        omega

/-- Every position of a text belongs to a lexeme. -/
theorem exists_lexemeAt?
    {lexemes : List Lexeme}
    {position : Nat}
    (inside : position < (Lexeme.concat lexemes).length) :
    ∃ offset lexeme, lexemeAt? lexemes position = some (offset, lexeme) := by
  induction lexemes generalizing position with
  | nil =>
      cases inside
  | cons first rest inductionHypothesis =>
      rw [lexemeAt?]
      split
      · exact ⟨_, _, rfl⟩
      · rw [Lexeme.concat_cons, length_append] at inside
        exact inductionHypothesis (by omega)

/-! ## What the grammar makes of the front of a text -/

/-- The lexeme that the grammar has at the front of a text, given the character before it. -/
inductive IsFront (dialect : Dialect) (previous : Option Char) : List Char → Lexeme → Prop where
  | quoted {text token : List Char} :
      IsLongest dialect.IsQuotedToken token text →
      IsFront dialect previous text (.quoted token)
  | comment {text comment : List Char} :
      IsLongest IsComment comment text →
      IsFront dialect previous text (.comment comment)
  | placeholder {rest name : List Char} :
      previous ≠ some ':' →
      IsLongest (isName · = true) name rest →
      IsFront dialect previous (':' :: rest) (.placeholder name)
  | character {c : Char} {rest : List Char} :
      (∀ front, front <+: c :: rest → ¬ dialect.IsQuotedToken front ∧ ¬ IsComment front) →
      (c = ':' → previous ≠ some ':' → ∀ start ∈ rest.head?, isNameStart start = false) →
      IsFront dialect previous (c :: rest) (.character c)

namespace IsFront

variable {dialect : Dialect} {previous : Option Char} {lexeme : Lexeme}

theorem chars_ne_nil
    {text : List Char}
    (isFront : IsFront dialect previous text lexeme) :
    lexeme.chars ≠ [] := by
  cases isFront with
  | quoted isLongest =>
      obtain ⟨c, rest, rfl, _⟩ := head_of_skipped dialect (.inl isLongest.ofKind)
      exact cons_ne_nil c rest
  | comment isLongest =>
      obtain ⟨c, rest, rfl, _⟩ := head_of_skipped dialect (.inr isLongest.ofKind)
      exact cons_ne_nil c rest
  | placeholder | character =>
      exact cons_ne_nil _ _

theorem quoted_iff
    {text token : List Char} :
    IsFront dialect previous text (.quoted token) ↔
      IsLongest dialect.IsQuotedToken token text := by
  refine ⟨?_, .quoted⟩
  rintro ⟨⟩
  assumption

theorem comment_iff
    {text comment : List Char} :
    IsFront dialect previous text (.comment comment) ↔ IsLongest IsComment comment text := by
  refine ⟨?_, .comment⟩
  rintro ⟨⟩
  assumption

theorem placeholder_iff
    {text name : List Char} :
    IsFront dialect previous text (.placeholder name) ↔
      previous ≠ some ':' ∧
        ∃ rest, text = ':' :: rest ∧ IsLongest (isName · = true) name rest := by
  constructor
  · rintro ⟨⟩
    exact ⟨‹_›, _, rfl, ‹_›⟩
  · rintro ⟨notAfterColon, rest, rfl, isLongest⟩
    exact .placeholder notAfterColon isLongest

/-- No token and no comment starts with a colon. -/
theorem none_at_colon
    (dialect : Dialect)
    (rest : List Char) :
    ∀ front, front <+: ':' :: rest → ¬ dialect.IsQuotedToken front ∧ ¬ IsComment front := by
  intro front isFront
  rw [← not_or]
  intro skipped
  obtain ⟨c, more, rfl, notColon, _⟩ := head_of_skipped dialect skipped
  exact notColon (cons_prefix_cons.mp isFront).1

/-- The scan finds nothing to pass over exactly where no token and no comment starts. -/
theorem nothingFound_iff
    {text : List Char} :
    Lexeme.quotedLength? dialect text = none ∧ commentLength? text = none ↔
      ∀ front, front <+: text → ¬ dialect.IsQuotedToken front ∧ ¬ IsComment front := by
  rw [dialect.measures_quotedLength?.eq_none_iff, measures_commentLength?.eq_none_iff]
  constructor
  · rintro ⟨noToken, noComment⟩ front isFront
    exact ⟨noToken front isFront, noComment front isFront⟩
  · intro neither
    exact ⟨fun front isFront => (neither front isFront).1,
      fun front isFront => (neither front isFront).2⟩

/-- The scan reads what the grammar has at the front of a text. -/
theorem of_first
    (dialect : Dialect)
    (previous : Option Char)
    (c : Char)
    (rest : List Char) :
    IsFront dialect previous (c :: rest) (Lexeme.first dialect previous c rest) := by
  have front := Lexeme.front_first dialect previous c rest
  generalize Lexeme.first dialect previous c rest = lexeme at front
  cases front with
  | quoted found =>
      exact .quoted (dialect.measures_quotedLength?.isLongest_take found)
  | comment _ found =>
      exact .comment (measures_commentLength?.isLongest_take found)
  | placeholder isColon notAfterColon named =>
      subst isColon
      exact .placeholder notAfterColon (isLongest_nameAtFront_iff.mpr ⟨rfl, named⟩)
  | character notQuoted noComment noName =>
      refine .character (nothingFound_iff.mp ⟨notQuoted, noComment⟩) ?_
      intro isColon notAfterColon start isStart
      obtain ⟨more, rfl⟩ := head?_eq_some_iff.mp isStart
      have unnamed := noName isColon notAfterColon
      rw [nameAtFront] at unnamed
      split at unnamed
      · cases unnamed
      · rename_i noStart
        simpa using noStart

/-- What the grammar has at the front of a text is what the scan reads. -/
theorem first_eq
    {c : Char}
    {rest : List Char}
    (isFront : IsFront dialect previous (c :: rest) lexeme) :
    Lexeme.first dialect previous c rest = lexeme := by
  have tokens := dialect.measures_quotedLength?
  have comments := measures_commentLength?
  cases isFront with
  | quoted isLongest =>
      obtain ⟨length, found, rfl⟩ :=
        Option.map_eq_some_iff.mp (tokens.map_take_eq_some_iff.mpr isLongest)
      simp [Lexeme.first, found]
  | comment isLongest =>
      have notQuoted : Lexeme.quotedLength? dialect (c :: rest) = none := by
        refine tokens.eq_none_iff.mpr fun front isFront isToken => ?_
        obtain ⟨d, more, rfl, _⟩ := head_of_skipped dialect (.inl isToken)
        obtain ⟨d', more', rfl, _⟩ := head_of_skipped dialect (.inr isLongest.ofKind)
        obtain ⟨rfl, _⟩ := cons_prefix_cons.mp isFront
        obtain ⟨rfl, _⟩ := cons_prefix_cons.mp isLongest.isFront
        exact head_ne_of_quotedToken_of_comment isToken isLongest.ofKind
      obtain ⟨length, found, rfl⟩ :=
        Option.map_eq_some_iff.mp (comments.map_take_eq_some_iff.mpr isLongest)
      simp [Lexeme.first, notQuoted, found]
  | placeholder notAfterColon isLongest =>
      obtain ⟨notQuoted, noComment⟩ := nothingFound_iff.mpr (none_at_colon dialect rest)
      obtain ⟨rfl, named⟩ := isLongest_nameAtFront_iff.mp isLongest
      simp [Lexeme.first, notQuoted, noComment, notAfterColon, named]
  | character none noName =>
      obtain ⟨notQuoted, noComment⟩ := nothingFound_iff.mpr none
      have unnamed : c = ':' → previous ≠ some ':' → nameAtFront rest = [] := by
        intro isColon notAfterColon
        cases rest with
        | nil =>
            rfl
        | cons start more =>
            rw [nameAtFront, if_neg (by simp [noName isColon notAfterColon start rfl])]
      simp only [Lexeme.first, notQuoted, noComment]
      rw [if_neg]
      simpa using unnamed

end IsFront

/-! ## Reading lexeme by lexeme -/

/-- Lexemes each of which is what the grammar has at the front of what is left of a text. -/
def ReadInTurn (dialect : Dialect) (previous : Option Char) (lexemes : List Lexeme) : Prop :=
  ∀ before lexeme after, lexemes = before ++ lexeme :: after →
    IsFront dialect ((Lexeme.concat before).getLast?.or previous)
      (lexeme.chars ++ Lexeme.concat after) lexeme

variable {dialect : Dialect}

theorem readInTurn_cons
    {previous : Option Char}
    {lexeme : Lexeme}
    {rest : List Lexeme} :
    ReadInTurn dialect previous (lexeme :: rest) ↔
      IsFront dialect previous (lexeme.chars ++ Lexeme.concat rest) lexeme ∧
        ReadInTurn dialect (lexeme.chars.getLast?.or previous) rest := by
  have shifted (before : List Lexeme) :
      (Lexeme.concat (lexeme :: before)).getLast?.or previous =
        (Lexeme.concat before).getLast?.or (lexeme.chars.getLast?.or previous) := by
    rw [Lexeme.concat_cons, getLast?_append, Option.or_assoc]
  constructor
  · intro inTurn
    refine ⟨inTurn [] lexeme rest rfl, ?_⟩
    rintro before next after rfl
    rw [← shifted]
    exact inTurn (lexeme :: before) next after rfl
  · rintro ⟨isFront, inTurn⟩ before next after split
    cases before with
    | nil =>
        obtain ⟨rfl, rfl⟩ := cons.inj split
        exact isFront
    | cons first before =>
        obtain ⟨rfl, isRest⟩ := cons.inj split
        rw [shifted]
        exact inTurn before next after isRest

/-- Lexemes are read back exactly if each of them is what the grammar has at its place. -/
theorem scanFrom_concat_eq_iff
    {previous : Option Char}
    {lexemes : List Lexeme} :
    Lexeme.scanFrom dialect 0 previous (Lexeme.concat lexemes) = lexemes ↔
      ReadInTurn dialect previous lexemes := by
  induction lexemes generalizing previous with
  | nil =>
      refine iff_of_true rfl fun before lexeme after split => ?_
      simp at split
  | cons lexeme rest inductionHypothesis =>
      rw [readInTurn_cons, ← inductionHypothesis]
      constructor
      · intro read
        obtain ⟨c, body, shape, isFirst, restRead⟩ := Lexeme.scanFrom_concat_cons read
        rw [shape] at restRead ⊢
        refine ⟨?_, ?_⟩
        · rw [← isFirst]
          exact .of_first dialect previous c _
        · rwa [getLast?_cons, Option.some_or, ← getLast?_cons]
      · rintro ⟨isFront, restRead⟩
        obtain ⟨c, body, shape⟩ := exists_cons_of_ne_nil isFront.chars_ne_nil
        rw [shape, cons_append] at isFront
        rw [shape, getLast?_or_cons] at restRead
        rw [Lexeme.concat_cons, shape, cons_append, Lexeme.scanFrom, isFront.first_eq, shape,
          length_cons, Nat.add_sub_cancel, Lexeme.scanFrom_append, restRead]

/-- At the position of each lexeme stands what the grammar has there. -/
def ReadsAt (dialect : Dialect) (text : List Char) (lexemes : List Lexeme) : Prop :=
  ∀ position lexeme, lexemeAt? lexemes position = some (0, lexeme) →
    IsFront dialect (text.take position).getLast? (text.drop position) lexeme

theorem readInTurn_iff_readsAt
    {lexemes : List Lexeme} :
    ReadInTurn dialect none lexemes ↔
      (∀ lexeme ∈ lexemes, lexeme.chars ≠ []) ∧
        ReadsAt dialect (Lexeme.concat lexemes) lexemes := by
  have atSplit (before after : List Lexeme) (lexeme : Lexeme) :
      let text := Lexeme.concat (before ++ lexeme :: after)
      let position := (Lexeme.concat before).length
      text.take position = Lexeme.concat before ∧
        text.drop position = lexeme.chars ++ Lexeme.concat after := by
    simp [Lexeme.concat]
  constructor
  · intro inTurn
    refine ⟨fun lexeme member => ?_, fun position lexeme found => ?_⟩
    · obtain ⟨before, after, split⟩ := append_of_mem member
      exact (inTurn before lexeme after split).chars_ne_nil
    · obtain ⟨before, after, rfl, rfl, _⟩ := exists_of_lexemeAt? found
      obtain ⟨front, back⟩ := atSplit before after lexeme
      rw [Nat.add_zero, front, back, ← Option.or_none (o := (Lexeme.concat before).getLast?)]
      exact inTurn before lexeme after rfl
  · rintro ⟨nonempty, readsAt⟩ before lexeme after rfl
    obtain ⟨front, back⟩ := atSplit before after lexeme
    have inside : 0 < lexeme.chars.length :=
      length_pos_iff.mpr (nonempty lexeme (by simp))
    have isFront := readsAt _ _ (lexemeAt?_append before after inside)
    rwa [Nat.add_zero, front, back, ← Option.or_none (o := (Lexeme.concat before).getLast?)]
      at isFront

/-! ## Reading by positions -/

section

variable {text : List Char} {lexemes : List Lexeme} {position : Nat}

/-- Behind a position stands the rest of its lexeme. -/
theorem drop_of_lexemeAt?
    (whole : Lexeme.concat lexemes = text)
    {offset : Nat}
    {lexeme : Lexeme}
    (found : lexemeAt? lexemes position = some (offset, lexeme)) :
    ∃ rest, text.drop position = lexeme.chars.drop offset ++ rest := by
  obtain ⟨before, after, rfl, rfl, inside⟩ := exists_of_lexemeAt? found
  refine ⟨Lexeme.concat after, ?_⟩
  rw [← whole]
  simp [Lexeme.concat, drop_append, Nat.sub_eq_zero_of_le (Nat.le_of_lt inside)]

theorem liesOutside_of_lexemeAt?
    {offset : Nat}
    {lexeme : Lexeme}
    (found : lexemeAt? lexemes position = some (offset, lexeme))
    (notSkipped : lexeme.isSkipped = false) :
    LiesOutside lexemes position := by
  intro offset' lexeme' found'
  rw [found] at found'
  cases found'
  exact notSkipped

/-- Outside of tokens and comments stand single characters and placeholders. -/
theorem lexemeAt?_of_outside
    (whole : Lexeme.concat lexemes = text)
    (readsAt : ReadsAt dialect text lexemes)
    {c : Char}
    {rest : List Char}
    (isText : text.drop position = c :: rest)
    (outside : LiesOutside lexemes position) :
    lexemeAt? lexemes position = some (0, .character c) ∨
      (∃ name, lexemeAt? lexemes position = some (0, .placeholder name) ∧ c = ':') ∨
        isNameChar c = true := by
  have inside : position < (Lexeme.concat lexemes).length := by
    rw [whole]
    exact lt_of_not_ge fun behind => by simp [drop_eq_nil_of_le behind] at isText
  obtain ⟨offset, lexeme, found⟩ := exists_lexemeAt? inside
  have notSkipped := outside offset lexeme found
  obtain ⟨before, after, rfl, _, within⟩ := exists_of_lexemeAt? found
  obtain ⟨more, shape⟩ := drop_of_lexemeAt? whole found
  rw [isText] at shape
  cases lexeme with
  | quoted | comment =>
      cases notSkipped
  | character d =>
      obtain rfl : offset = 0 := Nat.lt_one_iff.mp within
      obtain ⟨rfl, _⟩ := cons.inj shape
      exact .inl found
  | placeholder name =>
      cases offset with
      | zero =>
          obtain ⟨rfl, _⟩ := cons.inj shape
          exact .inr (.inl ⟨name, found, rfl⟩)
      | succ offset =>
          have isFront :=
            readsAt _ _ (lexemeAt?_append before after (Nat.zero_lt_of_lt within))
          obtain ⟨_, _, _, isLongest⟩ := IsFront.placeholder_iff.mp isFront
          have ahead : name.drop offset ≠ [] := by
            simpa [Lexeme.chars] using within
          obtain ⟨d, later, isDrop⟩ := exists_cons_of_ne_nil ahead
          rw [Lexeme.chars, drop_succ_cons, isDrop] at shape
          obtain ⟨rfl, _⟩ := cons.inj shape
          have member : c ∈ name := mem_of_mem_drop (isDrop ▸ mem_cons_self)
          exact .inr (.inr (Lexeme.nameChar_of_mem isLongest.ofKind member))

/-- No token and no comment starts outside of those that are passed over. -/
theorem none_outside
    (whole : Lexeme.concat lexemes = text)
    (readsAt : ReadsAt dialect text lexemes)
    (outside : LiesOutside lexemes position)
    {front : List Char}
    (isFront : front <+: text.drop position) :
    ¬ dialect.IsQuotedToken front ∧ ¬ IsComment front := by
  rw [← not_or]
  intro skipped
  obtain ⟨c, more, rfl, notColon, notName⟩ := head_of_skipped dialect skipped
  obtain ⟨rest, isText⟩ := isFront
  rcases lexemeAt?_of_outside whole readsAt isText.symm outside with
    found | ⟨name, _, isColon⟩ | isName
  · have atCharacter := readsAt position _ found
    rw [← isText] at atCharacter
    cases atCharacter with
    | character none => exact absurd skipped (not_or.mpr (none _ (prefix_append _ rest)))
  · exact notColon isColon
  · rw [notName] at isName
    cases isName

/-- A placeholder is read exactly where one starts. -/
theorem placeholderAt_iff
    (whole : Lexeme.concat lexemes = text)
    (readsAt : ReadsAt dialect text lexemes) :
    (∃ name, lexemeAt? lexemes position = some (0, .placeholder name)) ↔
      LiesOutside lexemes position ∧ StartsPlaceholder text position := by
  constructor
  · rintro ⟨name, found⟩
    obtain ⟨notAfterColon, rest, isText, isLongest⟩ :=
      IsFront.placeholder_iff.mp (readsAt position _ found)
    have valid := isLongest.ofKind
    obtain ⟨more, rfl⟩ := isLongest.isFront
    refine ⟨liesOutside_of_lexemeAt? found rfl, notAfterColon, ?_⟩
    cases name with
    | nil =>
        cases valid
    | cons start name =>
        simp only [isName, Bool.and_eq_true] at valid
        exact ⟨start, name ++ more, isText, valid.1⟩
  · rintro ⟨outside, notAfterColon, start, rest, isText, starts⟩
    rcases lexemeAt?_of_outside whole readsAt isText outside with
      found | ⟨name, found, _⟩ | isName
    · have atColon := readsAt position _ found
      rw [isText] at atColon
      cases atColon with
      | character _ noName =>
          have noStart := noName rfl notAfterColon start rfl
          rw [starts] at noStart
          cases noStart
    · exact ⟨name, found⟩
    · exact absurd isName (by decide)

namespace IsLexedAs

/-- The conditions on positions leave at each of them what the grammar has there. -/
theorem readsAt
    (isLexed : IsLexedAs dialect text lexemes) :
    ReadsAt dialect text lexemes := by
  intro position lexeme found
  cases lexeme with
  | quoted token =>
      exact .quoted (isLexed.quoted position token found)
  | comment comment =>
      exact .comment (isLexed.comment position comment found)
  | placeholder name =>
      obtain ⟨_, notAfterColon, start, rest, isText, _⟩ :=
        (isLexed.reported position).mp ⟨name, found⟩
      have isLongest := isLexed.named position name found
      rw [← drop_drop, isText] at isLongest
      exact IsFront.placeholder_iff.mpr ⟨notAfterColon, _, isText, isLongest⟩
  | character c =>
      have outside := liesOutside_of_lexemeAt? found rfl
      obtain ⟨rest, isText⟩ := drop_of_lexemeAt? isLexed.whole found
      rw [Lexeme.chars, drop_zero, singleton_append] at isText
      have none := isLexed.unclosed position outside
      rw [isText] at none ⊢
      refine .character none fun isColon notAfterColon start isStart => ?_
      subst isColon
      obtain ⟨more, rfl⟩ := head?_eq_some_iff.mp isStart
      by_contra starts
      rw [Bool.not_eq_false] at starts
      obtain ⟨name, found'⟩ :=
        (isLexed.reported position).mpr ⟨outside, notAfterColon, start, more, isText, starts⟩
      rw [found] at found'
      cases found'

theorem of_readsAt
    (whole : Lexeme.concat lexemes = text)
    (nonempty : ∀ lexeme ∈ lexemes, lexeme.chars ≠ [])
    (readsAt : ReadsAt dialect text lexemes) :
    IsLexedAs dialect text lexemes where
  whole := whole
  nonempty := nonempty
  quoted position _ found := IsFront.quoted_iff.mp (readsAt position _ found)
  comment position _ found := IsFront.comment_iff.mp (readsAt position _ found)
  unclosed position outside front isFront := none_outside whole readsAt outside isFront
  alone position c rest isText outside notColon notName := by
    rcases lexemeAt?_of_outside whole readsAt isText outside with
      found | ⟨name, _, isColon⟩ | isName
    · exact found
    · exact absurd isColon notColon
    · rw [notName] at isName
      cases isName
  reported position := placeholderAt_iff whole readsAt
  named position name found := by
    obtain ⟨_, rest, isText, isLongest⟩ :=
      IsFront.placeholder_iff.mp (readsAt position _ found)
    rw [← drop_drop, isText]
    exact isLongest

end IsLexedAs

/-- The scan is the only way to read a text that meets these conditions. -/
theorem isLexedAs_iff :
    IsLexedAs dialect text lexemes ↔ lexemes = Lexeme.scan dialect text := by
  constructor
  · intro isLexed
    have inTurn : ReadInTurn dialect none lexemes :=
      readInTurn_iff_readsAt.mpr
        ⟨isLexed.nonempty, isLexed.whole.symm ▸ isLexed.readsAt⟩
    rw [Lexeme.scan, ← isLexed.whole]
    exact (scanFrom_concat_eq_iff.mpr inTurn).symm
  · rintro rfl
    have whole := Lexeme.scan_concat dialect text
    have readBack :
        Lexeme.scanFrom dialect 0 none (Lexeme.concat (Lexeme.scan dialect text)) =
          Lexeme.scan dialect text := by
      rw [whole]
      rfl
    obtain ⟨nonempty, readsAt⟩ :=
      readInTurn_iff_readsAt.mp (scanFrom_concat_eq_iff.mp readBack)
    rw [whole] at readsAt
    exact .of_readsAt whole nonempty readsAt

end

/-! ## Statements -/

/-- Every statement, whatever is left open in it, is read as its tokens, comments and placeholders
in exactly one way.  The pattern of the dialect matches the longest quoted token of the grammar
wherever there is one, and the names that are extracted are the longest names behind the colons
that start a placeholder. -/
theorem scan_lexes
    (dialect : Dialect)
    (statement : String) :
    let text := statement.toList
    let scanned := Lexeme.scan dialect text
    (∀ lexemes, IsLexedAs dialect text lexemes ↔ lexemes = scanned) ∧
      (∀ rest token,
        dialect.quotedTokenPattern.matched? rest = some token ↔
          IsLongest dialect.IsQuotedToken token rest) ∧
      ∀ name, name ∈ extractedNames dialect statement ↔
        ∃ position, LiesOutside scanned position ∧ StartsPlaceholder text position ∧
          IsLongest (isName · = true) name.toList (text.drop (position + 1)) := by
  intro text scanned
  refine ⟨fun lexemes => isLexedAs_iff, fun rest token => Dialect.matched?_eq_some_iff, ?_⟩
  intro name
  have isLexed : IsLexedAs dialect text scanned := isLexedAs_iff.mpr rfl
  rw [extractedNames_eq_parameterNames, mem_parameterNames]
  constructor
  · rintro ⟨lexeme, member, named⟩
    cases lexeme with
    | quoted | comment | character =>
        cases named
    | placeholder found =>
        obtain ⟨before, after, split⟩ := append_of_mem member
        have inside : 0 < (Lexeme.placeholder found).chars.length := Nat.zero_lt_succ _
        have isAt := lexemeAt?_append before after inside
        rw [← split] at isAt
        obtain ⟨outside, starts⟩ := (isLexed.reported _).mp ⟨found, isAt⟩
        obtain rfl : String.ofList found = name := Option.some.inj named
        rw [String.toList_ofList]
        exact ⟨_, outside, starts, isLexed.named _ found isAt⟩
  · rintro ⟨position, outside, starts, isLongest⟩
    obtain ⟨found, isAt⟩ := (isLexed.reported position).mpr ⟨outside, starts⟩
    obtain ⟨before, after, split, _⟩ := exists_of_lexemeAt? isAt
    have isName : found = name.toList := (isLexed.named position found isAt).unique isLongest
    have member : .placeholder found ∈ scanned := by
      rw [split]
      simp
    refine ⟨_, member, ?_⟩
    rw [isName, Lexeme.name?, String.ofList_toList]

/-- A quote that is closed before the last of three marks, and a mark, a block comment and a cast
that hide nothing. -/
example :
    Lexeme.scan .postgres "'x''/*:a::b".toList =
      [.quoted ['\'', 'x', '\''], .character '\'', .character '/', .character '*',
        .placeholder ['a'], .character ':', .character ':', .character 'b'] := by
  decide +kernel

end QueryGateway.Sql
