import Mathlib.Data.List.Chain
import QueryGateway.Proofs.QuotedTokens
import QueryGateway.Sql.Piece

/-!
# Tidy pieces are read back as they were written

A statement is written piece by piece and read character by character.  The
two agree if bare text holds nothing that the scan takes for more than a
character, and if no two neighbours run into each other.  Two neighbours are
kept apart by a separator: a blank, a line end, a comma, a point or a
parenthesis at the end of the first or at the start of the second.

`Piece.Tidy` says both.  It is closed under putting a separator between two
tidy lists, and `Lexeme.scan_allChars` is what it is for: the lexemes of the
written text are the lexemes of the pieces, for every content of the quoted
ones.
-/

namespace QueryGateway.Sql

open List

/-! ## Calm text -/

/-- Whether a character is no mark of a quoted token and no colon. -/
def isBareChar (c : Char) : Bool :=
  c ≠ '\'' && c ≠ '"' && c ≠ '\x60' && c ≠ ':'

/-- Whether two neighbouring characters open a comment. -/
def opensComment (first second : Char) : Bool :=
  (first = '-' && second = '-') || (first = '/' && second = '*')

/-- Characters of which the scan takes each one for itself. -/
structure Calm (cs : List Char) : Prop where
  bare : ∀ c ∈ cs, isBareChar c = true
  noComment : cs.IsChain fun first second => opensComment first second = false

instance (cs : List Char) : Decidable (Calm cs) :=
  decidable_of_iff
    (cs.all isBareChar = true ∧
      cs.IsChain fun first second => opensComment first second = false)
    ⟨fun both => ⟨all_eq_true.mp both.1, both.2⟩,
      fun calm => ⟨all_eq_true.mpr calm.bare, calm.noComment⟩⟩

/-- Whether a character keeps what stands before it from what stands after it. -/
def isSeparator (c : Char) : Bool :=
  c = ' ' || c = '\n' || c = ',' || c = '.' || c = '(' || c = ')'

/-- A separator is no mark, no part of a name and no part of a comment. -/
theorem separator_cases
    {c : Char}
    (separator : isSeparator c = true) :
    isBareChar c = true ∧ isNameChar c = false ∧
      (∀ other, opensComment c other = false ∧ opensComment other c = false) := by
  simp only [isSeparator, Bool.or_eq_true, decide_eq_true_eq] at separator
  rcases separator with ((((rfl | rfl) | rfl) | rfl) | rfl) | rfl <;>
    simp [isBareChar, isNameChar, opensComment]

namespace Calm

/-- Calm texts stay calm side by side if no comment opens where they meet. -/
theorem append
    {first second : List Char}
    (firstCalm : Calm first)
    (secondCalm : Calm second)
    (meeting :
      ∀ c ∈ first.getLast?, ∀ d ∈ second.head?, opensComment c d = false) :
    Calm (first ++ second) where
  bare c member := by
    rcases mem_append.mp member with inFirst | inSecond
    · exact firstCalm.bare c inFirst
    · exact secondCalm.bare c inSecond
  noComment :=
    firstCalm.noComment.append secondCalm.noComment meeting

/-- A bare character before a calm text keeps it calm if the two open no comment. -/
theorem cons
    {c : Char}
    {cs : List Char}
    (bare : isBareChar c = true)
    (calm : Calm cs)
    (meeting : ∀ d ∈ cs.head?, opensComment c d = false) :
    Calm (c :: cs) where
  bare := by
    simpa [bare] using calm.bare
  noComment :=
    isChain_cons.mpr ⟨meeting, calm.noComment⟩

end Calm

/-! ## Tidy pieces -/

namespace Piece

/-- Bare text is calm and not empty, and a placeholder has the name of a parameter. -/
def Sound : Piece → Prop
  | .bare text => text.toList ≠ [] ∧ Calm text.toList
  | .raw text => text.toList ≠ [] ∧ Calm text.toList
  | .placeholder name => isName name.toList = true
  | .truth _ => True
  | .quoted _ _ => True

/-- Whether a piece starts with a separator. -/
def startsApart : Piece → Bool
  | .bare text => text.toList.head?.any isSeparator
  | _ => false

/-- Whether a piece ends with a separator. -/
def endsApart : Piece → Bool
  | .bare text => text.toList.getLast?.any isSeparator
  | _ => false

/-- A separator stands between two neighbours. -/
def Fits (first second : Piece) : Prop :=
  first.endsApart = true ∨ second.startsApart = true

/-- Sound pieces with a separator between each two neighbours. -/
structure Tidy (pieces : List Piece) : Prop where
  sound : ∀ piece ∈ pieces, piece.Sound
  apart : pieces.IsChain Fits

/-- The lexemes that a piece is meant to be read as. -/
def lexemes (dialect : Dialect) : Piece → List Lexeme
  | .bare text => text.toList.map .character
  | .truth value => (dialect.truthText value).toList.map .character
  | .quoted kind content => [.quoted ((dialect.style kind).quote content.toList)]
  | .placeholder name => [.placeholder name.toList]
  | .raw text => text.toList.map .character

/-- A sound piece is written as at least one character. -/
theorem chars_ne_nil
    (dialect : Dialect)
    {piece : Piece}
    (sound : piece.Sound) :
    piece.chars dialect ≠ [] := by
  cases piece with
  | bare text =>
      exact sound.1
  | truth value =>
      cases dialect <;> cases value <;> simp [chars, Dialect.truthText]
  | quoted kind content =>
      simp [chars, QuoteStyle.quote]
  | placeholder name =>
      simp [chars]
  | raw text =>
      exact sound.1

/-- The text of tidy pieces starts as its first piece does. -/
theorem head?_allChars_cons
    (dialect : Dialect)
    {piece : Piece}
    (sound : piece.Sound)
    (rest : List Piece) :
    (allChars dialect (piece :: rest)).head? = (piece.chars dialect).head? := by
  have nonempty := chars_ne_nil dialect sound
  rw [allChars, flatMap_cons, head?_append]
  cases shape : piece.chars dialect with
  | nil =>
      exact (nonempty shape).elim
  | cons c cs =>
      rfl

namespace Tidy

theorem nil : Tidy [] :=
  ⟨by simp, .nil⟩

theorem singleton
    {piece : Piece}
    (sound : piece.Sound) :
    Tidy [piece] :=
  ⟨by simpa using sound, .singleton _⟩

/-- What comes after the first of tidy pieces is tidy. -/
theorem tail
    {piece : Piece}
    {rest : List Piece}
    (tidy : Tidy (piece :: rest)) :
    Tidy rest where
  sound other member :=
    tidy.sound other (mem_cons_of_mem piece member)
  apart :=
    (isChain_cons.mp tidy.apart).2

/-- Tidy lists stay tidy side by side if a separator stands where they meet. -/
theorem append
    {first second : List Piece}
    (firstTidy : Tidy first)
    (secondTidy : Tidy second)
    (meeting : ∀ x ∈ first.getLast?, ∀ y ∈ second.head?, Fits x y) :
    Tidy (first ++ second) where
  sound piece member := by
    rcases mem_append.mp member with inFirst | inSecond
    · exact firstTidy.sound piece inFirst
    · exact secondTidy.sound piece inSecond
  apart :=
    firstTidy.apart.append secondTidy.apart meeting

end Tidy

end Piece

/-! ## Reading them back -/

/-- A bare character is no mark of any dialect. -/
theorem Dialect.styleOf?_bareChar
    (dialect : Dialect)
    {c : Char}
    (bare : isBareChar c = true) :
    dialect.styleOf? c = none := by
  simp only [isBareChar, ne_eq, decide_not, Bool.and_eq_true,
    Bool.not_eq_true', decide_eq_false_iff_not] at bare
  obtain ⟨⟨⟨notApostrophe, notQuotation⟩, notBacktick⟩, _⟩ := bare
  cases dialect <;>
    simp [styleOf?, styles, textStyle, identifierStyle,
      Ne.symm notApostrophe, Ne.symm notQuotation, Ne.symm notBacktick]

/-- The text of a truth value is calm. -/
theorem Dialect.calm_truthText :
    ∀ (dialect : Dialect) (value : Bool),
      Calm (dialect.truthText value).toList
  | .postgres, true => show Calm "TRUE".toList by decide
  | .postgres, false => show Calm "FALSE".toList by decide
  | .clickHouse _, true => show Calm "1".toList by decide
  | .clickHouse _, false => show Calm "0".toList by decide

/-- No comment starts at a character that opens none with the next one. -/
theorem commentLength?_eq_none
    {c : Char}
    {rest : List Char}
    (noComment : ∀ d ∈ rest.head?, opensComment c d = false) :
    commentLength? (c :: rest) = none := by
  unfold commentLength?
  split
  · rename_i rest' shape
    simp only [cons.injEq] at shape
    obtain ⟨rfl, rfl⟩ := shape
    simp [opensComment] at noComment
  · rename_i rest' shape
    simp only [cons.injEq] at shape
    obtain ⟨rfl, rfl⟩ := shape
    simp [opensComment] at noComment
  · rfl

namespace Lexeme

/-- A bare character that opens no comment stands for itself. -/
theorem first_bareChar
    (dialect : Dialect)
    (previous : Option Char)
    {c : Char}
    {rest : List Char}
    (bare : isBareChar c = true)
    (noComment : ∀ d ∈ rest.head?, opensComment c d = false) :
    first dialect previous c rest = .character c := by
  have notColon : c ≠ ':' := by
    rintro rfl
    simp [isBareChar] at bare
  simp [first, quotedLength?, dialect.styleOf?_bareChar bare,
    commentLength?_eq_none noComment, notColon]

/-- Calm text is read character by character. -/
theorem scanFrom_calm
    (dialect : Dialect)
    (previous : Option Char)
    {cs rest : List Char}
    (calm : Calm cs)
    (meeting :
      ∀ c ∈ cs.getLast?, ∀ d ∈ rest.head?, opensComment c d = false) :
    scanFrom dialect 0 previous (cs ++ rest) =
      cs.map .character ++
        scanFrom dialect 0 (cs.getLast?.or previous) rest := by
  induction cs generalizing previous with
  | nil =>
      simp
  | cons c cs inductionHypothesis =>
      have noComment :
          ∀ d ∈ (cs ++ rest).head?, opensComment c d = false := by
        cases cs with
        | nil =>
            simpa using meeting
        | cons next cs =>
            simpa using (isChain_cons.mp calm.noComment).1
      have restCalm : Calm cs :=
        ⟨fun d member => calm.bare d (mem_cons_of_mem c member),
          (isChain_cons.mp calm.noComment).2⟩
      have restMeeting :
          ∀ d ∈ cs.getLast?, ∀ e ∈ rest.head?,
            opensComment d e = false := by
        intro d isLast
        apply meeting d
        cases cs <;> simp_all [getLast?_cons]
      have head :=
        first_bareChar dialect previous
          (calm.bare c mem_cons_self) noComment
      rw [cons_append, scanFrom, head]
      simp only [chars, length_singleton, Nat.sub_self, map_cons, cons_append]
      rw [inductionHypothesis (some c) restCalm restMeeting]
      cases cs <;> simp [getLast?_cons]

/-- A written token is read as one lexeme. -/
theorem scanFrom_quote
    (dialect : Dialect)
    (previous : Option Char)
    (kind : QuoteKind)
    (content : List Char)
    {rest : List Char}
    (separated : rest.head? ≠ some (dialect.style kind).mark) :
    scanFrom dialect 0 previous ((dialect.style kind).quote content ++ rest) =
      .quoted ((dialect.style kind).quote content) ::
        scanFrom dialect 0 (some (dialect.style kind).mark) rest := by
  have found := quotedLength?_quote dialect kind content separated
  rw [QuoteStyle.quote_eq_cons, cons_append] at found ⊢
  generalize interior :
    (dialect.style kind).escape content ++ [(dialect.style kind).mark] = body
      at found ⊢
  have head :
      first dialect previous (dialect.style kind).mark (body ++ rest) =
        .quoted ((dialect.style kind).mark :: body) := by
    simp [first, found]
  rw [scanFrom, head]
  simp only [chars, length_cons, Nat.add_one_sub_one]
  rw [scanFrom_append, ← interior]
  simp

/-- A name is read up to its end. -/
theorem nameAtFront_append
    {name rest : List Char}
    (valid : isName name = true)
    (separated : ∀ d ∈ rest.head?, isNameChar d = false) :
    nameAtFront (name ++ rest) = name := by
  cases name with
  | nil =>
      simp [isName] at valid
  | cons c name =>
      simp only [isName, Bool.and_eq_true, all_eq_true] at valid
      have restStops : rest.takeWhile isNameChar = [] := by
        cases rest with
        | nil =>
            rfl
        | cons d rest =>
            simp [separated d (by simp)]
      simp [nameAtFront, valid.1, takeWhile_append_of_pos valid.2, restStops]

/-- Every character of a name may stand in a name. -/
theorem nameChar_of_mem
    {name : List Char}
    (valid : isName name = true)
    {c : Char}
    (member : c ∈ name) :
    isNameChar c = true := by
  cases name with
  | nil =>
      simp at member
  | cons start name =>
      simp only [isName, Bool.and_eq_true, all_eq_true] at valid
      rcases mem_cons.mp member with rfl | inRest
      · have starts := valid.1
        simp only [isNameStart, isNameChar, Char.isAlphanum, Bool.or_eq_true] at starts ⊢
        tauto
      · exact valid.2 c inRest

/-- A colon and a name are read as a placeholder unless a colon stands before them. -/
theorem scanFrom_placeholder
    (dialect : Dialect)
    {previous : Option Char}
    (notAfterColon : previous ≠ some ':')
    {name rest : List Char}
    (valid : isName name = true)
    (separated : ∀ d ∈ rest.head?, isNameChar d = false) :
    scanFrom dialect 0 previous (':' :: name ++ rest) =
      .placeholder name ::
        scanFrom dialect 0 (name.getLast?.or (some ':')) rest := by
  have noStyle : dialect.styleOf? ':' = none := by
    cases dialect <;>
      simp [Dialect.styleOf?, Dialect.styles, Dialect.textStyle,
        Dialect.identifierStyle]
  have named := nameAtFront_append valid separated
  have nonempty : name ≠ [] := by
    rintro rfl
    simp [isName] at valid
  have head :
      first dialect previous ':' (name ++ rest) = .placeholder name := by
    simp [first, quotedLength?, noStyle, commentLength?, named,
      notAfterColon, nonempty]
  rw [cons_append, scanFrom, head]
  simp only [chars, length_cons, Nat.add_one_sub_one]
  rw [scanFrom_append]

/-- Where tidy pieces go on, a separator ends the first piece or starts the rest. -/
theorem separator_at_meeting
    (dialect : Dialect)
    {piece : Piece}
    {rest : List Piece}
    (tidy : Piece.Tidy (piece :: rest))
    {d : Char}
    (next : d ∈ (Piece.allChars dialect rest).head?) :
    piece.endsApart = true ∨ isSeparator d = true := by
  cases rest with
  | nil =>
      simp [Piece.allChars] at next
  | cons second rest =>
      rcases (isChain_cons_cons.mp tidy.apart).1 with ends | starts
      · exact Or.inl ends
      · have sound := tidy.sound second (by simp)
        rw [Piece.head?_allChars_cons dialect sound] at next
        cases second with
        | bare text =>
            right
            have first : text.toList.head? = some d := next
            simpa [Piece.startsApart, first] using starts
        | truth value =>
            simp [Piece.startsApart] at starts
        | quoted kind content =>
            simp [Piece.startsApart] at starts
        | placeholder name =>
            simp [Piece.startsApart] at starts
        | raw text =>
            simp [Piece.startsApart] at starts

/-- Calm text is read character by character up to where a separator keeps it apart, and no colon
is left behind. -/
theorem scanFrom_calm_apart
    (dialect : Dialect)
    {previous : Option Char}
    (notAfterColon : previous ≠ some ':')
    {cs rest : List Char}
    (calm : Calm cs)
    (apart :
      ∀ c ∈ cs.getLast?, ∀ d ∈ rest.head?,
        isSeparator c = true ∨ isSeparator d = true) :
    ∃ last, last ≠ some ':' ∧
      scanFrom dialect 0 previous (cs ++ rest) =
        cs.map .character ++ scanFrom dialect 0 last rest := by
  refine ⟨cs.getLast?.or previous, ?_, scanFrom_calm dialect previous calm ?_⟩
  · intro isColon
    rcases Option.or_eq_some_iff.mp isColon with last | ⟨_, before⟩
    · have bare := calm.bare ':' (mem_of_getLast? last)
      simp [isBareChar] at bare
    · exact notAfterColon before
  · intro c last d next
    rcases apart c last d next with ends | starts
    · exact ((separator_cases ends).2.2 d).1
    · exact ((separator_cases starts).2.2 c).2

/-- One sound piece is read as its lexemes if a separator keeps it apart from the text after it,
and no colon is left behind. -/
theorem scanFrom_piece
    (dialect : Dialect)
    {previous : Option Char}
    (notAfterColon : previous ≠ some ':')
    {piece : Piece}
    (sound : piece.Sound)
    {rest : List Char}
    (apart :
      ∀ d ∈ rest.head?, piece.endsApart = true ∨ isSeparator d = true) :
    ∃ last, last ≠ some ':' ∧
      scanFrom dialect 0 previous (piece.chars dialect ++ rest) =
        piece.lexemes dialect ++ scanFrom dialect 0 last rest := by
  cases piece with
  | bare text =>
      apply scanFrom_calm_apart dialect notAfterColon sound.2
      intro c last d next
      refine (apart d next).imp_left fun ends => ?_
      have isLast : text.toList.getLast? = some c := last
      simpa [Piece.endsApart, isLast] using ends
  | truth value =>
      apply scanFrom_calm_apart dialect notAfterColon
        (dialect.calm_truthText value)
      intro c last d next
      exact (apart d next).imp_left fun ends => by
        simp [Piece.endsApart] at ends
  | quoted kind content =>
      have markBare :
          isBareChar (dialect.style kind).mark = false ∧
            (dialect.style kind).mark ≠ ':' := by
        cases dialect <;> cases kind <;>
          simp [isBareChar, Dialect.style, Dialect.textStyle,
            Dialect.identifierStyle]
      refine ⟨some (dialect.style kind).mark, by simpa using markBare.2,
        scanFrom_quote dialect previous kind content.toList ?_⟩
      intro next
      rcases apart _ next with ends | starts
      · simp [Piece.endsApart] at ends
      · have bare := (separator_cases starts).1
        simp [markBare.1] at bare
  | placeholder name =>
      refine ⟨name.toList.getLast?.or (some ':'), ?_,
        scanFrom_placeholder dialect notAfterColon sound ?_⟩
      · intro isColon
        rcases Option.or_eq_some_iff.mp isColon with last | ⟨none, _⟩
        · have nameChar := nameChar_of_mem sound (mem_of_getLast? last)
          simp [isNameChar] at nameChar
        · simp [getLast?_eq_none_iff.mp none, Piece.Sound, isName] at sound
      · intro d next
        rcases apart d next with ends | starts
        · simp [Piece.endsApart] at ends
        · exact (separator_cases starts).2.1
  | raw text =>
      apply scanFrom_calm_apart dialect notAfterColon sound.2
      intro c last d next
      exact (apart d next).imp_left fun ends => by
        simp [Piece.endsApart] at ends

/-- The text of tidy pieces is read as the lexemes of the pieces. -/
theorem scanFrom_allChars
    (dialect : Dialect)
    {pieces : List Piece}
    (tidy : Piece.Tidy pieces)
    {previous : Option Char}
    (notAfterColon : previous ≠ some ':') :
    scanFrom dialect 0 previous (Piece.allChars dialect pieces) =
      pieces.flatMap (Piece.lexemes dialect) := by
  induction pieces generalizing previous with
  | nil =>
      rfl
  | cons piece rest inductionHypothesis =>
      obtain ⟨last, notColon, read⟩ :=
        scanFrom_piece dialect notAfterColon (tidy.sound piece (by simp))
          fun d next => separator_at_meeting dialect tidy next
      have restRead := inductionHypothesis tidy.tail notColon
      rw [Piece.allChars, flatMap_cons, flatMap_cons, ← restRead]
      exact read

/-- The lexemes of a statement that was written from tidy pieces are those of the pieces. -/
theorem scan_allChars
    (dialect : Dialect)
    {pieces : List Piece}
    (tidy : Piece.Tidy pieces) :
    scan dialect (Piece.allChars dialect pieces) =
      pieces.flatMap (Piece.lexemes dialect) :=
  scanFrom_allChars dialect tidy (by simp)

end Lexeme

end QueryGateway.Sql
