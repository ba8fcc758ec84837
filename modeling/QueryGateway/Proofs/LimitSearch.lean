import QueryGateway.Proofs.Tokens
import QueryGateway.Sql.RowCap

/-!
# Where a limit is found

The search for a limit reads characters and knows nothing of tokens.  Still it
never takes a limit from two parts of a statement: a limit holds neither a mark
nor a backslash, and its keyword holds no separator.  So a quoted token holds a
limit exactly if its content does, and bare text holds one only if it spells the
keyword.
-/

namespace QueryGateway.Sql

open List

/-- The keyword of a limit. -/
def limitKeyword : List Char := "LIMIT".toList

/-! ## The keyword across a seam -/

/-- Whether a character is a form of one of the letters of the keyword. -/
def isKeywordLetter (c : Char) : Bool :=
  limitKeyword.any (isLetterForm · c)

/-- Whether a text spells the keyword of a limit somewhere. -/
def spellsLimit : List Char → Bool
  | [] => false
  | c :: rest => (afterKeyword? limitKeyword (c :: rest)).isSome || spellsLimit rest

/-- A separator is no letter of the keyword. -/
theorem keywordLetter_separator
    {c : Char}
    (separator : isSeparator c = true) :
    isKeywordLetter c = false := by
  simp only [isSeparator, Bool.or_eq_true, decide_eq_true_eq] at separator
  rcases separator with ((((rfl | rfl) | rfl) | rfl) | rfl) | rfl <;> decide

/-- A keyword that goes on over a seam has letters on both sides of it. -/
theorem afterKeyword?_append_seam
    {letters front back : List Char}
    (areLetters : ∀ letter ∈ letters, ∀ c, isLetterForm letter c = true →
      isKeywordLetter c = true)
    (nonempty : front ≠ [])
    (seam :
      ∀ c ∈ front.getLast?, ∀ d ∈ back.head?,
        isKeywordLetter c = false ∨ isKeywordLetter d = false)
    (notFound : afterKeyword? letters front = none) :
    afterKeyword? letters (front ++ back) = none := by
  induction letters generalizing front with
  | nil =>
      cases notFound
  | cons letter letters inductionHypothesis =>
      obtain ⟨c, front, rfl⟩ := exists_cons_of_ne_nil nonempty
      rw [afterKeyword?] at notFound
      rw [cons_append, afterKeyword?]
      split
      · rename_i isForm
        rw [if_pos isForm] at notFound
        have restLetters := fun other member =>
          areLetters other (mem_cons_of_mem letter member)
        cases front with
        | cons d front =>
            exact inductionHypothesis restLetters (cons_ne_nil d front)
              (by rwa [getLast?_cons_cons] at seam) notFound
        | nil =>
            -- The front ends within the keyword, so the back has to go on with a letter.
            have isLetter := areLetters letter mem_cons_self c isForm
            cases letters with
            | nil =>
                cases notFound
            | cons next letters =>
                cases back with
                | nil =>
                    rfl
                | cons d back =>
                    have noLetter : isKeywordLetter d = false := by
                      simpa [isLetter] using seam c rfl d rfl
                    rw [nil_append, afterKeyword?]
                    split
                    · rename_i isForm'
                      have isLetter' :=
                        areLetters next (by simp) d isForm'
                      rw [noLetter] at isLetter'
                      cases isLetter'
                    · rfl
      · rfl

theorem isKeywordLetter_of_form
    {letter : Char}
    (member : letter ∈ limitKeyword)
    {c : Char}
    (isForm : isLetterForm letter c = true) :
    isKeywordLetter c = true :=
  any_eq_true.mpr ⟨letter, member, isForm⟩

/-- No limit starts where the keyword does not stand. -/
theorem startsWithLimit_of_noKeyword
    {cs : List Char}
    (notFound : afterKeyword? limitKeyword cs = none) :
    startsWithLimit cs = false := by
  rw [limitKeyword] at notFound
  rw [startsWithLimit, notFound]

/-- Text that does not spell the keyword takes no part in a limit, unless the keyword goes on
behind it. -/
theorem holdsLimitAfter_append_spelled
    {front back : List Char}
    (previous : Option Char)
    (unspelled : spellsLimit front = false)
    (seam :
      ∀ c ∈ front.getLast?, ∀ d ∈ back.head?,
        isKeywordLetter c = false ∨ isKeywordLetter d = false) :
    holdsLimitAfter previous (front ++ back) =
      holdsLimitAfter (front.getLast?.or previous) back := by
  induction front generalizing previous with
  | nil =>
      simp
  | cons c front inductionHypothesis =>
      rw [spellsLimit, Bool.or_eq_false_iff] at unspelled
      have notHere : afterKeyword? limitKeyword (c :: front) = none := by
        simpa using unspelled.1
      have noLimit :
          startsWithLimit (c :: front ++ back) = false :=
        startsWithLimit_of_noKeyword
          (afterKeyword?_append_seam (fun _ member _ => isKeywordLetter_of_form member)
            (cons_ne_nil c front) seam notHere)
      have restSeam :
          ∀ c ∈ front.getLast?, ∀ d ∈ back.head?,
            isKeywordLetter c = false ∨ isKeywordLetter d = false := by
        intro d isLast
        apply seam d
        cases front with
        | nil => cases isLast
        | cons => rwa [getLast?_cons_cons]
      rw [cons_append] at noLimit ⊢
      rw [holdsLimitAfter, noLimit, Bool.and_false, Bool.false_or,
        getLast?_or_cons]
      exact inductionHypothesis (some c) unspelled.2 restSeam

/-! ## Characters that stop a limit -/

/-- Whether a character stands in no limit: it is no letter of the keyword, no blank and no
digit. -/
def isStop (c : Char) : Bool :=
  !isKeywordLetter c && !Text.isBlank c && !Text.isDecimalDigit c

/-- Whether a digit comes after the blanks at the front of a text. -/
def digitAfterBlanks (cs : List Char) : Bool :=
  ((cs.dropWhile Text.isBlank).head?.map Text.isDecimalDigit).getD false

theorem digitAfterBlanks_cons
    (c : Char)
    (rest : List Char) :
    digitAfterBlanks (c :: rest) =
      if Text.isBlank c then digitAfterBlanks rest else Text.isDecimalDigit c := by
  unfold digitAfterBlanks
  rw [dropWhile_cons]
  cases Text.isBlank c <;> rfl

/-- Whether a text starts with a blank and goes on with a digit after the blanks. -/
def startsWithNumber (cs : List Char) : Bool :=
  cs.head?.any Text.isBlank && digitAfterBlanks cs

theorem startsWithLimit_eq
    (cs : List Char) :
    startsWithLimit cs = (afterKeyword? limitKeyword cs).any startsWithNumber := by
  rw [startsWithLimit, limitKeyword]
  cases afterKeyword? "LIMIT".toList cs with
  | none =>
      rfl
  | some rest =>
      cases rest <;> rfl

section

variable {stop : Char}

theorem isStop_cases
    (isStop : isStop stop = true) :
    isKeywordLetter stop = false ∧ Text.isBlank stop = false ∧
      Text.isDecimalDigit stop = false := by
  simpa [Sql.isStop, and_assoc] using isStop

theorem notForm_of_notLetter
    {letter c : Char}
    (member : letter ∈ limitKeyword)
    (noLetter : isKeywordLetter c = false) :
    isLetterForm letter c = false := by
  by_contra isForm
  rw [Bool.not_eq_false] at isForm
  rw [isKeywordLetter_of_form member isForm] at noLetter
  cases noLetter

theorem afterKeyword?_append_stop
    (noLetter : isKeywordLetter stop = false)
    {letters : List Char}
    (areLetters : letters ⊆ limitKeyword)
    (front back : List Char) :
    afterKeyword? letters (front ++ stop :: back) =
      (afterKeyword? letters front).map (· ++ stop :: back) := by
  induction letters generalizing front with
  | nil =>
      rfl
  | cons letter letters inductionHypothesis =>
      have member : letter ∈ limitKeyword := areLetters mem_cons_self
      cases front with
      | nil =>
          simp [afterKeyword?, notForm_of_notLetter member noLetter]
      | cons c front =>
          rw [cons_append, afterKeyword?, afterKeyword?,
            inductionHypothesis (cons_subset.mp areLetters).2]
          split <;> rfl

theorem startsWithNumber_append_stop
    (isStop : isStop stop = true)
    (front back : List Char) :
    startsWithNumber (front ++ stop :: back) = startsWithNumber front := by
  obtain ⟨_, noBlank, noDigit⟩ := isStop_cases isStop
  have digit :
      digitAfterBlanks (front ++ stop :: back) = digitAfterBlanks front := by
    induction front with
    | nil =>
        rw [nil_append, digitAfterBlanks_cons, noBlank]
        simpa [digitAfterBlanks] using noDigit
    | cons c front inductionHypothesis =>
        rw [cons_append, digitAfterBlanks_cons, digitAfterBlanks_cons,
          inductionHypothesis]
  unfold startsWithNumber
  rw [digit]
  cases front <;> simp [noBlank]

/-- A limit is found on one side of a character that stops it. -/
theorem holdsLimitAfter_append_stop
    (isStop : isStop stop = true)
    (previous : Option Char)
    (front back : List Char) :
    holdsLimitAfter previous (front ++ stop :: back) =
      (holdsLimitAfter previous front || holdsLimitAfter (some stop) back) := by
  have noLetter := (isStop_cases isStop).1
  have starts
      (front : List Char) :
      startsWithLimit (front ++ stop :: back) = startsWithLimit front := by
    rw [startsWithLimit_eq, startsWithLimit_eq,
      afterKeyword?_append_stop noLetter (fun _ member => member)]
    cases afterKeyword? limitKeyword front with
    | none =>
        rfl
    | some rest =>
        exact startsWithNumber_append_stop isStop rest back
  induction front generalizing previous with
  | nil =>
      have noLimit := starts []
      rw [nil_append] at noLimit
      have nothing : startsWithLimit [] = false := rfl
      rw [nil_append, holdsLimitAfter, holdsLimitAfter, noLimit, nothing,
        Bool.and_false]
  | cons c front inductionHypothesis =>
      have sameStart := starts (c :: front)
      rw [cons_append] at sameStart
      rw [cons_append, holdsLimitAfter, holdsLimitAfter, sameStart,
        inductionHypothesis, Bool.or_assoc]

end

/-- Only whether the character before a text is a part of a word counts. -/
theorem holdsLimitAfter_congr
    {previous previous' : Option Char}
    (same :
      (previous.map Text.isWord).getD false =
        (previous'.map Text.isWord).getD false)
    (cs : List Char) :
    holdsLimitAfter previous cs = holdsLimitAfter previous' cs := by
  cases cs with
  | nil =>
      rfl
  | cons c rest =>
      rw [holdsLimitAfter, holdsLimitAfter, same]

/-! ## Limits in quoted tokens -/

namespace QuoteStyle

variable {style : QuoteStyle}

/-- An escaped character stands behind one that stops a limit, and it stops one itself; any other
one stands for itself. -/
theorem escapeChar_cases
    (markStops : isStop style.mark = true)
    (c : Char) :
    style.escapeChar c = [c] ∨
      isStop c = true ∧ ∃ d, style.escapeChar c = [d, c] ∧ isStop d = true := by
  have backslashStops : isStop '\\' = true := by decide
  unfold escapeChar
  split
  · split
    · rename_i special
      simp only [Bool.or_eq_true, decide_eq_true_eq] at special
      rcases special with rfl | rfl
      · exact Or.inr ⟨backslashStops, _, rfl, backslashStops⟩
      · exact Or.inr ⟨markStops, _, rfl, backslashStops⟩
    · exact Or.inl rfl
  · split
    · rename_i isMark
      subst isMark
      exact Or.inr ⟨markStops, _, rfl, markStops⟩
    · exact Or.inl rfl

theorem escape_cons
    (c : Char)
    (content : List Char) :
    style.escape (c :: content) = style.escapeChar c ++ style.escape content :=
  rfl

theorem afterKeyword?_escape
    (markStops : isStop style.mark = true)
    {letters : List Char}
    (areLetters : letters ⊆ limitKeyword)
    (content : List Char) :
    afterKeyword? letters (style.escape content) =
      (afterKeyword? letters content).map style.escape := by
  induction letters generalizing content with
  | nil =>
      rfl
  | cons letter letters inductionHypothesis =>
      have member : letter ∈ limitKeyword := areLetters mem_cons_self
      cases content with
      | nil =>
          rfl
      | cons c content =>
          rw [escape_cons]
          rcases escapeChar_cases markStops c with
            written | ⟨stops, d, written, stops'⟩
          · rw [written, singleton_append, afterKeyword?, afterKeyword?,
              inductionHypothesis (cons_subset.mp areLetters).2]
            split <;> rfl
          · have notForm := notForm_of_notLetter member (isStop_cases stops).1
            have notForm' := notForm_of_notLetter member (isStop_cases stops').1
            simp [written, afterKeyword?, notForm, notForm']

theorem digitAfterBlanks_escape
    (markStops : isStop style.mark = true)
    (content : List Char) :
    digitAfterBlanks (style.escape content) = digitAfterBlanks content := by
  induction content with
  | nil =>
      rfl
  | cons c content inductionHypothesis =>
      rw [escape_cons]
      rcases escapeChar_cases markStops c with
        written | ⟨stops, d, written, stops'⟩
      · rw [written, singleton_append, digitAfterBlanks_cons,
          digitAfterBlanks_cons, inductionHypothesis]
      · obtain ⟨_, noBlank, noDigit⟩ := isStop_cases stops
        obtain ⟨_, noBlank', noDigit'⟩ := isStop_cases stops'
        simp [written, digitAfterBlanks_cons, noBlank, noDigit, noBlank', noDigit']

theorem startsWithLimit_escape
    (markStops : isStop style.mark = true)
    (content : List Char) :
    startsWithLimit (style.escape content) = startsWithLimit content := by
  have number
      (content : List Char) :
      startsWithNumber (style.escape content) = startsWithNumber content := by
    unfold startsWithNumber
    rw [digitAfterBlanks_escape markStops]
    cases content with
    | nil =>
        rfl
    | cons c content =>
        rw [escape_cons]
        rcases escapeChar_cases markStops c with
          written | ⟨stops, d, written, stops'⟩
        · rw [written]
          rfl
        · simp [written, (isStop_cases stops).2.1, (isStop_cases stops').2.1]
  rw [startsWithLimit_eq, startsWithLimit_eq,
    afterKeyword?_escape markStops (fun _ member => member)]
  cases afterKeyword? limitKeyword content with
  | none =>
      rfl
  | some rest =>
      exact number rest

/-- Escapes neither hide a limit nor make one. -/
theorem holdsLimitAfter_escape
    (markStops : isStop style.mark = true)
    (previous : Option Char)
    (content : List Char) :
    holdsLimitAfter previous (style.escape content) =
      holdsLimitAfter previous content := by
  induction content generalizing previous with
  | nil =>
      rfl
  | cons c content inductionHypothesis =>
      have sameStart := startsWithLimit_escape markStops (c :: content)
      rw [escape_cons] at sameStart ⊢
      rcases escapeChar_cases markStops c with
        written | ⟨stops, d, written, stops'⟩
      · rw [written, singleton_append] at sameStart ⊢
        rw [holdsLimitAfter, holdsLimitAfter, sameStart, inductionHypothesis]
      · have front :=
          holdsLimitAfter_append_stop stops' previous [] (c :: style.escape content)
        have back :=
          holdsLimitAfter_append_stop stops (some d) [] (style.escape content)
        have plain := holdsLimitAfter_append_stop stops previous [] content
        simp only [nil_append, holdsLimitAfter.eq_1, Bool.false_or]
          at front back plain
        rw [written, cons_append, singleton_append, front, back, plain,
          inductionHypothesis]

end QuoteStyle

/-! ## Limits in pieces -/

/-- Whether a token is a quoted one that holds a limit. -/
def Token.quotesLimit : Token → Bool
  | .quoted _ content => holdsLimit content
  | _ => false

namespace Piece

/-- The piece itself, if it is bare text that spells the keyword of a limit. -/
def spelled? : Piece → Option Piece
  | .bare text => if spellsLimit text.toList then some (.bare text) else none
  | .raw text => if spellsLimit text.toList then some (.raw text) else none
  | .truth _ | .quoted _ _ | .placeholder _ => none

/-- Whether a piece is a quoted token that holds a limit. -/
def quotesLimit : Piece → Bool
  | .quoted _ content => holdsLimit content.toList
  | _ => false

theorem spelled?_bare
    {text : String}
    (unspelled : spellsLimit text.toList = false) :
    (Piece.bare text).spelled? = none := by
  simp [spelled?, unspelled]

/-- The quoted tokens of written pieces that hold a limit are those of the pieces. -/
theorem any_tokens_quotesLimit
    (dialect : Dialect)
    (pieces : List Piece) :
    (allTokens dialect pieces).any Token.quotesLimit = pieces.any quotesLimit := by
  have noToken
      (text : String) :
      (word text).any Token.quotesLimit = false := by
    simp [word, Token.quotesLimit]
  have onePiece
      (piece : Piece) :
      (piece.tokens dialect).any Token.quotesLimit = piece.quotesLimit := by
    cases piece with
    | bare text => exact noToken text
    | truth value => exact noToken _
    | raw text => exact noToken text
    | quoted kind content => exact Bool.or_false _
    | placeholder name => rfl
  rw [allTokens, any_flatMap]
  congr 1
  funext piece
  exact onePiece piece

end Piece

/-- The text of a truth value does not spell the keyword. -/
theorem Dialect.truthText_unspelled
    (dialect : Dialect)
    (value : Bool) :
    spellsLimit (dialect.truthText value).toList = false := by
  rcases dialect with _ | (_ | _) <;> cases value <;> rfl

/-- The marks of a dialect stop a limit and are no part of a word. -/
theorem Dialect.isStop_mark
    (dialect : Dialect)
    (kind : QuoteKind) :
    isStop (dialect.style kind).mark = true ∧
      Text.isWord (dialect.style kind).mark = false := by
  rcases dialect with _ | (_ | _) <;> cases kind <;> decide

/-- A quoted token holds a limit exactly if its content does, and none starts in it and goes on
behind it. -/
theorem holdsLimitAfter_quote
    (dialect : Dialect)
    (kind : QuoteKind)
    (content back : List Char)
    (previous : Option Char) :
    holdsLimitAfter previous ((dialect.style kind).quote content ++ back) =
      (holdsLimit content ||
        holdsLimitAfter (some (dialect.style kind).mark) back) := by
  obtain ⟨stops, noWord⟩ := dialect.isStop_mark kind
  have asBefore :
      holdsLimitAfter (some (dialect.style kind).mark) content =
        holdsLimit content :=
    holdsLimitAfter_congr (by simp [noWord]) content
  have opened :=
    holdsLimitAfter_append_stop stops previous []
      ((dialect.style kind).escape content ++ (dialect.style kind).mark :: back)
  rw [QuoteStyle.quote_eq_cons, cons_append, append_assoc, singleton_append]
  rw [nil_append, holdsLimitAfter.eq_1, Bool.false_or] at opened
  rw [opened, holdsLimitAfter_append_stop stops,
    QuoteStyle.holdsLimitAfter_escape stops, asBefore]

/-- In tidy pieces without placeholders, of which none spells the keyword, a limit is found exactly
if a quoted token holds one. -/
theorem holdsLimitAfter_allChars
    (dialect : Dialect)
    {pieces : List Piece}
    (tidy : Piece.Tidy pieces)
    (nameless : ∀ piece ∈ pieces, piece.name? = none)
    (unspelled : ∀ piece ∈ pieces, piece.spelled? = none)
    (previous : Option Char) :
    holdsLimitAfter previous (Piece.allChars dialect pieces) =
      pieces.any Piece.quotesLimit := by
  induction pieces generalizing previous with
  | nil =>
      rfl
  | cons piece rest inductionHypothesis =>
      have restHolds :=
        inductionHypothesis tidy.tail
          (fun other member => nameless other (mem_cons_of_mem piece member))
          (fun other member => unspelled other (mem_cons_of_mem piece member))
      have notSpelled := unspelled piece mem_cons_self
      have ofText
          {cs : List Char}
          (unspelledText : spellsLimit cs = false)
          (ends : piece.endsApart = true → cs.getLast?.any isSeparator = true) :
          holdsLimitAfter previous (cs ++ Piece.allChars dialect rest) =
            rest.any Piece.quotesLimit := by
        rw [holdsLimitAfter_append_spelled previous unspelledText, restHolds]
        intro c last d next
        rcases Lexeme.separator_at_meeting dialect tidy next with apart | starts
        · have separator : isSeparator c = true := by
            simpa [Option.mem_def.mp last] using ends apart
          exact Or.inl (keywordLetter_separator separator)
        · exact Or.inr (keywordLetter_separator starts)
      rw [Piece.allChars, flatMap_cons, any_cons, ← Piece.allChars]
      cases piece with
      | quoted kind content =>
          rw [Piece.chars, holdsLimitAfter_quote, restHolds]
          rfl
      | placeholder name =>
          cases nameless _ mem_cons_self
      | bare text =>
          have unspelledText : spellsLimit text.toList = false := by
            simpa [Piece.spelled?] using notSpelled
          exact ofText unspelledText id
      | raw text =>
          have unspelledText : spellsLimit text.toList = false := by
            simpa [Piece.spelled?] using notSpelled
          exact ofText unspelledText (by simp [Piece.endsApart])
      | truth value =>
          exact ofText (dialect.truthText_unspelled value)
            (by simp [Piece.endsApart])

end QueryGateway.Sql
