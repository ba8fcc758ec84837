import QueryGateway.Proofs.Tokens
import QueryGateway.Sql.Pattern

/-!
# Quoted tokens and their patterns

The scan of a statement reads quoted tokens as the pattern of its dialect
matches them, backtracking included (`matched?_quotedTokenPattern`).  A written
token is therefore matched as a whole, whatever its content, by the pattern
that the resolver works with; and the content comes back when the escapes that
the dialect writes are undone.
-/

namespace QueryGateway.Sql

open List

namespace Pattern

/-- A pattern that takes at least one character wherever it matches. -/
def TakesSome (pattern : Pattern) : Prop :=
  ∀ cs, ∀ rest ∈ pattern.rests cs, rest.length < cs.length

/-- Repetitions do not depend on how many are allowed, if there may be one for each character. -/
theorem repetitions_eq
    (step : List Char → List (List Char))
    {most other : Nat}
    {cs : List Char}
    (enough : cs.length ≤ most)
    (otherEnough : cs.length ≤ other) :
    repetitions step most cs = repetitions step other cs := by
  induction most generalizing other cs with
  | zero =>
      obtain rfl := length_eq_zero_iff.mp (Nat.le_zero.mp enough)
      cases other with
      | zero => rfl
      | succ other => simp [repetitions]
  | succ most inductionHypothesis =>
      cases other with
      | zero =>
          obtain rfl := length_eq_zero_iff.mp (Nat.le_zero.mp otherEnough)
          simp [repetitions]
      | succ other =>
          rw [repetitions, repetitions]
          congr 1
          refine flatMap_congr fun rest listed => ?_
          have shorter : rest.length < cs.length := by
            simpa using (mem_filter.mp listed).2
          exact inductionHypothesis (by omega) (by omega)

/-- A repetition takes one part more, or ends. -/
theorem rests_repeated
    {body : Pattern}
    (takes : body.TakesSome)
    (cs : List Char) :
    (repeated body).rests cs =
      (body.rests cs).flatMap (repeated body).rests ++ [cs] := by
  cases cs with
  | nil =>
      have nothing : body.rests [] = [] := by
        refine eq_nil_iff_forall_not_mem.mpr fun rest listed => ?_
        exact absurd (takes [] rest listed) (Nat.not_lt_zero _)
      rw [nothing]
      rfl
  | cons c tail =>
      have all :
          ((body.rests (c :: tail)).filter fun rest =>
            rest.length < (c :: tail).length) = body.rests (c :: tail) :=
        filter_eq_self.mpr fun rest listed => by simpa using takes _ rest listed
      rw [rests, length_cons, repetitions, all]
      congr 1
      refine flatMap_congr fun rest listed => ?_
      have shorter := takes _ rest listed
      rw [length_cons] at shorter
      rw [rests]
      exact repetitions_eq _ (Nat.le_of_lt_succ shorter) (Nat.le_refl _)

/-- Parts up to a mark are one part and further parts up to the mark, or the mark. -/
theorem rests_closed
    {part : Pattern}
    (takes : part.TakesSome)
    (mark : Char)
    (cs : List Char) :
    (closed mark part).rests cs =
      (part.rests cs).flatMap (closed mark part).rests ++ (character mark).rests cs := by
  rw [closed, rests, rests_repeated takes, flatMap_append, flatMap_assoc, flatMap_singleton]
  rfl

end Pattern

namespace QuoteStyle

/-- What one part of a content leaves of a text: a character, an escaped character or a doubled
mark. -/
def partRests (style : QuoteStyle) : List Char → List (List Char)
  | [] => []
  | c :: rest =>
      if c = style.mark then
        match rest with
        | [] => []
        | d :: rest => if style.doubles && d = style.mark then [rest] else []
      else if style.backslash && c = '\\' then
        match rest with
        | [] => []
        | _ :: rest => [rest]
      else
        [rest]

theorem length_of_mem_partRests
    {style : QuoteStyle}
    {cs rest : List Char}
    (listed : rest ∈ style.partRests cs) :
    rest.length < cs.length := by
  cases cs with
  | nil => cases listed
  | cons c more => cases more <;> grind [partRests]

/-- What follows the mark at which a token is left off first, if each step leaves what one part
leaves and the mark ends the token, is what follows the longest rest of the token. -/
theorem head?_of_round
    (style : QuoteStyle)
    {tail : List Char → List (List Char)}
    (round :
      ∀ cs,
        tail cs =
          (style.partRests cs).flatMap tail ++ (Pattern.character style.mark).rests cs)
    (cs : List Char) :
    (tail cs).head? = (style.tailLength? cs).map cs.drop := by
  fun_induction style.tailLength? cs with
  | case1 =>
      rw [round]
      rfl
  | case2 =>
      rw [round]
      simp [partRests, Pattern.rests]
  | case3 d rest doubled length found inductionHypothesis =>
      rw [round, head?_append]
      simp [partRests, Pattern.rests, doubled, inductionHypothesis, found]
  | case4 d rest doubled unclosed inductionHypothesis =>
      rw [round, head?_append]
      simp [partRests, Pattern.rests, doubled, inductionHypothesis, unclosed]
  | case5 d rest single =>
      rw [round]
      simp [partRests, Pattern.rests, single]
  | case6 c notMark escape =>
      rw [round]
      simp [partRests, Pattern.rests, notMark, escape]
  | case7 c notMark escape d rest inductionHypothesis =>
      rw [round]
      simp only [Bool.and_eq_true, decide_eq_true_eq] at escape
      obtain ⟨backslash, rfl⟩ := escape
      simp [partRests, Pattern.rests, notMark, backslash, inductionHypothesis, Function.comp_def]
  | case8 c rest notMark plain inductionHypothesis =>
      rw [round]
      simp only [Bool.and_eq_true, decide_eq_true_eq] at plain
      simp [partRests, Pattern.rests, notMark, plain, inductionHypothesis, Function.comp_def]

/-- A pattern whose parts are those of a style matches the longest token of the style. -/
theorem head?_rests_enclosed
    {style : QuoteStyle}
    {part : Pattern}
    (reads : ∀ cs, part.rests cs = style.partRests cs)
    (cs : List Char) :
    ((Pattern.enclosed style.mark part).rests cs).head? =
      (style.tokenLength? cs).map cs.drop := by
  have takes : part.TakesSome := fun cs rest listed =>
    length_of_mem_partRests (reads cs ▸ listed)
  have tail :=
    head?_of_round style fun cs =>
      reads cs ▸ Pattern.rests_closed takes style.mark cs
  cases cs with
  | nil =>
      rfl
  | cons c rest =>
      by_cases isMark : c = style.mark
      · simp [Pattern.enclosed, Pattern.rests, tokenLength?, isMark, tail, Function.comp_def]
      · simp [Pattern.enclosed, Pattern.rests, tokenLength?, isMark]

/-- The parts of a content in which a mark is doubled and nothing is escaped. -/
theorem rests_doubling
    (style : QuoteStyle)
    (doubles : style.doubles = true)
    (noBackslash : style.backslash = false)
    (cs : List Char) :
    (Pattern.either (.noneOf [style.mark]) (.doubled style.mark)).rests cs =
      style.partRests cs := by
  rcases cs with _ | ⟨c, rest⟩
  · rfl
  · by_cases isMark : c = style.mark
    · cases rest <;> simp [Pattern.rests, Pattern.doubled, partRests, isMark, doubles]
    · simp [Pattern.rests, Pattern.doubled, partRests, isMark, noBackslash]

/-- The parts of a content in which characters are escaped and no mark is doubled. -/
theorem rests_escaping
    (style : QuoteStyle)
    (noDoubles : style.doubles = false)
    (backslash : style.backslash = true)
    (markNotBackslash : style.mark ≠ '\\')
    (cs : List Char) :
    (Pattern.either (.noneOf [style.mark, '\\']) .escaped).rests cs = style.partRests cs := by
  rcases cs with _ | ⟨c, rest⟩
  · rfl
  · by_cases isMark : c = style.mark
    · cases rest <;>
        simp [Pattern.rests, Pattern.escaped, partRests, isMark, noDoubles, markNotBackslash]
    · by_cases escapes : c = '\\'
      · cases rest <;>
          simp [Pattern.rests, Pattern.escaped, partRests, escapes, backslash,
            markNotBackslash.symm]
      · simp [Pattern.rests, Pattern.escaped, partRests, isMark, escapes]

/-- The parts of a content in which characters are escaped and marks are doubled. -/
theorem rests_escaping_doubling
    (style : QuoteStyle)
    (doubles : style.doubles = true)
    (backslash : style.backslash = true)
    (markNotBackslash : style.mark ≠ '\\')
    (cs : List Char) :
    (Pattern.either (.noneOf [style.mark, '\\'])
        (.either .escaped (.doubled style.mark))).rests cs =
      style.partRests cs := by
  rcases cs with _ | ⟨c, rest⟩
  · rfl
  · by_cases isMark : c = style.mark
    · cases rest <;>
        simp [Pattern.rests, Pattern.escaped, Pattern.doubled, partRests, isMark, doubles,
          markNotBackslash]
    · by_cases escapes : c = '\\'
      · cases rest <;>
          simp [Pattern.rests, Pattern.escaped, Pattern.doubled, partRests, escapes, backslash,
            markNotBackslash.symm]
      · simp [Pattern.rests, Pattern.escaped, Pattern.doubled, partRests, isMark, escapes]

end QuoteStyle

namespace Dialect

/-- The marks of the styles of a dialect differ, so a token is read in the first style in which
there is one. -/
theorem quotedLength?_eq_findSome?
    (dialect : Dialect)
    (cs : List Char) :
    Lexeme.quotedLength? dialect cs =
      dialect.styles.findSome? fun style => style.tokenLength? cs := by
  cases cs with
  | nil =>
      cases dialect <;> rfl
  | cons c rest =>
      have differ : dialect.styles.Pairwise fun style other => style.mark ≠ other.mark := by
        cases dialect <;> simp [styles, textStyle, identifierStyle]
      rw [Lexeme.quotedLength?, styleOf?]
      generalize dialect.styles = styles at differ
      induction styles with
      | nil =>
          rfl
      | cons style styles inductionHypothesis =>
          obtain ⟨unlike, differ⟩ := pairwise_cons.mp differ
          by_cases isMark : style.mark = c
          · have others :
                (styles.findSome? fun style => style.tokenLength? (c :: rest)) = none := by
              refine findSome?_eq_none_iff.mpr fun other listed => ?_
              have notMark : c ≠ other.mark := isMark ▸ unlike other listed
              simp [QuoteStyle.tokenLength?, notMark]
            rw [find?_cons_of_pos (by simpa using isMark), findSome?_cons, others]
            cases found : style.tokenLength? (c :: rest) <;> simp [found]
          · have unread : style.tokenLength? (c :: rest) = none := by
              simp [QuoteStyle.tokenLength?, Ne.symm isMark]
            rw [find?_cons_of_neg (by simpa using isMark), findSome?_cons, unread,
              inductionHypothesis differ]

/-- What the pattern of a dialect leaves is what the scan leaves behind a quoted token. -/
theorem head?_rests_quotedTokenPattern
    (dialect : Dialect)
    (cs : List Char) :
    (dialect.quotedTokenPattern.rests cs).head? =
      (Lexeme.quotedLength? dialect cs).map cs.drop := by
  have either
      {first second : Pattern}
      {length : Option Nat}
      {further : Option Nat}
      (isFirst : (first.rests cs).head? = length.map cs.drop)
      (isSecond : (second.rests cs).head? = further.map cs.drop) :
      ((Pattern.either first second).rests cs).head? = (length.or further).map cs.drop := by
    rw [Pattern.rests, head?_append, isFirst, isSecond]
    cases length <;> rfl
  have first
      (style : QuoteStyle)
      (styles : List QuoteStyle) :
      (style :: styles).findSome? (fun style => style.tokenLength? cs) =
        (style.tokenLength? cs).or (styles.findSome? fun style => style.tokenLength? cs) := by
    rw [findSome?_cons]
    cases style.tokenLength? cs <;> rfl
  rw [quotedLength?_eq_findSome?]
  cases dialect with
  | postgres =>
      rw [styles, first, first, findSome?_nil, Option.or_none]
      exact either
        (QuoteStyle.head?_rests_enclosed ((textStyle .postgres).rests_doubling rfl rfl) cs)
        (QuoteStyle.head?_rests_enclosed ((identifierStyle .postgres).rests_doubling rfl rfl) cs)
  | clickHouse fullJoin =>
      rw [styles, first, first, first, findSome?_nil, Option.or_none]
      have known := (clickHouse fullJoin).style_readsOwnEscapes
      have text :=
        (textStyle (.clickHouse fullJoin)).rests_escaping_doubling rfl rfl
          (known .text).markNotBackslash
      have name :=
        (identifierStyle (.clickHouse fullJoin)).rests_escaping rfl rfl
          (known .identifier).markNotBackslash
      have foreignName :=
        QuoteStyle.rests_escaping
          { kind := .identifier, mark := '"', doubles := false, backslash := true } rfl rfl
          (by decide)
      exact either (QuoteStyle.head?_rests_enclosed text cs)
        (either (QuoteStyle.head?_rests_enclosed name cs)
          (QuoteStyle.head?_rests_enclosed foreignName cs))

/-- The pattern of a dialect matches the quoted token that the scan reads. -/
theorem matched?_quotedTokenPattern
    (dialect : Dialect)
    (cs : List Char) :
    dialect.quotedTokenPattern.matched? cs =
      (Lexeme.quotedLength? dialect cs).map cs.take := by
  rw [Pattern.matched?, head?_rests_quotedTokenPattern, Option.map_map]
  congr 1
  funext length
  simp only [Function.comp_apply, length_drop, take_eq_take_iff]
  omega

end Dialect

/-! ## Written tokens -/

/-- A text with other characters in the place of one. -/
def exchanged (c : Char) (others text : List Char) : List Char :=
  text.flatMap fun d => if d = c then others else [d]

/-- A text in which each doubled mark stands once. -/
def collapseDoubled (mark : Char) : List Char → List Char
  | [] => []
  | [c] => [c]
  | c :: d :: rest =>
      if c = mark ∧ d = mark then
        c :: collapseDoubled mark rest
      else
        c :: collapseDoubled mark (d :: rest)

/-- A text in which each backslash is dropped before the character that it escapes. -/
def dropBackslashes : List Char → List Char
  | [] => []
  | [c] => [c]
  | c :: d :: rest =>
      if c = '\\' then d :: dropBackslashes rest else c :: dropBackslashes (d :: rest)

namespace Dialect

/-- A content as a dialect writes it between two marks.  ClickHouse escapes backslashes first, so
those before the marks stay as they are. -/
def escapes (dialect : Dialect) (kind : QuoteKind) (content : List Char) : List Char :=
  let mark := (dialect.style kind).mark
  match dialect with
  | .postgres => exchanged mark [mark, mark] content
  | .clickHouse _ => exchanged mark ['\\', mark] (exchanged '\\' ['\\', '\\'] content)

/-- The content that a dialect has written between two marks. -/
def undoEscapes (dialect : Dialect) (kind : QuoteKind) (interior : List Char) : List Char :=
  match dialect with
  | .postgres => collapseDoubled (dialect.style kind).mark interior
  | .clickHouse _ => dropBackslashes interior

end Dialect

theorem collapseDoubled_eq_unescape
    (style : QuoteStyle)
    (doubles : style.doubles = true)
    (noBackslash : style.backslash = false)
    (cs : List Char) :
    collapseDoubled style.mark cs = style.unescape cs := by
  fun_induction collapseDoubled style.mark cs with
  | case1 | case2 => rfl
  | case3 | case4 => simp_all [QuoteStyle.unescape]

theorem dropBackslashes_eq_unescape
    (style : QuoteStyle)
    (noDoubles : style.doubles = false)
    (backslash : style.backslash = true)
    (cs : List Char) :
    dropBackslashes cs = style.unescape cs := by
  fun_induction dropBackslashes cs with
  | case1 | case2 => rfl
  | case3 | case4 => simp_all [QuoteStyle.unescape]

namespace Dialect

/-- Escaping a content character by character is what the exchanges do one after the other. -/
theorem escape_eq_escapes
    (dialect : Dialect)
    (kind : QuoteKind)
    (content : List Char) :
    (dialect.style kind).escape content = dialect.escapes kind content := by
  cases dialect with
  | postgres =>
      have noBackslash : (postgres.style kind).backslash = false := by cases kind <;> rfl
      refine flatMap_congr fun c _ => ?_
      rw [QuoteStyle.escapeChar, noBackslash, if_neg Bool.false_ne_true]
      by_cases isMark : c = (postgres.style kind).mark <;> simp [isMark]
  | clickHouse fullJoin =>
      have notBackslash := ((clickHouse fullJoin).style_readsOwnEscapes kind).markNotBackslash
      have backslash : ((clickHouse fullJoin).style kind).backslash = true := by
        cases kind <;> rfl
      rw [escapes, exchanged, exchanged, flatMap_assoc]
      refine flatMap_congr fun c _ => ?_
      rw [QuoteStyle.escapeChar, backslash, if_pos rfl]
      by_cases isBackslash : c = '\\'
      · simp [isBackslash, notBackslash.symm]
      · by_cases isMark : c = ((clickHouse fullJoin).style kind).mark <;>
          simp [isBackslash, isMark, notBackslash]

/-- Between its marks, a written token holds its content with the escapes of the dialect. -/
theorem undoEscapes_escapes
    (dialect : Dialect)
    (kind : QuoteKind)
    (content : List Char) :
    dialect.undoEscapes kind (dialect.escapes kind content) = content := by
  rw [← escape_eq_escapes]
  cases dialect with
  | postgres =>
      rw [undoEscapes,
        collapseDoubled_eq_unescape _ (by cases kind <;> rfl) (by cases kind <;> rfl)]
      exact QuoteStyle.unescape_escape (postgres.style_readsOwnEscapes kind) content
  | clickHouse fullJoin =>
      -- What is written depends on whether backslashes escape, not on whether marks are doubled.
      let style := { (clickHouse fullJoin).style kind with doubles := false }
      have backslash : style.backslash = true := by cases kind <;> rfl
      have readable : style.ReadsOwnEscapes :=
        ⟨((clickHouse fullJoin).style_readsOwnEscapes kind).markNotBackslash, .inl backslash⟩
      rw [undoEscapes, dropBackslashes_eq_unescape style rfl backslash]
      exact QuoteStyle.unescape_escape readable content

end Dialect

/-- A written token is what the pattern of its dialect matches at the front of a text, if its mark
does not come next; its content is read back, so no two contents are written alike. -/
theorem matched?_quote
    (dialect : Dialect)
    (kind : QuoteKind)
    (content : String)
    (rest : List Char)
    (separated : rest.head? ≠ some (dialect.style kind).mark) :
    let mark := (dialect.style kind).mark
    let token (content : String) := (Piece.quoted kind content).chars dialect
    token content = mark :: dialect.escapes kind content.toList ++ [mark] ∧
      dialect.quotedTokenPattern.matched? (token content ++ rest) = some (token content) ∧
      dialect.undoEscapes kind ((token content).drop 1).dropLast = content.toList ∧
      ∀ other, token other = token content → other = content := by
  intro mark token
  have written (content : String) :
      token content = mark :: dialect.escapes kind content.toList ++ [mark] := by
    rw [← dialect.escape_eq_escapes]
    rfl
  have undone (content : String) :
      dialect.undoEscapes kind ((token content).drop 1).dropLast = content.toList := by
    have interior : ((token content).drop 1).dropLast = dialect.escapes kind content.toList := by
      rw [written]
      exact dropLast_concat
    rw [interior, dialect.undoEscapes_escapes]
  refine ⟨written content, ?_, undone content, fun other same => ?_⟩
  · have whole := Lexeme.quotedLength?_quote dialect kind content.toList separated
    rw [dialect.matched?_quotedTokenPattern]
    refine (congrArg (Option.map _) whole).trans ?_
    exact congrArg some take_left
  · exact String.toList_injective ((undone other).symm.trans (same ▸ undone content))

/-- A text that ends with a backslash closes its own token. -/
theorem matched?_quote_backslash :
    let dialect : Dialect := .clickHouse true
    let token := (Piece.text "it's\\").chars dialect
    let rest := [' ', '=']
    rest.head? ≠ some (dialect.style .text).mark ∧
      token = ['\'', 'i', 't', '\\', '\'', 's', '\\', '\\', '\''] ∧
      dialect.quotedTokenPattern.matched? (token ++ rest) = some token :=
  ⟨by decide, by decide +kernel, (matched?_quote _ _ _ _ (by decide)).2.1⟩

end QueryGateway.Sql
