import QueryGateway.Proofs.Comments
import QueryGateway.Proofs.TidyPieces
import QueryGateway.Session.Gateway

/-!
# What the read-only guard lets through

A text may hold several statements with semicolons between them.  The guard
reads the first keyword of a text, and that is the first keyword of its first
statement; so a text is let through exactly if its first statement is a reading
one, whatever the other statements are.
-/

namespace QueryGateway.Sql

open List

/-! ## Statements of a text -/

/-- The statements of a text: what stands between the semicolons outside quoted tokens and
comments. -/
def statements (dialect : Dialect) (text : String) : List (List Char) :=
  ((Lexeme.scan dialect text.toList).splitOn (.character ';')).map Lexeme.concat

/-- A statement that starts with a reading keyword. -/
def IsReading (statement : List Char) : Prop :=
  leadingKeyword statement ∈ readingKeywords

instance (statement : List Char) : Decidable (IsReading statement) :=
  inferInstanceAs (Decidable (leadingKeyword statement ∈ readingKeywords))

/-- A text of which each statement is a reading one or holds nothing that counts. -/
def OnlyReads (dialect : Dialect) (text : String) : Prop :=
  ∀ statement ∈ statements dialect text,
    dropNoise 0 statement = [] ∨ IsReading statement

/-- What is read up to the first semicolon. -/
def firstStatement
    (dialect : Dialect)
    (previous : Option Char)
    (cs : List Char) :
    List Char :=
  Lexeme.concat
    ((Lexeme.scanFrom dialect 0 previous cs).takeWhile (· != .character ';'))

theorem head?_splitOn
    [BEq α]
    [LawfulBEq α]
    (separator : α)
    (items : List α) :
    (items.splitOn separator).head? =
      some (items.takeWhile (· != separator)) := by
  induction items with
  | nil =>
      simp
  | cons item items inductionHypothesis =>
      rw [splitOn_cons_eq_if_modifyHead, takeWhile_cons]
      by_cases isSeparator : item = separator
      · simp [isSeparator]
      · simp [isSeparator, inductionHypothesis]

theorem statements_eq_cons
    (dialect : Dialect)
    (text : String) :
    ∃ later,
      statements dialect text =
        firstStatement dialect none text.toList :: later := by
  have first :=
    head?_splitOn (.character ';') (Lexeme.scan dialect text.toList)
  obtain ⟨later, shape⟩ := head?_eq_some_iff.mp first
  exact ⟨later.map Lexeme.concat, by rw [statements, shape]; rfl⟩

/-- A text goes on behind its first statement with a semicolon, or it ends there. -/
theorem exists_append_firstStatement
    (dialect : Dialect)
    (previous : Option Char)
    (cs : List Char) :
    ∃ later, cs = firstStatement dialect previous cs ++ later ∧
      ∀ c ∈ later.head?, c = ';' := by
  let lexemes := Lexeme.scanFrom dialect 0 previous cs
  refine ⟨Lexeme.concat (lexemes.dropWhile (· != .character ';')), ?_, ?_⟩
  · have whole : Lexeme.concat lexemes = cs :=
      Lexeme.concat_scanFrom dialect cs 0 previous
    rw [firstStatement, Lexeme.concat, Lexeme.concat, ← flatMap_append,
      takeWhile_append_dropWhile]
    exact whole.symm
  · intro c first
    cases shape : lexemes.dropWhile (· != .character ';') with
    | nil =>
        simp [shape] at first
    | cons lexeme rest =>
        have stops := head?_dropWhile_not (· != .character ';') lexemes
        rw [shape] at stops first
        have isSemicolon : lexeme = .character ';' := by
          simpa using stops
        subst isSemicolon
        simpa [Lexeme.chars] using first.symm

/-! ## The first keyword -/

theorem noiseLength?_bounds
    {cs : List Char}
    {length : Nat}
    (found : noiseLength? cs = some length) :
    1 ≤ length ∧ length ≤ cs.length := by
  cases cs with
  | nil =>
      cases found
  | cons c cs =>
      unfold noiseLength? at found
      dsimp only at found
      split at found
      · cases found
        simp
      · have bounds := commentLength?_bounds found
        omega

theorem noiseLength?_of_append_none
    {cs rest : List Char}
    (notFound : noiseLength? (cs ++ rest) = none) :
    noiseLength? cs = none := by
  cases cs with
  | nil =>
      rfl
  | cons c cs =>
      unfold noiseLength? at notFound ⊢
      simp only [cons_append] at notFound ⊢
      split at notFound
      · cases notFound
      · rename_i counts
        rw [if_neg counts]
        exact commentLength?_of_append_none notFound

theorem noiseLength?_of_append
    {cs rest : List Char}
    {length : Nat}
    (found : noiseLength? (cs ++ rest) = some length)
    (fits : length ≤ cs.length) :
    noiseLength? cs = some length := by
  cases cs with
  | nil =>
      exact absurd ((noiseLength?_bounds found).1.trans fits) (by decide)
  | cons c cs =>
      unfold noiseLength? at found ⊢
      simp only [cons_append] at found ⊢
      split at found
      · rename_i noise
        rw [if_pos noise, found]
      · rename_i counts
        rw [if_neg counts]
        exact commentLength?_of_append found fits

theorem dropNoise_cons
    (c : Char)
    (rest : List Char) :
    dropNoise 0 (c :: rest) =
      match noiseLength? (c :: rest) with
      | some length => dropNoise (length - 1) rest
      | none => c :: rest := by
  rfl

theorem dropNoise_of_counts
    {cs : List Char}
    (counts : noiseLength? cs = none) :
    dropNoise 0 cs = cs := by
  cases cs with
  | nil =>
      rfl
  | cons c rest =>
      rw [dropNoise_cons, counts]

theorem dropNoise_append
    (taken rest : List Char) :
    dropNoise taken.length (taken ++ rest) = dropNoise 0 rest := by
  induction taken with
  | nil =>
      rfl
  | cons c taken inductionHypothesis =>
      have passedOver :
          dropNoise (taken.length + 1) (c :: (taken ++ rest)) =
            dropNoise taken.length (taken ++ rest) := rfl
      rw [length_cons, cons_append, passedOver, inductionHypothesis]

/-- Noise at the front is dropped as a whole. -/
theorem dropNoise_of_noise
    {noise rest : List Char}
    (found : noiseLength? (noise ++ rest) = some noise.length) :
    dropNoise 0 (noise ++ rest) = dropNoise 0 rest := by
  cases noise with
  | nil =>
      rfl
  | cons c noise =>
      rw [cons_append] at found ⊢
      rw [dropNoise_cons, found]
      exact dropNoise_append noise rest

/-- A blank or a parenthesis is a character like any other. -/
theorem bareChar_of_noise
    {c : Char}
    (noise : (Text.isBlank c || c = '(') = true) :
    isBareChar c = true ∧ ∀ d, opensComment c d = false := by
  have unlike
      (other : Char)
      (counts : (Text.isBlank other || other = '(') = false) :
      c ≠ other := by
    rintro rfl
    simp [counts] at noise
  have notHyphen := unlike '-' (by decide)
  have notSlash := unlike '/' (by decide)
  refine ⟨?_, fun d => by simp [opensComment, notHyphen, notSlash]⟩
  simp [isBareChar, unlike '\'' (by decide), unlike '"' (by decide),
    unlike '\x60' (by decide), unlike ':' (by decide)]

/-- What does not count at the front of a text is read as one lexeme that is no semicolon. -/
theorem Lexeme.first_of_noise
    (dialect : Dialect)
    (previous : Option Char)
    {c : Char}
    {rest : List Char}
    {length : Nat}
    (found : noiseLength? (c :: rest) = some length) :
    (first dialect previous c rest).chars = (c :: rest).take length ∧
      first dialect previous c rest ≠ .character ';' := by
  unfold noiseLength? at found
  dsimp only at found
  split at found
  · rename_i noise
    cases found
    obtain ⟨bare, noComment⟩ := bareChar_of_noise noise
    rw [first_bareChar dialect previous bare fun d _ => noComment d]
    refine ⟨rfl, ?_⟩
    rintro ⟨⟩
    exact absurd noise (by decide)
  · have noMark : dialect.styleOf? c = none := by
      rcases commentLength?_cases found with
        ⟨_, shape, _⟩ | ⟨_, _, shape, _⟩
      · cases shape
        exact dialect.styleOf?_bareChar (by decide)
      · cases shape
        exact dialect.styleOf?_bareChar (by decide)
    have isComment :
        first dialect previous c rest = .comment ((c :: rest).take length) := by
      simp [first, quotedLength?, noMark, found]
    rw [isComment]
    exact ⟨rfl, by simp⟩

/-- What does not count at the front of a text is the front of its first statement. -/
theorem firstStatement_of_noise
    (dialect : Dialect)
    (previous : Option Char)
    {c : Char}
    {rest : List Char}
    {length : Nat}
    (found : noiseLength? (c :: rest) = some length) :
    ∃ last before after,
      rest = before ++ after ∧ (c :: before).length = length ∧
      firstStatement dialect previous (c :: rest) =
        (c :: before) ++ firstStatement dialect last after := by
  obtain ⟨isNoise, notSemicolon⟩ :=
    Lexeme.first_of_noise dialect previous found
  obtain ⟨before, after, split, shape, scanned⟩ :=
    Lexeme.scanFrom_cons dialect previous c rest
  refine ⟨(c :: before).getLast?, before, after, split, ?_, ?_⟩
  · have bounds := (noiseLength?_bounds found).2
    rw [← shape, isNoise, length_take, Nat.min_eq_left bounds]
  · rw [firstStatement, scanned, takeWhile_cons]
    simp [notSemicolon, shape, firstStatement]

/-- A text that starts with what counts starts with the keyword of its first statement, because no
semicolon stands within a keyword. -/
theorem keyword_firstStatement_of_counts
    (dialect : Dialect)
    (previous : Option Char)
    {cs : List Char}
    (counts : noiseLength? cs = none) :
    (dropNoise 0 (firstStatement dialect previous cs)).takeWhile Char.isAlpha =
      (dropNoise 0 cs).takeWhile Char.isAlpha := by
  obtain ⟨later, whole, goesOn⟩ :=
    exists_append_firstStatement dialect previous cs
  generalize firstStatement dialect previous cs = first at whole
  subst whole
  have stops : later.takeWhile Char.isAlpha = [] := by
    cases later with
    | nil =>
        rfl
    | cons d later =>
        rw [goesOn d rfl]
        rfl
  rw [dropNoise_of_counts counts,
    dropNoise_of_counts (noiseLength?_of_append_none counts),
    takeWhile_append, stops]
  split
  · rename_i letters
    rw [append_nil, (takeWhile_sublist _).eq_of_length letters]
  · rfl

/-- The first keyword of a text stands in its first statement. -/
theorem keyword_firstStatement
    (dialect : Dialect)
    (previous : Option Char)
    (cs : List Char) :
    (dropNoise 0 (firstStatement dialect previous cs)).takeWhile Char.isAlpha =
      (dropNoise 0 cs).takeWhile Char.isAlpha := by
  induction size_eq : cs.length using Nat.strong_induction_on
    generalizing previous cs with
  | _ size inductionHypothesis =>
      cases cs with
      | nil =>
          rfl
      | cons c rest =>
          cases found : noiseLength? (c :: rest) with
          | none =>
              exact keyword_firstStatement_of_counts dialect previous found
          | some length =>
              obtain ⟨last, before, after, rfl, noise, continued⟩ :=
                firstStatement_of_noise dialect previous found
              have stillFound :
                  noiseLength?
                      ((c :: before) ++ firstStatement dialect last after) =
                    some (c :: before).length := by
                obtain ⟨later, whole, _⟩ :=
                  exists_append_firstStatement dialect last after
                have longer :
                    c :: (before ++ after) =
                      ((c :: before) ++ firstStatement dialect last after)
                        ++ later := by
                  rw [append_assoc, ← whole, cons_append]
                rw [longer, ← noise] at found
                exact noiseLength?_of_append found (by simp)
              have smaller : after.length < size := by
                rw [← size_eq, length_cons, length_append]
                omega
              rw [← noise, ← cons_append] at found
              rw [continued, dropNoise_of_noise stillFound, ← cons_append,
                dropNoise_of_noise found]
              exact inductionHypothesis _ smaller last after rfl

/-- The guard looks at the first statement of a text only. -/
theorem isReadOnly_iff_firstStatement
    (dialect : Dialect)
    (text : String) :
    isReadOnly text = true ↔
      IsReading (firstStatement dialect none text.toList) := by
  have sameKeyword :
      leadingKeyword (firstStatement dialect none text.toList) =
        leadingKeyword text.toList := by
    rw [leadingKeyword, leadingKeyword, keyword_firstStatement]
  rw [IsReading, sameKeyword, isReadOnly, contains_iff_mem]

end QueryGateway.Sql

namespace QueryGateway

open List Sql

/-- A statement passes if its parameters can be put in and it is taken for a reading one. -/
theorem EngineSettings.resolvedStatement_statement
    {settings : EngineSettings}
    {source : DataSource}
    {text : String}
    {parameters : Parameters}
    {resolved : String} :
    settings.resolvedStatement source (.statement text) parameters =
        .ok resolved ↔
      resolve (settings.dialectFor source) text parameters = .ok resolved ∧
        isReadOnly resolved = true := by
  rw [resolvedStatement, statementOf]
  dsimp only
  cases resolve (settings.dialectFor source) text parameters with
  | error error =>
      simp
  | ok written =>
      dsimp only
      by_cases readOnly : isReadOnly written = true
      · rw [if_pos readOnly]
        constructor
        · intro passes
          cases passes
          exact ⟨rfl, readOnly⟩
        · rintro ⟨same, _⟩
          cases same
          rfl
      · rw [if_neg readOnly]
        constructor
        · intro passes
          cases passes
        · rintro ⟨same, isReading⟩
          cases same
          exact absurd isReading readOnly

/-- A text that is asked for as a statement is let through exactly if its parameters can be put in
and the first of the statements that result is a reading one.  Then all of them are, exactly if the
later ones are or hold nothing that counts. -/
theorem EngineSettings.resolvedStatement_eq_ok_iff
    (settings : EngineSettings)
    (source : DataSource)
    (text : String)
    (parameters : Parameters)
    (resolved : String) :
    settings.resolvedStatement source (.statement text) parameters =
        .ok resolved ↔
      resolve (settings.dialectFor source) text parameters = .ok resolved ∧
        ∃ first later,
          statements (settings.dialectFor source) resolved = first :: later ∧
            IsReading first ∧
            (OnlyReads (settings.dialectFor source) resolved ↔
              ∀ statement ∈ later,
                dropNoise 0 statement = [] ∨ IsReading statement) := by
  rw [resolvedStatement_statement,
    isReadOnly_iff_firstStatement (settings.dialectFor source) resolved]
  obtain ⟨later, shape⟩ :=
    statements_eq_cons (settings.dialectFor source) resolved
  constructor
  · rintro ⟨isResolved, reading⟩
    refine ⟨isResolved, _, later, shape, reading, ?_⟩
    rw [OnlyReads, shape, forall_mem_cons]
    exact and_iff_right (Or.inr reading)
  · rintro ⟨isResolved, first, others, sameShape, reading, _⟩
    rw [shape, cons.injEq] at sameShape
    rw [← sameShape.1] at reading
    exact ⟨isResolved, reading⟩

/-- A source with nothing chosen but its engine. -/
def DataSource.plain (engine : EngineType) : DataSource where
  id := .number 1
  engine := engine
  host := "localhost"
  port := none
  database := "main"
  username := none
  password := none
  schema := none
  options := []

/-- A statement that deletes is let through behind one that reads. -/
theorem EngineSettings.resolvedStatement_several :
    standard.resolvedStatement (.plain .postgresql)
        (.statement "SELECT 1; DROP TABLE t") [] =
      .ok "SELECT 1; DROP TABLE t" ∧
    ¬ OnlyReads (standard.dialectFor (.plain .postgresql))
        "SELECT 1; DROP TABLE t" := by
  refine ⟨rfl, ?_⟩
  have held :
      statements (standard.dialectFor (.plain .postgresql))
          "SELECT 1; DROP TABLE t" =
        ["SELECT 1".toList, " DROP TABLE t".toList] := rfl
  rw [OnlyReads, held]
  decide

end QueryGateway
