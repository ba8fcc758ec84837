import QueryGateway.Proofs.LongIntegers
import QueryGateway.Query.Document

/-!
# Which documents are reported

Parsing promises to report a document that is no query: as a text that is no
JSON document, or as one of another shape.  Two kinds of documents escape that.
Bytes that are no text end with the error of the decoder, and a text with an
integer of too many digits ends with the error of reading the integer.  These
two are the only ones.
-/

namespace QueryGateway

open List

namespace ParseError

/-- Whether an error is one that parsing reports as its own. -/
def isReported : ParseError → Bool
  | .notJson .. | .shape _ => true
  | .undecodable _ | .longInteger _ => false

end ParseError

/-- A parse that ends as it promises: in a query or in an error of its own. -/
def IsReported (outcome : Except ParseError VisualQuery) : Prop :=
  (∃ query, outcome = .ok query) ∨ ∃ error, outcome = .error error ∧ error.isReported = true

namespace QueryDocument

/-- The text of a JSON document, or the error of decoding it.  A decoded document that is no text
and no byte string has none. -/
def content? : QueryDocument → Option (Except Text.DecodeError String)
  | .text content => some (.ok content)
  | .encoded data => some (Text.decodeDocument data)
  | .decoded (.text content) => some (.ok content)
  | .decoded (.bytes .immutable data) => some (Text.decodeDocument data)
  | .decoded _ => none

/-- A document with bytes that are no text. -/
def IsUndecodable (document : QueryDocument) (error : Text.DecodeError) : Prop :=
  document.content? = some (.error error)

/-- A document whose text has an integer of too many digits in a place where a value is due. -/
def HoldsLong (document : QueryDocument) (count : Nat) : Prop :=
  ∃ content, document.content? = some (.ok content) ∧ Json.HoldsLong count content.toList

/-- How a document is parsed, by what is known of its text. -/
inductive ParseStep (document : QueryDocument) : Except ParseError VisualQuery → Prop where
  | decoded {value : Value}
      (noContent : document.content? = none) :
      ParseStep document (parseValue value)
  | undecodable {error : Text.DecodeError}
      (noText : document.content? = some (.error error)) :
      ParseStep document (.error (.undecodable error))
  | json {content : String} {outcome : Except Json.ReadError Json}
      (hasContent : document.content? = some (.ok content))
      (sameIntegers :
        ∀ count, outcome = .error (.longInteger count) ↔ Json.HoldsLong count content.toList) :
      ParseStep document (parseJson outcome)

theorem parse_step
    (document : QueryDocument) :
    ParseStep document document.parse := by
  have text
      {document : QueryDocument}
      {content : String}
      (hasContent : document.content? = some (.ok content)) :
      ParseStep document (parseText content) :=
    .json hasContent fun _ => Json.read_long_iff
  have bytes
      {document : QueryDocument}
      {data : List UInt8}
      (hasContent : document.content? = some (Text.decodeDocument data)) :
      ParseStep document (parseBytes data) := by
    rw [parseBytes]
    cases decoded : Text.decodeDocument data with
    | ok content =>
        exact .json (hasContent.trans (congrArg some decoded)) fun _ => Json.readDecoded_long_iff
    | error error =>
        exact .undecodable (hasContent.trans (congrArg some decoded))
  unfold parse
  split
  · exact text rfl
  · exact bytes rfl
  · rename_i value notText notBytes
    refine .decoded ?_
    unfold content?
    split <;> simp_all
  · exact text rfl
  · exact bytes rfl

/-- A decoded document is a query or has a shape that is reported. -/
theorem parseValue_isReported
    (value : Value) :
    IsReported (parseValue value) := by
  rw [parseValue]
  cases VisualQuery.ofValue value with
  | ok query =>
      exact .inl ⟨query, rfl⟩
  | error issues =>
      exact .inr ⟨.shape issues, rfl, rfl⟩

theorem parseValue_ne_unreported
    (value : Value)
    {error : ParseError}
    (unreported : error.isReported = false) :
    parseValue value ≠ .error error := by
  intro failed
  rcases parseValue_isReported value with ⟨query, parsed⟩ | ⟨error', failed', isReported⟩
  · rw [parsed] at failed
    cases failed
  · rw [failed', Except.error.injEq] at failed
    rw [failed, unreported] at isReported
    cases isReported

theorem parse_undecodable_iff
    {document : QueryDocument}
    {error : Text.DecodeError} :
    document.parse = .error (.undecodable error) ↔ document.IsUndecodable error := by
  have step := document.parse_step
  generalize document.parse = outcome at step ⊢
  have reported (value : Value) : parseValue value ≠ .error (.undecodable error) :=
    parseValue_ne_unreported value rfl
  cases step with
  | decoded noContent =>
      simp [IsUndecodable, noContent, reported]
  | undecodable noText =>
      simp [IsUndecodable, noText]
  | json hasContent sameIntegers =>
      rename_i content outcome
      rcases outcome with (_ | _) | json <;> simp [IsUndecodable, hasContent, parseJson, reported]

theorem parse_longInteger_iff
    {document : QueryDocument}
    {count : Nat} :
    document.parse = .error (.longInteger count) ↔ document.HoldsLong count := by
  have step := document.parse_step
  generalize document.parse = outcome at step ⊢
  have reported (value : Value) : parseValue value ≠ .error (.longInteger count) :=
    parseValue_ne_unreported value rfl
  cases step with
  | decoded noContent =>
      simp [HoldsLong, noContent, reported]
  | undecodable noText =>
      simp [HoldsLong, noText]
  | json hasContent sameIntegers =>
      rename_i content outcome
      have here : document.HoldsLong count ↔ Json.HoldsLong count content.toList := by
        simp [HoldsLong, hasContent]
      rw [here, ← sameIntegers]
      rcases outcome with (_ | _) | json <;> simp [parseJson, reported]

/-- A document is parsed to a query or reported exactly if it is neither bytes that are no text nor
a text with an integer of too many digits where a value is due.  These two end with errors of their
own.  A decoded mapping is always parsed or reported. -/
theorem parse_isReported
    (document : QueryDocument) :
    (IsReported document.parse ↔
        (∀ error, ¬ document.IsUndecodable error) ∧ ∀ count, ¬ document.HoldsLong count) ∧
      (∀ error, document.parse = .error (.undecodable error) ↔ document.IsUndecodable error) ∧
      (∀ count, document.parse = .error (.longInteger count) ↔ document.HoldsLong count) ∧
      ∀ entries, IsReported (QueryDocument.decoded (.mapping entries)).parse := by
  refine ⟨?_, fun _ => parse_undecodable_iff, fun _ => parse_longInteger_iff,
    fun entries => parseValue_isReported (.mapping entries)⟩
  simp only [← parse_undecodable_iff, ← parse_longInteger_iff]
  cases document.parse with
  | ok query =>
      simp [IsReported]
  | error error =>
      cases error <;> simp [IsReported, ParseError.isReported]

/-- A byte that starts no character, and a numeral of one digit too many, are not reported. -/
theorem parse_unreported :
    (∃ error, (QueryDocument.encoded [0xff]).parse = .error error ∧ error.isReported = false) ∧
      ∃ error,
        (QueryDocument.text (String.ofList (replicate 4301 '1'))).parse = .error error ∧
          error.isReported = false := by
  constructor
  · refine ⟨.undecodable ⟨.utf8, 0xff, 0, 1, "invalid start byte"⟩, ?_, rfl⟩
    rw [parse_undecodable_iff, IsUndecodable]
    decide +kernel
  · have startsLong : Json.StartsLong 4301 ([] ++ (replicate 4301 '1' ++ [])) := by
      refine .numeral (.inl rfl) ?_ (by simp) length_replicate (by decide) rfl rfl rfl
      intro c member
      rw [eq_of_mem_replicate member]
      rfl
    refine ⟨.longInteger 4301, parse_longInteger_iff.mpr ⟨_, rfl, [], _, ?_, rfl, startsLong⟩, rfl⟩
    rw [String.toList_ofList, nil_append, nil_append, append_nil]

end QueryDocument

end QueryGateway
