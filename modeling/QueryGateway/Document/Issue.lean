import QueryGateway.Number.Numeral

/-!
# Issues of a document

What can be wrong with a decoded document, and where.  Decoding does not stop
at the first issue: the parts of a document are checked one after the other and
their issues are put together in that order.
-/

namespace QueryGateway

/-- One step from a document to a part of it. -/
inductive PathStep where
  | name (name : String)
  | index (index : Int)
  deriving Repr, DecidableEq

/-- What is wrong with a part of a document. -/
inductive IssueKind where
  | missing
  | extraForbidden
  | invalidKey
  | modelType (model : String)
  | attributesType
  | tagNotFound
  | tagInvalid (tag : String) (expected : List String)
  | stringType
  | stringUnicode
  | boolType
  | boolParsing
  | intType
  | intParsing
  | intParsingSize
  | intFromFloat
  | finiteNumber
  | floatType
  | floatParsing
  | decimalType
  | listType
  | tupleType
  | dictType
  | notOneOf (names : List String)
  | notGreater (bound : Nat)
  | tooSmall (bound : Nat)
  | tooGreat (bound : Nat)
  deriving Repr, DecidableEq

namespace IssueKind

/-- The code of a kind of issue. -/
def code : IssueKind → String
  | .missing => "missing"
  | .extraForbidden => "extra_forbidden"
  | .invalidKey => "invalid_key"
  | .modelType _ => "model_type"
  | .attributesType => "model_attributes_type"
  | .tagNotFound => "union_tag_not_found"
  | .tagInvalid .. => "union_tag_invalid"
  | .stringType => "string_type"
  | .stringUnicode => "string_unicode"
  | .boolType => "bool_type"
  | .boolParsing => "bool_parsing"
  | .intType => "int_type"
  | .intParsing => "int_parsing"
  | .intParsingSize => "int_parsing_size"
  | .intFromFloat => "int_from_float"
  | .finiteNumber => "finite_number"
  | .floatType => "float_type"
  | .floatParsing => "float_parsing"
  | .decimalType => "decimal_type"
  | .listType => "list_type"
  | .tupleType => "tuple_type"
  | .dictType => "dict_type"
  | .notOneOf _ => "enum"
  | .notGreater _ => "greater_than"
  | .tooSmall _ => "greater_than_equal"
  | .tooGreat _ => "less_than_equal"

/-- A name between apostrophes. -/
def quoted (name : String) : String :=
  "'" ++ name ++ "'"

/-- Alternatives in prose: between commas, with a word before the last one. -/
def alternatives : List String → String
  | [] => ""
  | [name] => quoted name
  | [first, last] => quoted first ++ " or " ++ quoted last
  | first :: rest => quoted first ++ ", " ++ alternatives rest

/-- The description of a kind of issue. -/
def message : IssueKind → String
  | .missing => "Field required"
  | .extraForbidden => "Extra inputs are not permitted"
  | .invalidKey => "Keys should be strings"
  | .modelType model => "Input should be a valid dictionary or instance of " ++ model
  | .attributesType =>
      "Input should be a valid dictionary or object to extract fields from"
  | .tagNotFound => "Unable to extract tag using discriminator 'type'"
  | .tagInvalid tag expected =>
      "Input tag " ++ quoted tag ++ " found using 'type' does not match any of the expected tags: "
        ++ ", ".intercalate (expected.map quoted)
  | .stringType => "Input should be a valid string"
  | .stringUnicode =>
      "Input should be a valid string, unable to parse raw data as a unicode string"
  | .boolType => "Input should be a valid boolean"
  | .boolParsing => "Input should be a valid boolean, unable to interpret input"
  | .intType => "Input should be a valid integer"
  | .intParsing => "Input should be a valid integer, unable to parse string as an integer"
  | .intParsingSize => "Unable to parse input string as an integer, exceeded maximum size"
  | .intFromFloat => "Input should be a valid integer, got a number with a fractional part"
  | .finiteNumber => "Input should be a finite number"
  | .floatType => "Input should be a valid number"
  | .floatParsing => "Input should be a valid number, unable to parse string as a number"
  | .decimalType => "Decimal input should be an integer, float, string or Decimal object"
  | .listType => "Input should be a valid list"
  | .tupleType => "Input should be a valid tuple"
  | .dictType => "Input should be a valid dictionary"
  | .notOneOf names => "Input should be " ++ alternatives names
  | .notGreater bound => "Input should be greater than " ++ Numeral.ofNat bound
  | .tooSmall bound => "Input should be greater than or equal to " ++ Numeral.ofNat bound
  | .tooGreat bound => "Input should be less than or equal to " ++ Numeral.ofNat bound

end IssueKind

/-- An issue at a place in a document. -/
structure Issue where
  path : List PathStep
  kind : IssueKind
  deriving Repr, DecidableEq

/-- An issue one step further from the document. -/
def Issue.under (step : PathStep) (issue : Issue) : Issue :=
  { issue with path := step :: issue.path }

/-- A part of a document that was read, or everything that is wrong with it. -/
abbrev Checked (α : Type) := Except (List Issue) α

namespace Checked

variable {α β : Type}

/-- A part with one issue. -/
def issue (kind : IssueKind) : Checked α := .error [⟨[], kind⟩]

/-- The issues of a part. -/
def issues : Checked α → List Issue
  | .ok _ => []
  | .error issues => issues

/-- A part one step further from the document. -/
def under (step : PathStep) : Checked α → Checked α
  | .ok value => .ok value
  | .error issues => .error (issues.map (Issue.under step))

/-- A function of one more part; the issues of both are put together. -/
def and (function : Checked (α → β)) (part : Checked α) : Checked β :=
  match function, part with
  | .ok function, .ok value => .ok (function value)
  | .ok _, .error issues => .error issues
  | .error issues, .ok _ => .error issues
  | .error issues, .error issues' => .error (issues ++ issues')

/-- A part that further issues may spoil. -/
def orIssues (part : Checked α) (further : List Issue) : Checked α :=
  match part, further with
  | .ok value, [] => .ok value
  | part, further => .error (part.issues ++ further)

/-- Parts one after the other. -/
def all : List (Checked α) → Checked (List α)
  | [] => .ok []
  | part :: rest => Checked.and (Checked.and (.ok List.cons) part) (all rest)

/-- Parts one after the other, each under its index from a first one on. -/
def indexed (read : β → Checked α) : Nat → List β → Checked (List α)
  | _, [] => .ok []
  | index, item :: rest =>
      Checked.and (Checked.and (.ok List.cons) ((read item).under (.index index)))
        (indexed read (index + 1) rest)

end Checked

end QueryGateway
