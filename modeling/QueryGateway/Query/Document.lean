import QueryGateway.Json.Reader
import QueryGateway.Query.Reader
import QueryGateway.Text.Encoding

/-!
# Query documents

A query may be given as a decoded document, as the text of a JSON document, or
as its bytes.
-/

namespace QueryGateway

/-- The forms in which a query is given. -/
inductive QueryDocument where
  | decoded (value : Value)
  | text (text : String)
  | encoded (data : List UInt8)
  deriving Repr

/-- Why a document is no query: its bytes are no text, its text is no JSON document, it holds an
integer of too many digits, or it is not of the shape of a query. -/
inductive ParseError where
  | undecodable (error : Text.DecodeError)
  | notJson (fault : Json.Fault) (line column offset : Nat)
  | longInteger (digits : Nat)
  | shape (issues : List Issue)
  deriving Repr

/-- The description of a parse error. -/
def ParseError.message : ParseError → String
  | .undecodable error => error.message
  | .notJson fault line column offset =>
      "Invalid JSON: " ++ (Json.ReadError.fault fault line column offset).message
  | .longInteger digits => Numeral.unreadableMessage digits
  | .shape _ => "VisualQuery structure is invalid"

/-- Read a query from a decoded document. -/
def parseValue (value : Value) : Except ParseError VisualQuery :=
  match VisualQuery.ofValue value with
  | .ok query => .ok query
  | .error issues => .error (.shape issues)

/-- Read a query from a JSON document, if there is one. -/
def parseJson : Except Json.ReadError Json → Except ParseError VisualQuery
  | .ok json => parseValue (.ofJson json)
  | .error (.fault fault line column offset) => .error (.notJson fault line column offset)
  | .error (.longInteger digits) => .error (.longInteger digits)

/-- Read a query from the text of a JSON document. -/
def parseText (content : String) : Except ParseError VisualQuery :=
  parseJson (Json.read content)

/-- Read a query from the bytes of a JSON document. -/
def parseBytes (data : List UInt8) : Except ParseError VisualQuery :=
  match Text.decodeDocument data with
  | .ok content => parseJson (Json.readDecoded content)
  | .error error => .error (.undecodable error)

/-- Read a query.  A text or a byte string in place of a decoded document is a JSON document. -/
def QueryDocument.parse : QueryDocument → Except ParseError VisualQuery
  | .decoded (.text content) => parseText content
  | .decoded (.bytes .immutable data) => parseBytes data
  | .decoded value => parseValue value
  | .text content => parseText content
  | .encoded data => parseBytes data

end QueryGateway
