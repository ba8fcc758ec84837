import QueryGateway.Document.Scalar
import QueryGateway.Value.Display

/-!
# Fields of a record

A record of a document is a mapping with known names.  A field may have a plain
name beside its document name; the document name comes first if both are given,
and the other one then counts as unknown.  Unknown names are issues after those
of the fields.
-/

namespace QueryGateway.Document

/-- The entries of a mapping. -/
abbrev Entries := List (Value × Value)

/-- The names of a field: the one that documents use and the plain one. -/
structure Field where
  name : String
  plain : String
  deriving Repr, DecidableEq

/-- A field whose two names are the same. -/
def Field.simple (name : String) : Field := ⟨name, name⟩

/-- The name under which a field is given. -/
def Field.given? (field : Field) (entries : Entries) : Option (String × Value) :=
  match Value.field? field.name entries with
  | some value => some (field.name, value)
  | none => (Value.field? field.plain entries).map fun value => (field.plain, value)

/-- Read a field that has to be there. -/
def Field.required {α : Type}
    (field : Field)
    (read : Value → Checked α)
    (entries : Entries) :
    Checked α :=
  match field.given? entries with
  | some (name, value) => (read value).under (.name name)
  | none => .error [⟨[.name field.name], .missing⟩]

/-- Read a field that stands for something else when it is absent. -/
def Field.optional {α : Type}
    (field : Field)
    (absent : α)
    (read : Value → Checked α)
    (entries : Entries) :
    Checked α :=
  match field.given? entries with
  | some (name, value) => (read value).under (.name name)
  | none => .ok absent

/-- The place of a key in a mapping: its number if it is one of 64 bits, else its text or its
display form. -/
def keyStep : Value → PathStep
  | .text name => .name name
  | .int n =>
      if -Numeral.wordBound ≤ n ∧ n < Numeral.wordBound then .index n
      else .name (Numeral.ofInt n)
  | .bool value => .index (if value then 1 else 0)
  | key => .name key.display

/-- The names that entries give the fields by. -/
def givenNames (fields : List Field) (entries : Entries) : List String :=
  fields.filterMap fun field => (field.given? entries).map (·.1)

/-- The issue with a key that gives no field.  Bytes give none, but they are passed over if they
encode the name of a field that is given. -/
def unknownKey? (given : List String) (key : Value) : Option Issue :=
  match readText key with
  | .ok name => if given.contains name then none else some ⟨[keyStep key], .extraForbidden⟩
  | .error _ => some ⟨[keyStep key], .invalidKey⟩

/-- The issues with the keys that give no field, in the order of the entries. -/
def unknownKeys (fields : List Field) (entries : Entries) : List Issue :=
  entries.filterMap fun (key, _) => unknownKey? (givenNames fields entries) key

/-- Read a mapping as a record, or refuse a value that is none. -/
def readRecord {α : Type}
    (refusal : IssueKind)
    (fields : List Field)
    (read : Entries → Checked α)
    (value : Value) :
    Checked α :=
  match value with
  | .mapping entries => (read entries).orIssues (unknownKeys fields entries)
  | _ => .issue refusal

end QueryGateway.Document
