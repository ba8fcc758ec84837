import QueryGateway.Query.Dump
import QueryGateway.Query.Reader

/-!
# Reading records that were written

A record is written with one of the two names of each of its fields, and a
field that holds nothing may be left out.  If no two fields share a name, each
field that is written is given by the name it was written with, one that is
left out is not given at all, and no key is unknown.
-/

namespace QueryGateway

open List Document

/-! ## Fields and their keys -/

namespace Document

/-- Two fields without a name in common. -/
def Field.Apart (field other : Field) : Prop :=
  ∀ name ∈ [field.name, field.plain], name ∉ [other.name, other.plain]

instance (field other : Field) : Decidable (field.Apart other) :=
  inferInstanceAs
    (Decidable (∀ name ∈ [field.name, field.plain], name ∉ [other.name, other.plain]))

theorem Field.given?_simple
    (name : String)
    (entries : Entries) :
    (Field.simple name).given? entries =
      (Value.field? name entries).map fun value => (name, value) := by
  unfold Field.given? Field.simple
  cases Value.field? name entries <;> rfl

/-- Values for certain fields, no two of which share a name. -/
structure Fills (fields : List Field) (parts : List (Field × Value)) : Prop where
  fields_eq : parts.map Prod.fst = fields
  apart : fields.Pairwise Field.Apart

end Document

namespace DumpStyle

/-- The name that a field is written with. -/
def key (style : DumpStyle) (field : Field) : String :=
  style.name field.name field.plain

@[simp]
theorem key_simple
    (style : DumpStyle)
    (name : String) :
    style.key (.simple name) = name := by
  simp [key, DumpStyle.name, Field.simple]

@[simp]
theorem key_mk
    (style : DumpStyle)
    (name plain : String) :
    style.key ⟨name, plain⟩ = style.name name plain := rfl

theorem key_mem
    (style : DumpStyle)
    (field : Field) :
    style.key field ∈ [field.name, field.plain] := by
  unfold key DumpStyle.name
  split <;> simp

/-- Whether a field with a value is written. -/
def writes (style : DumpStyle) (value : Value) : Bool :=
  !(style.withoutNull && value.isNull)

/-- The entries that fields are written as with their values. -/
def entries (style : DumpStyle) (parts : List (Field × Value)) : Entries :=
  (parts.filter fun (_, value) => style.writes value).map fun (field, value) =>
    (.text (style.key field), value)

/-- A record consists of the entries that its fields are written as. -/
theorem record_eq
    (style : DumpStyle)
    (parts : List (Field × Value)) :
    style.record (parts.map fun (field, value) => (style.key field, value)) =
      .mapping (style.entries parts) := by
  unfold record entries writes
  cases style.withoutNull with
  | false =>
      have all : (parts.filter fun _ => true) = parts :=
        filter_eq_self.mpr fun _ _ => rfl
      simp [Value.record, Function.comp_def, all]
  | true =>
      simp [Value.record, filter_map, Function.comp_def]

/-! ## Entries that are given -/

variable {style : DumpStyle}

/-- Looking a name up among entries starts with the first field, if that is written. -/
theorem field?_entries_cons
    (name : String)
    (field : Field)
    (value : Value)
    (rest : List (Field × Value)) :
    Value.field? name (style.entries ((field, value) :: rest)) =
      if style.writes value = true ∧ style.key field = name then some value
      else Value.field? name (style.entries rest) := by
  rw [entries, filter_cons]
  by_cases written : style.writes value = true
  · simp [written, Value.field?, entries]
  · simp [written, entries]

/-- A name of a field is not found where all other fields are apart from it. -/
theorem field?_entries_of_apart
    {field : Field}
    {name : String}
    (isName : name ∈ [field.name, field.plain])
    {parts : List (Field × Value)}
    (apart : ∀ part ∈ parts, field.Apart part.1) :
    Value.field? name (style.entries parts) = none := by
  induction parts with
  | nil =>
      rfl
  | cons part rest inductionHypothesis =>
      have notKey : style.key part.1 ≠ name := by
        rintro rfl
        exact apart part mem_cons_self _ isName (style.key_mem part.1)
      rw [field?_entries_cons, if_neg fun found => notKey found.2]
      exact inductionHypothesis fun other member =>
        apart other (mem_cons_of_mem part member)

variable {fields : List Field} {parts : List (Field × Value)}

/-- A field is given by its key if it is written, and else not at all. -/
theorem given?_entries
    (fills : Fills fields parts)
    {field : Field}
    {value : Value}
    (member : (field, value) ∈ parts) :
    field.given? (style.entries parts) =
      if style.writes value then some (style.key field, value) else none := by
  obtain ⟨rfl, apart⟩ := fills
  induction parts with
  | nil =>
      cases member
  | cons part rest inductionHypothesis =>
      obtain ⟨first, firstValue⟩ := part
      rw [map_cons, pairwise_cons, forall_mem_map] at apart
      rw [Field.given?, field?_entries_cons, field?_entries_cons]
      rcases mem_cons.mp member with isFirst | inRest
      · cases isFirst
        -- A field that is left out is not found among the others, by either of its names.
        rw [field?_entries_of_apart (by simp) apart.1,
          field?_entries_of_apart (by simp) apart.1]
        by_cases written : style.writes value = true
        · have isNameOrPlain :
              style.key field = field.name ∨ style.key field = field.plain := by
            simpa using style.key_mem field
          rcases isNameOrPlain with isName | isPlain
          · simp [written, isName]
          · by_cases same : field.plain = field.name <;>
              simp [written, isPlain, same]
        · simp [written]
      · have notKey :
            ∀ name ∈ [field.name, field.plain], style.key first ≠ name := by
          rintro name isName rfl
          exact apart.1 _ inRest _ (style.key_mem first) isName
        rw [if_neg fun found => notKey _ (by simp) found.2,
          if_neg fun found => notKey _ (by simp) found.2,
          ← inductionHypothesis inRest apart.2]
        rfl

/-- The key of a field that is written gives the field. -/
theorem key_mem_givenNames
    (fills : Fills fields parts)
    {field : Field}
    {value : Value}
    (member : (field, value) ∈ parts)
    (written : style.writes value = true) :
    style.key field ∈ givenNames fields (style.entries parts) := by
  have isField : field ∈ fields := by
    rw [← fills.fields_eq]
    exact mem_map.mpr ⟨_, member, rfl⟩
  refine mem_filterMap.mpr ⟨field, isField, ?_⟩
  rw [given?_entries fills member, if_pos written]
  rfl

/-- No key of what is written is unknown. -/
theorem unknownKeys_entries
    (fills : Fills fields parts) :
    unknownKeys fields (style.entries parts) = [] := by
  rw [unknownKeys, filterMap_eq_nil_iff]
  rintro ⟨key, value⟩ inEntries
  obtain ⟨⟨field, _⟩, inWritten, isEntry⟩ := mem_map.mp inEntries
  cases isEntry
  obtain ⟨member, written⟩ := mem_filter.mp inWritten
  have given := key_mem_givenNames fills member written
  simp [unknownKey?, readText, given]

/-! ## Fields that are read -/

section

variable (fills : Fills fields parts)
variable {field : Field} {value : Value} (member : (field, value) ∈ parts)

include fills member

/-- A field is read back if what stands for an absent one is what nothing is read as. -/
theorem optional_entries
    {read : Value → Checked α}
    {result absent : α}
    (isRead : read value = .ok result)
    (ifNull : value.isNull = true → absent = result) :
    field.optional absent read (style.entries parts) = .ok result := by
  rw [Field.optional, given?_entries fills member]
  by_cases written : style.writes value = true
  · simp [written, isRead, Checked.under]
  · have leftOut : style.withoutNull = true ∧ value.isNull = true := by
      simpa [writes] using written
    simp [written, ifNull leftOut.2]

/-- A field that may hold nothing is read back. -/
theorem nullable_entries
    {read : Value → Checked α}
    {result : Option α}
    (isRead : readOptional read value = .ok result) :
    field.optional none (readOptional read) (style.entries parts) = .ok result := by
  apply optional_entries fills member isRead
  intro isNull
  cases value with
  | null =>
      exact Except.ok.inj isRead
  | _ =>
      cases isNull

/-- A field that holds something is read back. -/
theorem required_entries
    {read : Value → Checked α}
    {result : α}
    (isRead : read value = .ok result)
    (notNull : value.isNull = false) :
    field.required read (style.entries parts) = .ok result := by
  have written : style.writes value = true := by
    simp [writes, notNull]
  rw [Field.required, given?_entries fills member]
  simp [written, isRead, Checked.under]

end

/-! ## Records that are read -/

/-- A record is read if its fields are. -/
theorem readRecord_entries
    (fills : Fills fields parts)
    (refusal : IssueKind)
    {read : Entries → Checked α}
    {result : α}
    (isRead : read (style.entries parts) = .ok result) :
    readRecord refusal fields read (.mapping (style.entries parts)) =
      .ok result := by
  rw [readRecord, isRead, unknownKeys_entries fills]
  rfl

/-- A tagged part is read if its fields are. -/
theorem readTagged_entries
    (fills : Fills (typeField :: fields) parts)
    (tag : String)
    {read : Entries → Checked α}
    {result : α}
    (isRead : read (style.entries parts) = .ok result) :
    readTagged tag fields read (style.entries parts) = .ok result := by
  rw [readTagged, isRead, unknownKeys_entries fills]
  rfl

/-- The tag of a part is read. -/
theorem readTag_entries
    {kinds : Kinds}
    {tag : String}
    (isKind : (kinds.map Prod.fst).contains tag = true) :
    readTag kinds (.mapping (style.entries ((typeField, .text tag) :: parts))) =
      .ok tag := by
  have found :
      Value.field? "type" (style.entries ((typeField, .text tag) :: parts)) =
        some (.text tag) := by
    rw [field?_entries_cons, if_pos]
    simp [writes, Value.isNull]
  simp only [readTag, tagEntries?, Option.map_some, found, isKind, ↓reduceIte]

end DumpStyle

/-- Items that are read back one by one are read back from a container. -/
theorem Checked.indexed_map
    {write : α → Value}
    {read : Value → Checked α}
    {items : List α}
    (isRead : ∀ item ∈ items, read (write item) = .ok item)
    (index : Nat) :
    Checked.indexed read index (items.map write) = .ok items := by
  induction items generalizing index with
  | nil =>
      rfl
  | cons item rest inductionHypothesis =>
      rw [map_cons, Checked.indexed, isRead item mem_cons_self,
        inductionHypothesis fun other member =>
          isRead other (mem_cons_of_mem item member)]
      rfl

end QueryGateway
