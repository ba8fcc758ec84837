import QueryGateway.Proofs.WrittenDocuments
import QueryGateway.Value.Cell

/-!
# The cells of mappings

The cell of a mapping is the text of a JSON object.  Read as JSON again it says
what the mapping says: keys are texts, scalars that JSON does not have are
texts, containers are arrays, and mappings are objects, in the same order.
That needs keys that differ as texts and integers that can be read; the text of
a finite floating-point number is no matter of this module.
-/

namespace QueryGateway

open List

namespace Value

/-! ## What a cell says -/

mutual

/-- A value as it is told by the cell of a mapping: a container is a list, a mapping has the texts of
its keys for keys, and a scalar that JSON does not have is its text. -/
def jsonForm : Value → Value
  | .null => .null
  | .bool value => .bool value
  | .int value => .int value
  | .float value => if value.isFinite then .float value else .text value.text
  | .decimal value => .text value.text
  | .text value => .text value
  | .textual value => .text value.text
  | .bytes _ data => .text (Text.hexOfBytes data)
  | .typeName name => .text (plainText (.typeName name))
  | .foreign shown => .text shown
  | .sequence _ items => .list (jsonItems items)
  | .mapping entries => .mapping (jsonEntries entries)

/-- The items of a container as they are told. -/
def jsonItems : List Value → List Value
  | [] => []
  | value :: rest => value.jsonForm :: jsonItems rest

/-- The entries of a mapping as they are told. -/
def jsonEntries : List (Value × Value) → List (Value × Value)
  | [] => []
  | (key, value) :: rest => (.text key.plainText, value.jsonForm) :: jsonEntries rest

end

mutual

/-- Whether a value and all values in it pass a test; the keys of mappings are not looked at. -/
def everyPart (test : Value → Bool) : Value → Bool
  | .sequence kind items => test (.sequence kind items) && everyItem test items
  | .mapping entries => test (.mapping entries) && everyEntry test entries
  | value => test value

/-- Whether all items of a container and all values in them pass a test. -/
def everyItem (test : Value → Bool) : List Value → Bool
  | [] => true
  | value :: rest => value.everyPart test && everyItem test rest

/-- Whether all values of a mapping and all values in them pass a test. -/
def everyEntry (test : Value → Bool) : List (Value × Value) → Bool
  | [] => true
  | (_, value) :: rest => value.everyPart test && everyEntry test rest

end

/-- Whether a value, apart from what is in it, is told exactly: it is no finite floating-point
number, an integer has few enough digits, and the keys of a mapping differ as texts and hold no
integer with more digits. -/
def isTold : Value → Bool
  | .int value => Numeral.isWritable value
  | .float value => !value.isFinite
  | .mapping entries =>
      decide (entries.map fun (key, _) => key.plainText).Nodup
        && entries.all fun (key, _) => key.hasShortIntegers
  | _ => true

/-! ## The documents of values -/

/-- A value has a document that can be read back and says what the value is told as. -/
def Tells (value : Value) (document : Json) : Prop :=
  document.isPlain = true ∧ ofJson document = value.jsonForm

/-- The document of a number that is no finite number is its text. -/
theorem tells_float
    {value : Binary64}
    (notFinite : value.isFinite = false) :
    (float value).Tells (floatToJson value) := by
  rw [floatToJson, Tells, jsonForm, notFinite]
  exact ⟨rfl, rfl⟩

/-- Members whose names differ are an object as they are, and it can be read back. -/
theorem tells_mapping
    {entries : List (Value × Value)}
    {members : List (String × Json)}
    (distinct : (entries.map fun (key, _) => key.plainText).Nodup)
    (names : members.map Prod.fst = entries.map fun (key, _) => key.plainText)
    (plain : Json.arePlainMembers members = true)
    (told : ofJsonMembers members = jsonEntries entries) :
    (mapping entries).Tells (Json.ofMembers members) := by
  rw [← names] at distinct
  rw [Json.ofMembers_of_nodup distinct, Tells, Json.isPlain, ofJson, told, jsonForm, plain,
    decide_eq_true distinct]
  exact ⟨rfl, rfl⟩

mutual

/-- A value that is told exactly has a document that tells it. -/
theorem exists_toJson?_tells
    (value : Value)
    (told : value.everyPart isTold = true) :
    ∃ document, value.toJson? = some document ∧ value.Tells document := by
  cases value with
  | null | bool | text | decimal | textual | bytes | typeName | foreign =>
      exact ⟨_, rfl, rfl, rfl⟩
  | int value =>
      simp only [everyPart, isTold] at told
      exact ⟨.int value, rfl, by rw [Json.isPlain, told], rfl⟩
  | float value =>
      have notFinite : value.isFinite = false := by
        simpa [everyPart, isTold] using told
      exact ⟨_, rfl, tells_float notFinite⟩
  | sequence kind items =>
      rw [everyPart, Bool.and_eq_true] at told
      obtain ⟨documents, made, plain, itemsTold⟩ := exists_toJsonItems?_told items told.2
      refine ⟨.array documents, by rw [toJson?, made]; rfl, plain, ?_⟩
      rw [ofJson, itemsTold, jsonForm]
  | mapping entries =>
      rw [everyPart, Bool.and_eq_true, isTold, Bool.and_eq_true, all_eq_true] at told
      obtain ⟨⟨distinct, short⟩, entriesTold⟩ := told
      obtain ⟨members, made, names, plain, membersTold⟩ :=
        exists_toJsonMembers?_told entries short entriesTold
      exact ⟨.ofMembers members, by rw [toJson?, made]; rfl,
        tells_mapping (of_decide_eq_true distinct) names plain membersTold⟩

theorem exists_toJsonItems?_told
    (items : List Value)
    (told : everyItem isTold items = true) :
    ∃ documents, toJsonItems? items = some documents ∧
      Json.arePlain documents = true ∧ ofJsonItems documents = jsonItems items := by
  cases items with
  | nil =>
      exact ⟨[], rfl, rfl, rfl⟩
  | cons item rest =>
      rw [everyItem, Bool.and_eq_true] at told
      obtain ⟨document, made, plain, itemTold⟩ := exists_toJson?_tells item told.1
      obtain ⟨documents, restMade, restPlain, restTold⟩ :=
        exists_toJsonItems?_told rest told.2
      refine ⟨document :: documents, by rw [toJsonItems?, made, restMade]; rfl, ?_, ?_⟩
      · rw [Json.arePlain, plain, restPlain]
        rfl
      · rw [ofJsonItems, itemTold, restTold, jsonItems]

theorem exists_toJsonMembers?_told
    (entries : List (Value × Value))
    (short : ∀ entry ∈ entries, entry.1.hasShortIntegers = true)
    (told : everyEntry isTold entries = true) :
    ∃ members, toJsonMembers? entries = some members ∧
      (members.map Prod.fst = entries.map fun (key, _) => key.plainText) ∧
        Json.arePlainMembers members = true ∧ ofJsonMembers members = jsonEntries entries := by
  cases entries with
  | nil =>
      exact ⟨[], rfl, rfl, rfl, rfl⟩
  | cons entry rest =>
      obtain ⟨key, value⟩ := entry
      rw [forall_mem_cons] at short
      rw [everyEntry, Bool.and_eq_true] at told
      have keyShown : key.plainText? = some key.plainText := if_pos short.1
      obtain ⟨document, made, plain, valueTold⟩ := exists_toJson?_tells value told.1
      obtain ⟨members, restMade, names, restPlain, restTold⟩ :=
        exists_toJsonMembers?_told rest short.2 told.2
      refine ⟨(key.plainText, document) :: members,
        by rw [toJsonMembers?, keyShown, made, restMade]; rfl, ?_, ?_, ?_⟩
      · rw [map_cons, map_cons, names]
      · rw [Json.arePlainMembers, plain, restPlain]
        rfl
      · rw [ofJsonMembers, valueTold, restTold, jsonEntries]

end

/-- The cell of a mapping that is told exactly is a text, and read as JSON it says what the mapping
says. -/
theorem read_toCell?_mapping
    (entries : List (Value × Value))
    (told : (mapping entries).everyPart isTold = true) :
    ∃ text,
      (mapping entries).toCell? = some (.text text) ∧
        (Json.read text).map ofJson = .ok (mapping entries).jsonForm := by
  obtain ⟨document, made, plain, isForm⟩ := exists_toJson?_tells _ told
  have shown : document.text? = some document.write :=
    if_pos (Json.isWritable_of_isPlain plain)
  refine ⟨document.write, ?_, ?_⟩
  · rw [toCell?_mapping, made, Option.bind_some, shown]
    rfl
  · rw [Json.read_write plain, Except.map, isForm]

/-- Entries with keys of several kinds, whose values hold what JSON has no form for. -/
def nestedEntries : List (Value × Value) :=
  [(.int 1, .decimal (.finite false 150 (-2))),
    (.bool true, .tuple [.null, .float (.infinite true), .bytes .mutable [255, 0]]),
    (.text "\"é",
      .mapping
        [(.null, .text "\\\n\x7f😀"),
          (.textual (.date ⟨2024, 1, 2⟩), .list [.int (-70), .mapping []])])]

/-- What the cell of the nested entries says. -/
def nestedForm : Value :=
  .mapping
    [(.text "1", .text "1.50"),
      (.text "True", .list [.null, .text "-inf", .text "ff00"]),
      (.text "\"é",
        .mapping
          [(.text "None", .text "\\\n\x7f😀"),
            (.text "2024-01-02", .list [.int (-70), .mapping []])])]

/-- The cell of the nested entries is read back with quoted, escaped and paired characters. -/
theorem read_toCell?_mapping_nested :
    (mapping nestedEntries).everyPart isTold = true ∧
      ∃ text,
        (mapping nestedEntries).toCell? = some (.text text) ∧
          (Json.read text).map ofJson = .ok nestedForm := by
  have told : (mapping nestedEntries).everyPart isTold = true := by
    decide +kernel
  have form : (mapping nestedEntries).jsonForm = nestedForm := by
    rfl
  obtain ⟨text, cell, read⟩ := read_toCell?_mapping nestedEntries told
  exact ⟨told, text, cell, form ▸ read⟩

end Value

end QueryGateway
