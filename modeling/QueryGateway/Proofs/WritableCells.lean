import QueryGateway.Proofs.LiteralPieces
import QueryGateway.Proofs.MappingCells

/-!
# Which values have a cell

The cell of a value writes down the integers in its mappings and no others.  So
a value has a cell if those are short enough, and if no entry of a mapping hides
another one, it has one only then.
-/

namespace QueryGateway

open List

/-! ## Collected lists -/

section

variable {find : α → Option β}

/-- Items are collected exactly if each of them is found, in the same order. -/
theorem mapM_eq_some_iff
    {items : List α}
    {found : List β} :
    items.mapM find = some found ↔
      Forall₂ (fun item other => find item = some other) items found := by
  induction items generalizing found with
  | nil =>
      rw [mapM_nil, forall₂_nil_left_iff]
      exact Option.some_inj.trans eq_comm
  | cons item rest inductionHypothesis =>
      rw [mapM_cons, forall₂_cons_left_iff]
      cases first : find item with
      | none =>
          exact iff_of_false (by simp) (by simp)
      | some other =>
          cases others : rest.mapM find with
          | none =>
              refine iff_of_false (by simp) ?_
              rintro ⟨_, back, _, isRest, _⟩
              rw [← inductionHypothesis, others] at isRest
              cases isRest
          | some back =>
              simp [← inductionHypothesis, others, eq_comm]

/-- All items are collected if each of them is found. -/
theorem exists_mapM_iff
    {items : List α} :
    (∃ found, items.mapM find = some found) ↔
      ∀ item ∈ items, ∃ other, find item = some other := by
  induction items with
  | nil =>
      exact iff_of_true ⟨[], rfl⟩ (forall_mem_nil _)
  | cons item rest inductionHypothesis =>
      rw [forall_mem_cons, ← inductionHypothesis, mapM_cons]
      cases find item with
      | none => simp
      | some other => cases rest.mapM find <;> simp

/-- Nothing is collected exactly if one of the items is not found. -/
theorem mapM_eq_none_iff
    {items : List α} :
    items.mapM find = none ↔ ∃ item ∈ items, find item = none := by
  have all := not_congr (@exists_mapM_iff _ _ find items)
  simpa [Option.eq_none_iff_forall_ne_some] using all

/-- What is collected was found for one of the items. -/
theorem exists_of_mem_mapM
    {items : List α}
    {found : List β}
    (collected : items.mapM find = some found)
    {other : β}
    (member : other ∈ found) :
    ∃ item ∈ items, find item = some other := by
  have pairs := mapM_eq_some_iff.mp collected
  clear collected
  induction pairs with
  | nil => cases member
  | cons isFound _ inductionHypothesis =>
      rcases mem_cons.mp member with rfl | inRest
      · exact ⟨_, mem_cons_self, isFound⟩
      · obtain ⟨item, isItem, isFound⟩ := inductionHypothesis inRest
        exact ⟨item, mem_cons_of_mem _ isItem, isFound⟩

end

/-! ## Objects that are written -/

namespace Json

/-- The members of an object can be written one by one. -/
theorem areWritableMembers_eq_all
    (members : List (String × Json)) :
    areWritableMembers members = members.all fun member => member.2.isWritable := by
  induction members with
  | nil =>
      rfl
  | cons member rest inductionHypothesis =>
      rw [areWritableMembers, inductionHypothesis, all_cons]

/-- A member that was put into an object is the new one or was there before. -/
theorem mem_putMember
    {name : String}
    {value : Json}
    {members : List (String × Json)}
    {member : String × Json}
    (isMember : member ∈ putMember name value members) :
    member = (name, value) ∨ member ∈ members := by
  induction members with
  | nil =>
      exact .inl (mem_singleton.mp isMember)
  | cons other rest inductionHypothesis =>
      rw [putMember] at isMember
      split at isMember
      · exact (mem_cons.mp isMember).imp_right (mem_cons_of_mem _)
      · rcases mem_cons.mp isMember with rfl | inRest
        · exact .inr mem_cons_self
        · exact (inductionHypothesis inRest).imp_right (mem_cons_of_mem _)

/-- An object can be written if the values of all its members can be. -/
theorem isWritable_ofMembers
    {members : List (String × Json)}
    (writable : ∀ member ∈ members, member.2.isWritable = true) :
    (ofMembers members).isWritable = true := by
  have kept :
      ∀ built : List (String × Json), (∀ member ∈ built, member.2.isWritable = true) →
        ∀ member ∈ members.foldl (fun built member => putMember member.1 member.2 built) built,
          member.2.isWritable = true := by
    induction members with
    | nil =>
        exact fun _ builtWritable => builtWritable
    | cons member rest inductionHypothesis =>
        rw [forall_mem_cons] at writable
        intro built builtWritable
        refine inductionHypothesis writable.2 _ fun other isMember => ?_
        rcases mem_putMember isMember with rfl | wasThere
        · exact writable.1
        · exact builtWritable other wasThere
  rw [ofMembers, isWritable, areWritableMembers_eq_all, all_eq_true]
  exact kept [] (forall_mem_nil _)

end Json

namespace Value

/-! ## The documents of values with short integers -/

/-- A value is shown exactly if its integers are short. -/
theorem plainText?_eq_some_iff
    {value : Value}
    {shown : String} :
    value.plainText? = some shown ↔
      value.hasShortIntegers = true ∧ value.plainText = shown := by
  rw [plainText?]
  split <;> simp_all

mutual

/-- A value whose integers are short has a document that can be written. -/
theorem exists_toJson?_of_short
    (value : Value)
    (short : value.hasShortIntegers = true) :
    ∃ document, value.toJson? = some document ∧ document.isWritable = true := by
  cases value with
  | null | bool | text | decimal | textual | bytes | typeName | foreign =>
      exact ⟨_, rfl, rfl⟩
  | int value =>
      rw [hasShortIntegers] at short
      exact ⟨.int value, rfl, by rw [Json.isWritable, short]⟩
  | float value =>
      refine ⟨_, rfl, ?_⟩
      rw [floatToJson]
      split <;> rfl
  | sequence kind items =>
      obtain ⟨documents, made, writable⟩ := exists_toJsonItems?_of_short items short
      exact ⟨.array documents, by rw [toJson?, made]; rfl, writable⟩
  | mapping entries =>
      obtain ⟨members, made, writable⟩ := exists_toJsonMembers?_of_short entries short
      exact ⟨.ofMembers members, by rw [toJson?, made]; rfl,
        Json.isWritable_ofMembers writable⟩

/-- Items with short integers become documents that can be written. -/
theorem exists_toJsonItems?_of_short
    (items : List Value)
    (short : haveShortIntegers items = true) :
    ∃ documents, toJsonItems? items = some documents ∧ Json.areWritable documents = true := by
  cases items with
  | nil =>
      exact ⟨[], rfl, rfl⟩
  | cons item rest =>
      rw [haveShortIntegers, Bool.and_eq_true] at short
      obtain ⟨document, made, writable⟩ := exists_toJson?_of_short item short.1
      obtain ⟨documents, restMade, restWritable⟩ := exists_toJsonItems?_of_short rest short.2
      refine ⟨document :: documents, by rw [toJsonItems?, made, restMade]; rfl, ?_⟩
      rw [Json.areWritable, writable, restWritable]
      rfl

/-- Entries with short integers become members that can be written. -/
theorem exists_toJsonMembers?_of_short
    (entries : List (Value × Value))
    (short : haveShortIntegersEntries entries = true) :
    ∃ members, toJsonMembers? entries = some members ∧
      ∀ member ∈ members, member.2.isWritable = true := by
  cases entries with
  | nil =>
      exact ⟨[], rfl, forall_mem_nil _⟩
  | cons entry rest =>
      obtain ⟨key, value⟩ := entry
      rw [haveShortIntegersEntries, Bool.and_eq_true, Bool.and_eq_true] at short
      obtain ⟨⟨keyShort, valueShort⟩, restShort⟩ := short
      have keyShown := plainText?_eq_some_iff.mpr ⟨keyShort, rfl⟩
      obtain ⟨document, made, writable⟩ := exists_toJson?_of_short value valueShort
      obtain ⟨members, restMade, restWritable⟩ :=
        exists_toJsonMembers?_of_short rest restShort
      exact ⟨(key.plainText, document) :: members,
        by rw [toJsonMembers?, keyShown, made, restMade]; rfl,
        forall_mem_cons.mpr ⟨writable, restWritable⟩⟩

end

/-! ## The documents of values with long integers -/

/-- Whether the keys of a mapping differ as texts, so that no entry hides another one. -/
def hasDistinctKeys : Value → Bool
  | .mapping entries => decide (entries.map fun (key, _) => key.plainText).Nodup
  | _ => true

/-- The first item becomes the first document. -/
theorem toJsonItems?_cons_eq_some
    {item : Value}
    {rest : List Value}
    {documents : List Json}
    (made : toJsonItems? (item :: rest) = some documents) :
    ∃ document more,
      item.toJson? = some document ∧ toJsonItems? rest = some more ∧
        documents = document :: more := by
  simp only [toJsonItems?, Option.bind_eq_bind, Option.bind_eq_some_iff] at made
  obtain ⟨document, isDocument, more, restMade, isDocuments⟩ := made
  exact ⟨document, more, isDocument, restMade, (Option.some.inj isDocuments).symm⟩

/-- The first entry becomes the first member, if its key can be shown. -/
theorem toJsonMembers?_cons_eq_some
    {key value : Value}
    {rest : List (Value × Value)}
    {members : List (String × Json)}
    (made : toJsonMembers? ((key, value) :: rest) = some members) :
    ∃ document more,
      key.hasShortIntegers = true ∧ value.toJson? = some document ∧
        toJsonMembers? rest = some more ∧ members = (key.plainText, document) :: more := by
  simp only [toJsonMembers?, Option.bind_eq_bind, Option.bind_eq_some_iff,
    plainText?_eq_some_iff] at made
  obtain ⟨_, ⟨short, rfl⟩, document, isDocument, more, restMade, isMembers⟩ := made
  exact ⟨document, more, short, isDocument, restMade, (Option.some.inj isMembers).symm⟩

/-- Members have the texts of the keys for names. -/
theorem names_of_toJsonMembers?
    {entries : List (Value × Value)}
    {members : List (String × Json)}
    (made : toJsonMembers? entries = some members) :
    members.map Prod.fst = entries.map fun (key, _) => key.plainText := by
  induction entries generalizing members with
  | nil =>
      cases made
      rfl
  | cons entry rest inductionHypothesis =>
      obtain ⟨_, _, _, _, restMade, rfl⟩ := toJsonMembers?_cons_eq_some made
      rw [map_cons, map_cons, inductionHypothesis restMade]

mutual

/-- If no entry of a mapping hides another one, only a value whose integers are short has a document
that can be written. -/
theorem hasShortIntegers_of_toJson?
    (value : Value)
    (distinct : value.everyPart hasDistinctKeys = true)
    {document : Json}
    (made : value.toJson? = some document)
    (writable : document.isWritable = true) :
    value.hasShortIntegers = true := by
  cases value with
  | null | bool | float | text | decimal | textual | bytes | typeName | foreign =>
      rfl
  | int value =>
      cases made
      exact writable
  | sequence kind items =>
      rw [everyPart, Bool.and_eq_true] at distinct
      obtain ⟨documents, itemsMade, rfl⟩ := Option.map_eq_some_iff.mp made
      exact haveShortIntegers_of_toJsonItems? items distinct.2 itemsMade writable
  | mapping entries =>
      rw [everyPart, Bool.and_eq_true] at distinct
      obtain ⟨members, entriesMade, rfl⟩ := Option.map_eq_some_iff.mp made
      have names := of_decide_eq_true distinct.1
      rw [← names_of_toJsonMembers? entriesMade] at names
      rw [Json.ofMembers_of_nodup names] at writable
      exact haveShortIntegersEntries_of_toJsonMembers? entries distinct.2 entriesMade writable

/-- Items that became documents that can be written have short integers. -/
theorem haveShortIntegers_of_toJsonItems?
    (items : List Value)
    (distinct : everyItem hasDistinctKeys items = true)
    {documents : List Json}
    (made : toJsonItems? items = some documents)
    (writable : Json.areWritable documents = true) :
    haveShortIntegers items = true := by
  cases items with
  | nil =>
      rfl
  | cons item rest =>
      obtain ⟨document, more, itemMade, restMade, rfl⟩ := toJsonItems?_cons_eq_some made
      rw [everyItem, Bool.and_eq_true] at distinct
      rw [Json.areWritable, Bool.and_eq_true] at writable
      rw [haveShortIntegers, Bool.and_eq_true]
      exact ⟨hasShortIntegers_of_toJson? item distinct.1 itemMade writable.1,
        haveShortIntegers_of_toJsonItems? rest distinct.2 restMade writable.2⟩

/-- Entries that became members that can be written have short integers. -/
theorem haveShortIntegersEntries_of_toJsonMembers?
    (entries : List (Value × Value))
    (distinct : everyEntry hasDistinctKeys entries = true)
    {members : List (String × Json)}
    (made : toJsonMembers? entries = some members)
    (writable : Json.areWritableMembers members = true) :
    haveShortIntegersEntries entries = true := by
  cases entries with
  | nil =>
      rfl
  | cons entry rest =>
      obtain ⟨document, more, keyShort, valueMade, restMade, rfl⟩ :=
        toJsonMembers?_cons_eq_some made
      rw [everyEntry, Bool.and_eq_true] at distinct
      rw [Json.areWritableMembers, Bool.and_eq_true] at writable
      rw [haveShortIntegersEntries, Bool.and_eq_true, Bool.and_eq_true]
      exact ⟨⟨keyShort, hasShortIntegers_of_toJson? _ distinct.1 valueMade writable.1⟩,
        haveShortIntegersEntries_of_toJsonMembers? rest distinct.2 restMade writable.2⟩

end

/-! ## Cells -/

mutual

/-- Whether the integers in all mappings of a value are short enough to be written.  Those outside of
mappings may be longer. -/
def hasShortMappings : Value → Bool
  | .sequence _ items => haveShortMappings items
  | .mapping entries => haveShortIntegersEntries entries
  | .null | .bool _ | .int _ | .float _ | .decimal _ | .text _ | .textual _ | .bytes ..
  | .typeName _ | .foreign _ => true

/-- Whether the integers in all mappings of the values of a list are short enough to be written. -/
def haveShortMappings : List Value → Bool
  | [] => true
  | value :: rest => value.hasShortMappings && haveShortMappings rest

end

/-- The mappings of a list of values have short integers one by one. -/
theorem haveShortMappings_eq_all
    (values : List Value) :
    haveShortMappings values = values.all hasShortMappings := by
  induction values with
  | nil =>
      rfl
  | cons value rest inductionHypothesis =>
      simp [haveShortMappings, inductionHypothesis]

/-- A test that holds of every part holds of every part of each value. -/
theorem everyItem_eq_all
    (test : Value → Bool)
    (values : List Value) :
    everyItem test values = values.all fun value => value.everyPart test := by
  induction values with
  | nil =>
      rfl
  | cons value rest inductionHypothesis =>
      simp [everyItem, inductionHypothesis]

/-- The cell of a container is the list of the cells of its items. -/
theorem toCell?_sequence
    (kind : SequenceKind)
    (items : List Value) :
    (sequence kind items).toCell? = (items.mapM toCell?).map list := by
  rw [toCell?, toCells?_eq_mapM]

/-- A mapping has a cell if its integers are short. -/
theorem exists_toCell?_mapping
    {entries : List (Value × Value)}
    (short : (mapping entries).hasShortIntegers = true) :
    ∃ shown, (mapping entries).toCell? = some (.text shown) := by
  obtain ⟨document, made, writable⟩ := exists_toJson?_of_short _ short
  have shown : document.text? = some document.write := if_pos writable
  exact ⟨document.write, by rw [toCell?_mapping, made, Option.bind_some, shown]; rfl⟩

/-- A value has a cell if the integers in its mappings are short. -/
theorem exists_toCell?
    (value : Value)
    (short : value.hasShortMappings = true) :
    ∃ cell, value.toCell? = some cell := by
  induction value using itemInduction with
  | scalar value notSequence =>
      cases value with
      | mapping entries =>
          obtain ⟨shown, isCell⟩ := exists_toCell?_mapping short
          exact ⟨_, isCell⟩
      | sequence kind items =>
          exact absurd rfl (notSequence kind items)
      | _ =>
          exact ⟨_, rfl⟩
  | sequence kind items inductionHypothesis =>
      rw [hasShortMappings, haveShortMappings_eq_all, all_eq_true] at short
      obtain ⟨cells, collected⟩ := exists_mapM_iff.mpr fun item member =>
        inductionHypothesis item member (short item member)
      exact ⟨list cells, by rw [toCell?_sequence, collected]; rfl⟩

/-- If no entry of a mapping hides another one, only a value with short integers in its mappings has
a cell. -/
theorem hasShortMappings_of_toCell?
    {value cell : Value}
    (distinct : value.everyPart hasDistinctKeys = true)
    (made : value.toCell? = some cell) :
    value.hasShortMappings = true := by
  induction value using itemInduction generalizing cell with
  | scalar value notSequence =>
      cases value with
      | mapping entries =>
          rw [toCell?_mapping, Option.map_eq_some_iff] at made
          obtain ⟨shown, isShown, -⟩ := made
          obtain ⟨document, isDocument, isText⟩ := Option.bind_eq_some_iff.mp isShown
          have writable : document.isWritable = true := by
            by_contra long
            rw [Json.text?, if_neg long] at isText
            cases isText
          exact hasShortIntegers_of_toJson? _ distinct isDocument writable
      | sequence kind items =>
          exact absurd rfl (notSequence kind items)
      | _ =>
          rfl
  | sequence kind items inductionHypothesis =>
      rw [everyPart, Bool.and_eq_true, everyItem_eq_all, all_eq_true] at distinct
      rw [toCell?_sequence, Option.map_eq_some_iff] at made
      obtain ⟨cells, collected, -⟩ := made
      have itemCells := exists_mapM_iff.mp ⟨cells, collected⟩
      rw [hasShortMappings, haveShortMappings_eq_all, all_eq_true]
      intro item member
      obtain ⟨itemCell, itemMade⟩ := itemCells item member
      exact inductionHypothesis item member (distinct.2 item member) itemMade

end Value

end QueryGateway
