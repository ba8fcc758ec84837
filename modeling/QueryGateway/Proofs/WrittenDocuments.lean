import QueryGateway.Proofs.DocumentTokens

/-!
# JSON documents are read back

A document that is written is read back as it was if every number in it is an
integer that is short enough and no object has two members of one name.  The
reader takes no more steps than the text has characters, and what is left of
the text is what stood behind the document.
-/

namespace QueryGateway.Json

open List

/-! ## Objects -/

/-- A member with a new name goes to the end. -/
theorem putMember_of_not_mem
    {name : String}
    {members : List (String × Json)}
    (isNew : name ∉ members.map Prod.fst)
    (value : Json) :
    putMember name value members = members ++ [(name, value)] := by
  induction members with
  | nil =>
      rfl
  | cons member rest inductionHypothesis =>
      obtain ⟨name', value'⟩ := member
      rw [map_cons, mem_cons, not_or] at isNew
      rw [putMember, if_neg (Ne.symm isNew.1), inductionHypothesis isNew.2,
        cons_append]

/-- Members with distinct names are put into an object as they are. -/
theorem ofMembers_of_nodup
    {members : List (String × Json)}
    (distinct : (members.map Prod.fst).Nodup) :
    ofMembers members = .object members := by
  have built
      (front back : List (String × Json))
      (distinct : ((front ++ back).map Prod.fst).Nodup) :
      back.foldl (fun built member => putMember member.1 member.2 built) front =
        front ++ back := by
    induction back generalizing front with
    | nil =>
        simp
    | cons member back inductionHypothesis =>
        obtain ⟨name, value⟩ := member
        rw [← singleton_append, ← append_assoc] at distinct ⊢
        have isNew : name ∉ front.map Prod.fst := by
          rw [map_append, map_append, nodup_append, nodup_append] at distinct
          intro member
          exact distinct.1.2.2 name member name (by simp) rfl
        rw [← inductionHypothesis _ distinct, singleton_append, foldl_cons,
          ← putMember_of_not_mem isNew]
  exact congrArg object (built [] members distinct)

/-! ## Documents that are read back -/

mutual

/-- Whether a document holds no floating-point number, integers of few enough digits only, and no
object with two members of one name. -/
def isPlain : Json → Bool
  | .null | .bool _ | .text _ => true
  | .int value => Numeral.isWritable value
  | .float _ => false
  | .array items => arePlain items
  | .object members => decide (members.map Prod.fst).Nodup && arePlainMembers members

/-- Whether all items of an array are plain. -/
def arePlain : List Json → Bool
  | [] => true
  | item :: rest => item.isPlain && arePlain rest

/-- Whether all members of an object are plain. -/
def arePlainMembers : List (String × Json) → Bool
  | [] => true
  | (_, value) :: rest => value.isPlain && arePlainMembers rest

end

mutual

/-- A plain document can be written. -/
theorem isWritable_of_isPlain
    {document : Json}
    (plain : document.isPlain = true) :
    document.isWritable = true := by
  cases document with
  | null | bool | float | text =>
      rfl
  | int value =>
      exact plain
  | array items =>
      exact areWritable_of_arePlain plain
  | object members =>
      rw [isPlain, Bool.and_eq_true] at plain
      exact areWritableMembers_of_arePlainMembers plain.2

theorem areWritable_of_arePlain
    {items : List Json}
    (plain : arePlain items = true) :
    areWritable items = true := by
  cases items with
  | nil =>
      rfl
  | cons item rest =>
      rw [arePlain, Bool.and_eq_true] at plain
      rw [areWritable, isWritable_of_isPlain plain.1, areWritable_of_arePlain plain.2]
      rfl

theorem areWritableMembers_of_arePlainMembers
    {members : List (String × Json)}
    (plain : arePlainMembers members = true) :
    areWritableMembers members = true := by
  cases members with
  | nil =>
      rfl
  | cons member rest =>
      obtain ⟨name, value⟩ := member
      rw [arePlainMembers, Bool.and_eq_true] at plain
      rw [areWritableMembers, isWritable_of_isPlain plain.1,
        areWritableMembers_of_arePlainMembers plain.2]
      rfl

end

/-! ## The characters of a document -/

/-- The characters of a document. -/
def written (document : Json) : List Char :=
  document.write.toList

/-- The characters of a text with its marks. -/
def writtenText (text : String) : List Char :=
  '"' :: (text.toList.flatMap writeChar ++ ['"'])

/-- The characters between the brackets of an array. -/
def writtenItems (items : List Json) : List Char :=
  [',', ' '].intercalate (items.map written)

/-- The characters between the braces of an object. -/
def writtenMembers (members : List (String × Json)) : List Char :=
  [',', ' '].intercalate
    (members.map fun (name, value) => writtenText name ++ ':' :: ' ' :: value.written)

theorem written_text
    (text : String) :
    (Json.text text).written = writtenText text := by
  simp [written, write, writeText, writtenText]

theorem written_array
    (items : List Json) :
    (Json.array items).written = '[' :: (writtenItems items ++ [']']) := by
  have texts : (writeItems items).map String.toList = items.map written := by
    induction items with
    | nil =>
        rfl
    | cons item rest inductionHypothesis =>
        rw [writeItems, map_cons, map_cons, inductionHypothesis, written]
  simp [written, write, writtenItems, String.toList_intercalate, texts]

theorem written_object
    (members : List (String × Json)) :
    (Json.object members).written = '\x7b' :: (writtenMembers members ++ ['\x7d']) := by
  have texts :
      (writeMembers members).map String.toList =
        members.map fun (name, value) =>
          writtenText name ++ ':' :: ' ' :: value.written := by
    induction members with
    | nil =>
        rfl
    | cons member rest inductionHypothesis =>
        obtain ⟨name, value⟩ := member
        rw [writeMembers, map_cons, map_cons, inductionHypothesis]
        simp [writeText, writtenText, written]
  simp [written, write, writtenMembers, String.toList_intercalate, texts]

/-- A plain document starts with a character that is no blank, closes no array, and is no byte order
mark. -/
theorem written_cons
    {document : Json}
    (plain : document.isPlain = true) :
    ∃ first rest,
      document.written = first :: rest ∧ isSpace first = false ∧ first ≠ ']' ∧
        first ≠ '\ufeff' := by
  cases document with
  | null =>
      exact ⟨'n', _, rfl, by decide, by decide, by decide⟩
  | bool value =>
      cases value with
      | false =>
          exact ⟨'f', _, rfl, by decide, by decide, by decide⟩
      | true =>
          exact ⟨'t', _, rfl, by decide, by decide, by decide⟩
  | int value =>
      obtain ⟨first, rest, shape, unlike⟩ := Numeral.ofInt_cons value
      refine ⟨first, rest, shape, ?_, unlike _ (by decide) (by decide),
        unlike _ (by decide) (by decide)⟩
      simp [isSpace, unlike ' ', unlike '\t', unlike '\n', unlike '\r']
  | float value =>
      cases plain
  | text value =>
      exact ⟨'"', _, written_text value, by decide, by decide, by decide⟩
  | array items =>
      exact ⟨'[', _, written_array items, by decide, by decide, by decide⟩
  | object members =>
      exact ⟨'\x7b', _, written_object members, by decide, by decide, by decide⟩

theorem writtenItems_cons_cons
    (item next : Json)
    (rest : List Json) :
    writtenItems (item :: next :: rest) =
      item.written ++ ',' :: ' ' :: writtenItems (next :: rest) := by
  simp [writtenItems, intercalate_cons_cons]

theorem writtenMembers_cons_cons
    (name : String)
    (value : Json)
    (next : String × Json)
    (rest : List (String × Json)) :
    writtenMembers ((name, value) :: next :: rest) =
      writtenText name ++ ':' :: ' ' :: (value.written ++
        ',' :: ' ' :: writtenMembers (next :: rest)) := by
  simp [writtenMembers, intercalate_cons_cons]

/-- Items start as the first of them does. -/
theorem writtenItems_cons
    {item : Json}
    (plain : item.isPlain = true)
    (items : List Json) :
    ∃ first more,
      writtenItems (item :: items) = first :: more ∧ isSpace first = false ∧ first ≠ ']' := by
  obtain ⟨first, more, shape, notSpace, notClosing, _⟩ := written_cons plain
  cases items with
  | nil =>
      exact ⟨first, more, by simp [writtenItems, shape], notSpace, notClosing⟩
  | cons next items =>
      refine ⟨first, more ++ ',' :: ' ' :: writtenItems (next :: items), ?_, notSpace,
        notClosing⟩
      rw [writtenItems_cons_cons, shape, cons_append]

/-- Members start with the mark of a name. -/
theorem writtenMembers_cons
    (member : String × Json)
    (members : List (String × Json)) :
    ∃ more, writtenMembers (member :: members) = '"' :: more := by
  cases members with
  | nil =>
      exact ⟨_, by simp [writtenMembers, writtenText]; rfl⟩
  | cons next members =>
      exact ⟨_, by rw [writtenMembers_cons_cons, writtenText, cons_append]⟩

/-! ## Reading documents -/

theorem skipSpace_of_not_space
    {first : Char}
    (notSpace : isSpace first = false)
    (rest : List Char) :
    skipSpace (first :: rest) = first :: rest :=
  dropWhile_cons_of_neg (by simp [notSpace])

theorem skipSpace_space
    (rest : List Char) :
    skipSpace (' ' :: rest) = skipSpace rest :=
  dropWhile_cons_of_pos (by decide)

/-- No white space stands before a plain document. -/
theorem skipSpace_written
    {document : Json}
    (plain : document.isPlain = true)
    (rest : List Char) :
    skipSpace (document.written ++ rest) = document.written ++ rest := by
  obtain ⟨first, more, shape, notSpace, _⟩ := written_cons plain
  rw [shape, cons_append, skipSpace_of_not_space notSpace]

/-- A document that starts with no mark and no bracket is a word or a number. -/
theorem readValue_scalar
    (fuel : Nat)
    {first : Char}
    (notMark : first ≠ '"')
    (notBracket : first ≠ '[')
    (notBrace : first ≠ '\x7b')
    (rest : List Char) :
    readValue (fuel + 1) (first :: rest) = readScalar (first :: rest) := by
  unfold readValue
  split <;> simp_all

/-- An array with something in it is read item by item. -/
theorem readValue_array
    (fuel : Nat)
    {first : Char}
    (notSpace : isSpace first = false)
    (notClosing : first ≠ ']')
    (rest : List Char) :
    readValue (fuel + 1) ('[' :: first :: rest) =
      (readItems fuel (first :: rest)).map fun (items, rest) => (.array items, rest) := by
  rw [readValue, skipSpace_of_not_space notSpace]
  split
  · simp_all
  · rfl

/-- An object with something in it is read member by member. -/
theorem readValue_object
    (fuel : Nat)
    (rest : List Char) :
    readValue (fuel + 1) ('\x7b' :: '"' :: rest) =
      (readMembers fuel ('"' :: rest)).map fun (members, rest) =>
        (ofMembers members, rest) := by
  rw [readValue, skipSpace_of_not_space (by decide)]
  rfl

/-- An item is read in front of what the reader makes of what stands behind it. -/
theorem readItems_comma
    {fuel : Nat}
    {cs rest : List Char}
    {item : Json}
    (itemRead : readValue fuel cs = .ok (item, ',' :: rest)) :
    readItems (fuel + 1) cs =
      (readItems fuel (skipSpace rest)).map fun (items, rest) => (item :: items, rest) := by
  have mark : skipSpace (',' :: rest) = ',' :: rest :=
    skipSpace_of_not_space (by decide) rest
  simp only [readItems, itemRead, bind, Except.bind, mark]
  cases readItems fuel (skipSpace rest) <;> rfl

/-- A name is read in front of its value. -/
theorem readMembers_name
    (fuel : Nat)
    (name : String)
    (cs : List Char) :
    readMembers (fuel + 1) (writtenText name ++ ':' :: cs) =
      (readValue fuel (skipSpace cs)).bind fun (value, rest) =>
        match skipSpace rest with
        | '\x7d' :: rest => .ok ([(name, value)], rest)
        | ',' :: rest =>
            (readMembers fuel (skipSpace rest)).map fun (members, rest) =>
              ((name, value) :: members, rest)
        | rest => fail .missingComma rest := by
  have colon : skipSpace (':' :: cs) = ':' :: cs :=
    skipSpace_of_not_space (by decide) cs
  rw [writtenText, cons_append, append_assoc, singleton_append]
  simp only [readMembers, readText_writeText, bind, Except.bind, colon]
  rfl

-- A step of the reader takes a mark off the text or goes on to a part of it, so the length of the
-- text bounds the steps; the recursion of the proofs is that of the reader, on the steps left.
mutual

/-- A plain document is read back, and what stood behind it is left. -/
theorem readValue_written
    (document : Json)
    (plain : document.isPlain = true)
    (fuel : Nat)
    (enough : document.written.length ≤ fuel)
    (rest : List Char)
    (ends : EndsNumber rest) :
    readValue fuel (document.written ++ rest) = .ok (document, rest) := by
  cases fuel with
  | zero =>
      obtain ⟨first, more, shape, _⟩ := written_cons plain
      rw [shape] at enough
      cases enough
  | succ fuel =>
      cases document with
      | null =>
          rfl
      | bool value =>
          cases value <;> rfl
      | int value =>
          obtain ⟨first, more, shape, unlike⟩ := Numeral.ofInt_cons value
          have read := readScalar_ofInt plain ends
          rw [written, write]
          rw [shape, cons_append] at read ⊢
          rw [readValue_scalar fuel (unlike _ (by decide) (by decide))
            (unlike _ (by decide) (by decide)) (unlike _ (by decide) (by decide)), read]
      | float value =>
          cases plain
      | text value =>
          rw [written_text, writtenText, cons_append, append_assoc, singleton_append,
            readValue, readText_writeText]
          rfl
      | array items =>
          rw [written_array, length_cons, length_append, length_singleton] at enough
          rw [written_array, cons_append, append_assoc, singleton_append]
          cases items with
          | nil =>
              rfl
          | cons item items =>
              have itemPlain : item.isPlain = true := by
                rw [isPlain, arePlain, Bool.and_eq_true] at plain
                exact plain.1
              obtain ⟨first, more, shape, notSpace, notClosing⟩ :=
                writtenItems_cons itemPlain items
              have itemsRead := readItems_written item items plain fuel (by omega) rest
              rw [shape, cons_append] at itemsRead ⊢
              rw [readValue_array fuel notSpace notClosing, itemsRead]
              rfl
      | object members =>
          rw [written_object, length_cons, length_append, length_singleton] at enough
          rw [written_object, cons_append, append_assoc, singleton_append]
          rw [isPlain, Bool.and_eq_true, decide_eq_true_eq] at plain
          obtain ⟨distinct, membersPlain⟩ := plain
          cases members with
          | nil =>
              rfl
          | cons member members =>
              have membersRead :=
                readMembers_written member members membersPlain fuel (by omega) rest
              obtain ⟨more, shape⟩ := writtenMembers_cons member members
              rw [shape, cons_append] at membersRead ⊢
              rw [readValue_object, membersRead, ← ofMembers_of_nodup distinct]
              rfl
termination_by fuel

/-- Plain items are read back up to the closing bracket. -/
theorem readItems_written
    (item : Json)
    (items : List Json)
    (plain : arePlain (item :: items) = true)
    (fuel : Nat)
    (enough : (writtenItems (item :: items)).length < fuel)
    (rest : List Char) :
    readItems fuel (writtenItems (item :: items) ++ ']' :: rest) =
      .ok (item :: items, rest) := by
  rw [arePlain, Bool.and_eq_true] at plain
  obtain ⟨itemPlain, itemsPlain⟩ := plain
  cases fuel with
  | zero =>
      cases enough
  | succ fuel =>
      cases items with
      | nil =>
          rw [writtenItems, map_singleton, intercalate_singleton] at enough ⊢
          rw [readItems, readValue_written item itemPlain fuel (by omega) (']' :: rest)
            (.cons (by decide) _)]
          rfl
      | cons next items =>
          rw [writtenItems_cons_cons] at enough ⊢
          simp only [length_append, length_cons] at enough
          rw [append_assoc, cons_append, cons_append]
          have itemRead :=
            readValue_written item itemPlain fuel (by omega)
              (',' :: ' ' :: (writtenItems (next :: items) ++ ']' :: rest))
              (.cons (by decide) _)
          have nextPlain : next.isPlain = true := by
            rw [arePlain, Bool.and_eq_true] at itemsPlain
            exact itemsPlain.1
          obtain ⟨first, more, shape, notSpace, _⟩ := writtenItems_cons nextPlain items
          have itemsRead := readItems_written next items itemsPlain fuel (by omega) rest
          rw [shape, cons_append] at itemsRead
          rw [readItems_comma itemRead, skipSpace_space, shape, cons_append,
            skipSpace_of_not_space notSpace, itemsRead]
          rfl
termination_by fuel

/-- Plain members are read back up to the closing brace. -/
theorem readMembers_written
    (member : String × Json)
    (members : List (String × Json))
    (plain : arePlainMembers (member :: members) = true)
    (fuel : Nat)
    (enough : (writtenMembers (member :: members)).length < fuel)
    (rest : List Char) :
    readMembers fuel (writtenMembers (member :: members) ++ '\x7d' :: rest) =
      .ok (member :: members, rest) := by
  obtain ⟨name, value⟩ := member
  rw [arePlainMembers, Bool.and_eq_true] at plain
  obtain ⟨valuePlain, membersPlain⟩ := plain
  cases fuel with
  | zero =>
      cases enough
  | succ fuel =>
      cases members with
      | nil =>
          rw [writtenMembers, map_singleton, intercalate_singleton] at enough ⊢
          simp only [length_append, length_cons] at enough
          rw [append_assoc, cons_append, cons_append, readMembers_name, skipSpace_space,
            skipSpace_written valuePlain,
            readValue_written value valuePlain fuel (by omega) _ (.cons (by decide) _)]
          rfl
      | cons next members =>
          rw [writtenMembers_cons_cons] at enough ⊢
          simp only [length_append, length_cons] at enough
          have membersRead :=
            readMembers_written next members membersPlain fuel (by omega) rest
          obtain ⟨more, shape⟩ := writtenMembers_cons next members
          rw [shape, cons_append] at membersRead
          rw [append_assoc, cons_append, cons_append, append_assoc, cons_append,
            cons_append, readMembers_name, skipSpace_space, skipSpace_written valuePlain,
            readValue_written value valuePlain fuel (by omega) _ (.cons (by decide) _),
            shape]
          change Except.map _ (readMembers fuel ('"' :: (more ++ '\x7d' :: rest))) = _
          rw [membersRead]
          rfl
termination_by fuel

end

/-- A plain document that is written is read back as it was. -/
theorem read_write
    {document : Json}
    (plain : document.isPlain = true) :
    read document.write = .ok document := by
  have value :=
    readValue_written document plain (2 * document.written.length + 2) (by omega) [] .nil
  have start := skipSpace_written plain []
  rw [append_nil] at value start
  have whole : readChars document.written = .ok document := by
    rw [readChars, start, value]
    rfl
  obtain ⟨first, rest, shape, _, _, notMark⟩ := written_cons plain
  rw [read, ← written]
  split
  · rename_i isMark
    rw [shape, cons.injEq] at isMark
    exact absurd isMark.1 notMark
  · rw [whole, located]

end QueryGateway.Json
