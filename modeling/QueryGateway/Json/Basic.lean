import QueryGateway.Value.Basic

/-!
# JSON documents

The data model of JSON with integers and floating-point numbers kept apart and
the members of an object kept in order.
-/

namespace QueryGateway

/-- A JSON document. -/
inductive Json where
  | null
  | bool (value : Bool)
  | int (value : Int)
  | float (value : Binary64)
  | text (value : String)
  | array (items : List Json)
  | object (members : List (String × Json))
  deriving Repr

instance : Inhabited Json := ⟨.null⟩

namespace Json

/-- Put a member into an object.  A name that is already there keeps its place and takes the new
value. -/
def putMember (name : String) (value : Json) : List (String × Json) → List (String × Json)
  | [] => [(name, value)]
  | (name', value') :: rest =>
      if name' = name then (name, value) :: rest else (name', value') :: putMember name value rest

/-- The object that results from putting members in one after the other. -/
def ofMembers (members : List (String × Json)) : Json :=
  .object (members.foldl (fun built (name, value) => putMember name value built) [])

/-- The member of an object with a name. -/
def member? (name : String) : Json → Option Json
  | .object members => members.lookup name
  | _ => none

end Json

mutual

/-- A JSON document as a value: arrays are lists and objects are mappings with text keys. -/
def Value.ofJson : Json → Value
  | .null => .null
  | .bool value => .bool value
  | .int value => .int value
  | .float value => .float value
  | .text value => .text value
  | .array items => .list (Value.ofJsonItems items)
  | .object members => .mapping (Value.ofJsonMembers members)

/-- The items of an array as values. -/
def Value.ofJsonItems : List Json → List Value
  | [] => []
  | item :: rest => Value.ofJson item :: Value.ofJsonItems rest

/-- The members of an object as entries. -/
def Value.ofJsonMembers : List (String × Json) → List (Value × Value)
  | [] => []
  | (name, value) :: rest => (.text name, Value.ofJson value) :: Value.ofJsonMembers rest

end

end QueryGateway
