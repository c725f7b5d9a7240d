import Findings.Json.Spelling

/-!
Contract: looking into a value whose shape is not known.

Owns: access by member name and to the first item, iteration, size and truth of a value, and what is
wrong when a value has not the kind that an access asks for.
-/

set_option autoImplicit false

namespace Findings.Json

/-- The kinds of values, as an access distinguishes them. -/
inductive Kind where
  | null
  | bool
  | int
  | real
  | text
  | array
  | object
deriving DecidableEq, Repr

def kind : Json → Kind
  | .null => .null
  | .bool _ => .bool
  | .int _ => .int
  | .real _ => .real
  | .text _ => .text
  | .array _ => .array
  | .object _ => .object

def Kind.name : Kind → Text
  | .null => "NoneType"
  | .bool => "bool"
  | .int => "int"
  | .real => "float"
  | .text => "str"
  | .array => "list"
  | .object => "dict"

/-- Why an access fails. -/
inductive AccessFault where
  /-- An object has no member of this name. -/
  | missingMember (name : Text)
  /-- An object is asked for an item by position. -/
  | missingPosition
  | noItem
  | noCharacter
  | notIndexable (kind : Kind)
  | nameOfText
  | nameOfArray
  | notObject (kind : Kind) (operation : Text)
  | notIterable (kind : Kind)
  | notSpreadable (kind : Kind)
  | notSearchable (kind : Kind)
  | noSize (kind : Kind)
  | noKey (kind : Kind)
  | notOrdered (left right : Kind)
  | notText
deriving DecidableEq

/-- How an access can fail: by a name, by a position, by a kind that lacks an operation, or by a kind
that an operation refuses. -/
inductive AccessFault.Category where
  | name
  | position
  | operation
  | kind
deriving DecidableEq, Repr

def AccessFault.category : AccessFault → AccessFault.Category
  | .missingMember _ | .missingPosition => .name
  | .noItem | .noCharacter => .position
  | .notObject .. => .operation
  | _ => .kind

def AccessFault.message : AccessFault → Text
  | .missingMember name => Text.quoted name
  | .missingPosition => "0"
  | .noItem => "list index out of range"
  | .noCharacter => "string index out of range"
  | .notIndexable kind =>
      Text.ofString "'" ++ kind.name ++ Text.ofString "' object is not subscriptable"
  | .nameOfText => "string indices must be integers, not 'str'"
  | .nameOfArray => "list indices must be integers or slices, not str"
  | .notObject kind operation =>
      Text.ofString "'" ++ kind.name ++ Text.ofString "' object has no attribute '" ++ operation
        ++ Text.ofString "'"
  | .notIterable kind =>
      Text.ofString "'" ++ kind.name ++ Text.ofString "' object is not iterable"
  | .notSpreadable kind =>
      Text.ofString "Value after * must be an iterable, not " ++ kind.name
  | .notSearchable kind =>
      Text.ofString "argument of type '" ++ kind.name ++ Text.ofString "' is not iterable"
  | .noSize kind =>
      Text.ofString "object of type '" ++ kind.name ++ Text.ofString "' has no len()"
  | .noKey kind =>
      Text.ofString "unhashable type: '" ++ kind.name ++ Text.ofString "'"
  | .notOrdered left right =>
      Text.ofString "'<' not supported between instances of '" ++ left.name
        ++ Text.ofString "' and '" ++ right.name ++ Text.ofString "'"
  | .notText => "Only str or Text can be appended to Text"

/-- The member under a name, which must be there. -/
def member (name : String) (value : Json) : Except AccessFault Json :=
  match value with
  | .object members =>
      match Entries.find? (Text.ofString name) members with
      | some found => .ok found
      | none => .error (.missingMember (Text.ofString name))
  | .text _ => .error .nameOfText
  | .array _ => .error .nameOfArray
  | value => .error (.notIndexable value.kind)

/-- The member under a name, or a default. -/
def memberD (name : String) (value default : Json) : Except AccessFault Json :=
  match value with
  | .object members => .ok ((Entries.find? (Text.ofString name) members).getD default)
  | value => .error (.notObject value.kind (Text.ofString "get"))

/-- The first item, which must be there. -/
def firstItem : Json → Except AccessFault Json
  | .array (item :: _) => .ok item
  | .array [] => .error .noItem
  | .text (c :: _) => .ok (.text [c])
  | .text [] => .error .noCharacter
  | .object _ => .error .missingPosition
  | value => .error (.notIndexable value.kind)

/-- The items that a value consists of: those of an array, the names of an object, the characters of
a text. -/
def parts? : Json → Option (List Json)
  | .array items => some items
  | .object members => some (members.map fun entry => .text entry.1)
  | .text value => some (value.map fun c => .text [c])
  | _ => none

/-- The items that a value consists of, one after the other. -/
def iterate (value : Json) : Except AccessFault (List Json) :=
  match value.parts? with
  | some items => .ok items
  | none => .error (.notIterable value.kind)

/-- How many items a value consists of. -/
def size (value : Json) : Except AccessFault Nat :=
  match value.parts? with
  | some items => .ok items.length
  | none => .error (.noSize value.kind)

/-- Empty values, zeros, null and false count as false. -/
def isTruthy : Json → Bool
  | .null => false
  | .bool value => value
  | .int value => value ≠ 0
  | .real value => !value.isZero
  | .text value => !value.isEmpty
  | .array items => !items.isEmpty
  | .object members => !members.isEmpty

/-- Arrays and objects cannot be looked up in a table. -/
def checkKey (value : Json) : Except AccessFault Unit :=
  match value with
  | .array _ | .object _ => .error (.noKey value.kind)
  | _ => .ok ()

end Findings.Json
