import BundleMarkup.Word

/-!
# JSON values and records

The values of the machine-readable forms, and the access to records in them.  A record is written
as an object; it is also read from an array that lists the record's fields in order.  Members that
a record does not name are ignored.
-/

namespace BundleMarkup

/-- A JSON value. -/
inductive Json
  | null
  | bool (value : Bool)
  /-- A number written without a fraction. -/
  | integer (value : Int)
  /-- A number with `places` digits after the point, written as its digits. -/
  | decimal (digits : Int) (places : Nat)
  | string (value : String)
  | array (items : List Json)
  | object (members : List (String × Json))
  deriving Inhabited

namespace Json

/-- An index as a number. -/
def ofNat (value : Nat) : Json := .integer value

/-- Read an index: a whole number that is not negative and fits a machine word. -/
def nat? : Json → Option Nat
  | .integer (.ofNat value) => if value ≤ Word.largest then some value else none
  | _ => none

/-- Read a text. -/
def text? : Json → Option String
  | .string value => some value
  | _ => none

/-- Read a truth value. -/
def bool? : Json → Option Bool
  | .bool value => some value
  | _ => none

/-- Read a list whose items are all read by `item`. -/
def list? {α : Type} (item : Json → Option α) : Json → Option (List α)
  | .array items => items.mapM item
  | _ => none

/-- Read a value that may be `null`. -/
def nullable? {α : Type} (item : Json → Option α) : Json → Option (Option α)
  | .null => some none
  | value => (item value).map some

/-- A value or `null`. -/
def ofOption {α : Type} (item : α → Json) : Option α → Json
  | some value => item value
  | none => .null

/-- A list of texts. -/
def ofTexts (texts : List String) : Json := .array (texts.map .string)

/-- The members of an object, or no members for any other value. -/
def members : Json → List (String × Json)
  | .object members => members
  | _ => []

/-- The member of a name in a list of members. -/
def lookup (name : String) (members : List (String × Json)) : Option Json :=
  (members.find? (·.1 == name)).map (·.2)

/-- The members of a record with the given field names, written as an object or in field order. -/
def record? (names : List String) : Json → Option (List (String × Json))
  | .object members => some members
  | .array items => if items.length = names.length then some (names.zip items) else none
  | _ => none

/-- Read a field that has to be there. -/
def field? {α : Type} (name : String) (item : Json → Option α) (members : List (String × Json)) :
    Option α :=
  (lookup name members).bind item

/-- Read a field that may be missing or `null`. -/
def optionalField? {α : Type} (name : String) (item : Json → Option α)
    (members : List (String × Json)) : Option (Option α) :=
  match lookup name members with
  | some value => nullable? item value
  | none => some none

/-- Read a variant without content: its name alone, or its name with `null`. -/
def unitVariant? {α : Type} (named : String → Option α) : Json → Option α
  | .string name => named name
  | .object [(name, .null)] => named name
  | _ => none

/-- A member that is written only when there is a value. -/
def optionalMember {α : Type} (name : String) (item : α → Json) : Option α → List (String × Json)
  | some value => [(name, item value)]
  | none => []

end Json
end BundleMarkup
