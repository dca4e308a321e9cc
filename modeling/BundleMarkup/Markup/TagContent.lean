import BundleMarkup.Markup.Token

/-!
# The inside of a tag

Between its brackets a tag holds a name and attributes.  Attributes are read one after another:
those before the first mistake are kept along with the mistake.  Offsets count from the start of
the inside.
-/

namespace BundleMarkup

/-- An attribute as it is written. -/
structure RawAttribute where
  key : List Char
  keyStart : Nat
  /-- What stands between the quotes. -/
  value : List Char
  deriving DecidableEq, Repr

/-- What is wrong with a written attribute. -/
inductive AttributeFault
  | missingEquals (position : Nat)
  | missingValue (position : Nat)
  | unquotedValue (position : Nat)
  /-- The value's quote is not repeated. -/
  | unclosedValue (position : Nat) (quote : Char)
  /-- An earlier attribute has the same name. -/
  | repeatedKey (position previous : Nat)
  deriving DecidableEq, Repr

namespace AttributeFault

/-- Where the fault is. -/
def position : AttributeFault → Nat
  | missingEquals position => position
  | missingValue position => position
  | unquotedValue position => position
  | unclosedValue position _ => position
  | repeatedKey position _ => position

/-- What the fault is. -/
def reason : AttributeFault → String
  | missingEquals _ => "attribute key must be directly followed by `=` or space"
  | missingValue _ => "`=` must be followed by an attribute value"
  | unquotedValue _ => "attribute value must be enclosed in `\"` or `'`"
  | unclosedValue _ quote => s!"missing closing quote `{quote}` in attribute value"
  | repeatedKey _ previous =>
      s!"duplicated attribute, previous declaration at position {previous}"

def message (fault : AttributeFault) : String :=
  s!"Attribute error: position {fault.position}: {fault.reason}"

end AttributeFault

namespace RawAttribute

/-- Whether a character after a name's first continues the name. -/
def isKey (char : Char) : Bool := char ≠ '=' && !Token.isSpace char

/-- Whether a character is a quote that can enclose a value. -/
def isQuote (char : Char) : Bool := char = '"' || char = '\''

/-- Take the quoted value that follows an equals sign, with the offset after it. -/
def takeValue (position : Nat) (input : List Char) :
    Except AttributeFault (List Char × Nat × List Char) :=
  let start := position + (input.takeWhile Token.isSpace).length
  match input.dropWhile Token.isSpace with
  | [] => .error (.missingValue start)
  | quote :: inside =>
      if isQuote quote then
        let value := inside.takeWhile (· ≠ quote)
        let stop := start + 1 + Text.byteLength value
        match inside.dropWhile (· ≠ quote) with
        | [] => .error (.unclosedValue stop quote)
        | _ :: rest => .ok (value, stop + 1, rest)
      else
        .error (.unquotedValue start)

/-- Take the equals sign that follows a name, with the offset after it. -/
def takeEquals (position : Nat) (input : List Char) : Except AttributeFault (Nat × List Char) :=
  let start := position + (input.takeWhile Token.isSpace).length
  match input.dropWhile Token.isSpace with
  | [] => .error (.missingEquals start)
  | char :: rest =>
      if char = '=' then .ok (start + 1, rest) else .error (.missingEquals start)

/-- Take an attribute whose name starts with `first`, after those `seen`. -/
def take (position : Nat) (seen : List RawAttribute) (first : Char) (others : List Char) :
    Except AttributeFault (RawAttribute × Nat × List Char) := do
  let key := first :: others.takeWhile isKey
  let (valuePosition, afterEquals) ←
    takeEquals (position + Text.byteLength key) (others.dropWhile isKey)
  match seen.find? (·.key == key) with
  | some previous => .error (.repeatedKey position previous.keyStart)
  | none =>
      let (value, stop, rest) ← takeValue valuePosition afterEquals
      return (⟨key, position, value⟩, stop, rest)

theorem length_le_of_takeValue {position stop : Nat} {input value rest : List Char}
    (taken : takeValue position input = .ok (value, stop, rest)) : rest.length ≤ input.length := by
  simp only [takeValue] at taken
  have := (List.dropWhile_suffix Token.isSpace (l := input)).length_le
  split at taken
  · simp at taken
  · rename_i quote inside opens
    split at taken
    · have := (List.dropWhile_suffix (· ≠ quote) (l := inside)).length_le
      split at taken <;> simp_all
      omega
    · simp at taken

theorem length_le_of_takeEquals {position stop : Nat} {input rest : List Char}
    (taken : takeEquals position input = .ok (stop, rest)) : rest.length ≤ input.length := by
  simp only [takeEquals] at taken
  have := (List.dropWhile_suffix Token.isSpace (l := input)).length_le
  split at taken
  · simp at taken
  · split at taken <;> simp_all
    omega

/-- An attribute leaves less text than it was taken off. -/
theorem length_le_of_take {position stop : Nat} {seen : List RawAttribute} {first : Char}
    {others rest : List Char} {attr : RawAttribute}
    (taken : take position seen first others = .ok (attr, stop, rest)) :
    rest.length ≤ others.length := by
  simp only [take, bind, Except.bind] at taken
  have := (List.dropWhile_suffix isKey (l := others)).length_le
  split at taken
  · simp at taken
  · rename_i found
    have := length_le_of_takeEquals found
    split at taken
    · simp at taken
    · split at taken
      · simp at taken
      · rename_i value
        have := length_le_of_takeValue value
        simp only [pure, Except.pure, Except.ok.injEq, Prod.mk.injEq] at taken
        obtain ⟨_, _, rfl⟩ := taken
        omega

/-- Read the attributes that follow an offset, after those `seen`. -/
def readFrom (position : Nat) (seen : List RawAttribute) (input : List Char) :
    List RawAttribute × Option AttributeFault :=
  match _start : input.dropWhile Token.isSpace with
  | [] => ([], none)
  | first :: others =>
      match _taken :
          take (position + (input.takeWhile Token.isSpace).length) seen first others with
      | .error fault => ([], some fault)
      | .ok (attr, stop, rest) =>
          let (later, fault) := readFrom stop (seen ++ [attr]) rest
          (attr :: later, fault)
termination_by input.length
decreasing_by
  have := length_le_of_take _taken
  have := (List.dropWhile_suffix Token.isSpace (l := input)).length_le
  simp_all
  omega

end RawAttribute

/-- The inside of a tag, taken apart. -/
structure TagContent where
  /-- The written name of the tag. -/
  name : List Char
  /-- The attributes before the first mistake. -/
  attributes : List RawAttribute
  /-- The first mistake. -/
  fault : Option AttributeFault
  deriving DecidableEq, Repr

namespace TagContent

/-- Whether a character belongs to the name at the start of a tag. -/
def isName (char : Char) : Bool := !Token.isSpace char

/-- The written name at the start of a tag. -/
def nameOf (content : List Char) : List Char := content.takeWhile isName

/-- Take the inside of a tag apart. -/
def ofContent (content : List Char) : TagContent :=
  let (attributes, fault) :=
    RawAttribute.readFrom (Text.byteLength (nameOf content)) [] (content.dropWhile isName)
  ⟨nameOf content, attributes, fault⟩

end TagContent

/-- Where an attribute stands in its tag. -/
structure AttributePlace where
  nameStart : Nat
  nameStop : Nat
  /-- Where the opening quote is. -/
  valueStart : Nat
  /-- Where the value ends, after its closing quote. -/
  valueStop : Nat
  deriving DecidableEq, Repr

namespace AttributePlace

/-- White space between the parts of an attribute. -/
def isGap (char : Char) : Bool := Token.isSpace char || char = '\x0c'

/-- The offset after the gap at an offset, and the text there. -/
def skipGap (position : Nat) (input : List Char) : Nat × List Char :=
  (position + (input.takeWhile isGap).length, input.dropWhile isGap)

/-- The offset after an equals sign at an offset, and the text there. -/
def skipEquals (position : Nat) (input : List Char) : Nat × List Char :=
  match input with
  | [] => (position, input)
  | char :: rest => if char = '=' then (position + 1, rest) else (position, input)

/-- The extent of the quoted value after a name that ends at an offset. -/
def findValue (position : Nat) (input : List Char) : Option (Nat × Nat) :=
  let (equalsAt, fromEquals) := skipGap position input
  let (gapAt, fromGap) := skipEquals equalsAt fromEquals
  let (valueAt, fromValue) := skipGap gapAt fromGap
  match fromValue with
  | [] => none
  | quote :: inside =>
      if RawAttribute.isQuote quote then
        match Token.breakAt [quote] inside with
        | some (value, _) => some (valueAt, valueAt + 2 + Text.byteLength value)
        | none => some (valueAt, valueAt + 1 + Text.byteLength inside)
      else
        none

/-- Find an attribute of a given name in the inside of a tag, searching from an offset. -/
def find (content : List Char) (cursor : Nat) (key : List Char) : AttributePlace :=
  match (Text.dropBytes? cursor content).bind (Token.breakAt key) with
  | none => ⟨cursor, cursor, cursor, cursor⟩
  | some (front, after) =>
      let nameStart := cursor + Text.byteLength front
      let nameStop := nameStart + Text.byteLength key
      let (valueStart, valueStop) := (findValue nameStop after).getD (nameStart, nameStop)
      ⟨nameStart, nameStop, valueStart, valueStop⟩

end AttributePlace
end BundleMarkup
