import BundleMarkup.Text.Bytes

/-!
# References

In text and attribute values `&name;` stands for a character.  Five names are known and every other
character is written by its number, in decimal as `&#65;` or in hexadecimal as `&#x41;`.
-/

namespace BundleMarkup

/-- Why the number of a character reference is refused. -/
inductive CharacterFault
  /-- The number starts with a sign. -/
  | sign
  | noDigits
  | invalidDigit
  /-- The number does not fit 32 bits. -/
  | tooLarge
  | zero
  /-- The number belongs to no character. -/
  | noCharacter (code : Nat)
  deriving DecidableEq, Repr

def CharacterFault.message : CharacterFault → String
  | sign => "unexpected number sign"
  | noDigits => "cannot parse integer from empty string"
  | invalidDigit => "invalid digit found in string"
  | tooLarge => "number too large to fit in target type"
  | zero => "0x0 character is not permitted in XML"
  | noCharacter code => s!"`{code}` is not a valid codepoint"

/-- Why a run of text with references cannot be read; offsets count from the start of the run. -/
inductive ReferenceFault
  /-- The name between the offsets is not known. -/
  | unknownName (start stop : Nat) (name : String)
  /-- The reference that starts at an offset is not ended within the run's size. -/
  | unterminated (start size : Nat)
  /-- The number of a character reference is refused. -/
  | badNumber (fault : CharacterFault)
  deriving DecidableEq, Repr

def ReferenceFault.message : ReferenceFault → String
  | unknownName start stop name => s!"at {start}..{stop}: unrecognized entity `{name}`"
  | unterminated start size =>
      s!"Error while escaping character at range {start}..{size}: Cannot find ';' after '&'"
  | badNumber fault => s!"invalid character reference: {fault.message}"

namespace Reference

/-- The value of a digit in a radix. -/
def digit? (radix : Nat) (char : Char) : Option Nat :=
  let value? :=
    if '0' ≤ char ∧ char ≤ '9' then some (char.toNat - '0'.toNat)
    else if 'a' ≤ char ∧ char ≤ 'f' then some (char.toNat - 'a'.toNat + 10)
    else if 'A' ≤ char ∧ char ≤ 'F' then some (char.toNat - 'A'.toNat + 10)
    else none
  value?.filter (· < radix)

/-- Read digits after those that gave `value`. -/
def readDigits (radix value : Nat) : List Char → Except CharacterFault Nat
  | [] => .ok value
  | char :: rest =>
      match digit? radix char with
      | none => .error .invalidDigit
      | some digit =>
          if 0x100000000 ≤ value * radix + digit then
            .error .tooLarge
          else
            readDigits radix (value * radix + digit) rest

/-- Read a number without a sign. -/
def readNumber (radix : Nat) : List Char → Except CharacterFault Nat
  | [] => .error .noDigits
  | char :: rest =>
      if char = '+' ∨ char = '-' then .error .sign else readDigits radix 0 (char :: rest)

/-- The character of a number. -/
def characterOf (code : Nat) : Except CharacterFault Char :=
  if code = 0 then .error .zero
  else if code.isValidChar then .ok (Char.ofNat code)
  else .error (.noCharacter code)

/-- The character that a number stands for, written in decimal or after an `x` in hexadecimal. -/
def readCharacter : List Char → Except CharacterFault Char
  | 'x' :: digits => readNumber 16 digits >>= characterOf
  | digits => readNumber 10 digits >>= characterOf

def named? (name : List Char) : Option Char :=
  match String.ofList name with
  | "lt" => some '<'
  | "gt" => some '>'
  | "amp" => some '&'
  | "apos" => some '\''
  | "quot" => some '"'
  | _ => none

/-- The character that the reference with a given inside stands for, at an offset of its run. -/
def resolve (offset : Nat) (inside : List Char) : Except ReferenceFault Char :=
  match inside with
  | '#' :: number =>
      match readCharacter number with
      | .ok char => .ok char
      | .error fault => .error (.badNumber fault)
  | name =>
      match named? name with
      | some char => .ok char
      | none =>
          .error (.unknownName offset (offset + Text.byteLength name) (String.ofList name))

/-- Whether a character may stand inside a reference: it neither ends one nor starts another. -/
def isInside (char : Char) : Bool := char ≠ '&' && char ≠ ';'

/-- Replace the references of a run of `size` bytes from an offset on. -/
def decodeFrom (size offset : Nat) (text : List Char) : Except ReferenceFault (List Char) :=
  match text with
  | [] => .ok []
  | char :: rest =>
      if char = '&' then
        let inside := rest.takeWhile isInside
        match _shorter : rest.dropWhile isInside with
        | ';' :: after => do
            let value ← resolve (offset + 1) inside
            let decoded ← decodeFrom size (offset + 2 + Text.byteLength inside) after
            return value :: decoded
        | _ => .error (.unterminated offset size)
      else do
        let decoded ← decodeFrom size (offset + char.utf8Size) rest
        return char :: decoded
termination_by text.length
decreasing_by
  · have := (List.dropWhile_suffix isInside (l := rest)).length_le
    simp_all
    omega
  · simp

/-- Replace the references of a run of text. -/
def decode (text : List Char) : Except ReferenceFault (List Char) :=
  decodeFrom (Text.byteLength text) 0 text

end Reference
end BundleMarkup
