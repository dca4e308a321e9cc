import BundleMarkup.Toml.Value

/-!
# Scalars of configuration values

A scalar is written without quotes: a truth value, a number, a date or a time.  Digits of a number
may be separated by underscores.
-/

namespace BundleMarkup
namespace Toml

/-- Whether a character may stand in a scalar. -/
def isScalar (char : Char) : Bool :=
  char.isAlphanum || char = '+' || char = '-' || char = '_' || char = '.' || char = ':'

/-- The digits of a number, where an underscore may stand between two of them. -/
def digits? (isDigit : Char → Bool) (afterDigit : Bool) : List Char → Option (List Char)
  | [] => if afterDigit then some [] else none
  | char :: rest =>
      if char = '_' then
        if afterDigit then digits? isDigit false rest else none
      else if isDigit char then
        (digits? isDigit true rest).map (char :: ·)
      else
        none

/-- The value of digits in a radix, none of them larger than the radix allows. -/
def valueOf (radix : Nat) (digits : List Char) : Nat :=
  digits.foldl
    (fun value digit =>
      let units :=
        if digit.isDigit then digit.toNat - '0'.toNat else digit.toLower.toNat - 'a'.toNat + 10
      value * radix + units) 0

/-- Whether a character is a hexadecimal digit. -/
def isHexDigit (char : Char) : Bool :=
  char.isDigit || ('a' ≤ char.toLower && char.toLower ≤ 'f')

/-- Split off the sign of a number, true for a minus. -/
def splitSign : List Char → Bool × List Char
  | '+' :: rest => (false, rest)
  | '-' :: rest => (true, rest)
  | input => (false, input)

/-- The digits of a whole number in decimal, which has no zero in front of other digits. -/
def wholeDigits? (input : List Char) : Option (List Char) := do
  let digits ← digits? Char.isDigit false input
  if digits.length ≠ 1 && digits.head? = some '0' then none else some digits

/-- A number if it fits 64 bits with a sign. -/
def fitting? (value : Int) : Option Int :=
  if -0x8000000000000000 ≤ value ∧ value ≤ 0x7fffffffffffffff then some value else none

/-- Read a whole number. -/
def integer? (input : List Char) : Option Int :=
  match input with
  | '0' :: 'x' :: rest => do fitting? (valueOf 16 (← digits? isHexDigit false rest))
  | '0' :: 'o' :: rest => do
      fitting? (valueOf 8 (← digits? (fun char => '0' ≤ char && char ≤ '7') false rest))
  | '0' :: 'b' :: rest => do
      fitting? (valueOf 2 (← digits? (fun char => char = '0' || char = '1') false rest))
  | _ => do
      let (isNegative, body) := splitSign input
      let value : Int := valueOf 10 (← wholeDigits? body)
      fitting? (if isNegative then -value else value)

/-- Read the exponent of a number, without its mark. -/
def exponent? (input : List Char) : Option Int := do
  let (isNegative, body) := splitSign input
  let value : Int := valueOf 10 (← digits? Char.isDigit false body)
  return if isNegative then -value else value

/-- Whether a character marks an exponent. -/
def isExponentMark (char : Char) : Bool := char = 'e' || char = 'E'

/-- Read the fraction of a number and its exponent: the digits after the point and the exponent. -/
def fraction? (input : List Char) : Option (List Char × Int) :=
  match input with
  | [] => none
  | mark :: rest =>
      if isExponentMark mark then (exponent? rest).map fun power => ([], power)
      else if mark = '.' then do
        let digits ← digits? Char.isDigit false (rest.takeWhile (!isExponentMark ·))
        match rest.dropWhile (!isExponentMark ·) with
        | [] => some (digits, 0)
        | _ :: power => (exponent? power).map fun power => (digits, power)
      else none

/-- The number of a sign, digits and a power of ten; no positive number may be too large. -/
def rounded? (isNegative : Bool) (digits : List Char) (power : Int) : Option Real :=
  match BinaryNumber.ofDecimal? (valueOf 10 digits) power with
  | some size => some (.finite isNegative size)
  | none => if isNegative then some (.infinite true) else none

/-- Read a number with a fraction or an exponent. -/
def real? (input : List Char) : Option Real :=
  let (isNegative, body) := splitSign input
  if body = ['i', 'n', 'f'] then some (.infinite isNegative)
  else if body = ['n', 'a', 'n'] then some .undefined
  else do
    let isWhole (char : Char) : Bool := char ≠ '.' && !isExponentMark char
    let whole ← wholeDigits? (body.takeWhile isWhole)
    let (places, power) ← fraction? (body.dropWhile isWhole)
    rounded? isNegative (whole ++ places) (power - places.length)

/-- Read a number of a fixed count of digits within bounds. -/
def field? (count low high : Nat) (input : List Char) : Option (Nat × List Char) :=
  let digits := input.take count
  let value := valueOf 10 digits
  if digits.length = count && digits.all Char.isDigit && low ≤ value && value ≤ high then
    some (value, input.drop count)
  else
    none

/-- Read a given character. -/
def mark? (mark : Char) : List Char → Option (List Char)
  | [] => none
  | char :: rest => if char = mark then some rest else none

/-- Days in a month. -/
def daysIn (year month : Nat) : Nat :=
  if month = 2 then
    if year % 4 = 0 ∧ (year % 100 ≠ 0 ∨ year % 400 = 0) then 29 else 28
  else if month = 4 ∨ month = 6 ∨ month = 9 ∨ month = 11 then 30
  else 31

/-- What follows a date at the start of a text. -/
def afterDate? (input : List Char) : Option (List Char) := do
  let (year, rest) ← field? 4 0 9999 input
  let (month, rest) ← field? 2 1 12 (← mark? '-' rest)
  let (_, rest) ← field? 2 1 (daysIn year month) (← mark? '-' rest)
  return rest

/-- What follows a time at the start of a text. -/
def afterTime? (input : List Char) : Option (List Char) := do
  let (_, rest) ← field? 2 0 23 input
  let (_, rest) ← field? 2 0 59 (← mark? ':' rest)
  let (_, rest) ← field? 2 0 60 (← mark? ':' rest)
  match rest with
  | '.' :: places =>
      if (places.takeWhile Char.isDigit).isEmpty then none
      else some (places.dropWhile Char.isDigit)
  | _ => some rest

/-- Whether a text is the offset of a time zone, or nothing. -/
def isZone : List Char → Bool
  | [] => true
  | mark :: rest =>
      if mark = 'Z' || mark = 'z' then rest.isEmpty
      else if mark = '+' || mark = '-' then
        let after := do
          let (_, rest) ← field? 2 0 23 rest
          let (_, rest) ← field? 2 0 59 (← mark? ':' rest)
          return rest
        after = some []
      else false

/-- Whether a text is a time with or without a zone. -/
def isZonedTime (input : List Char) : Bool := (afterTime? input).any isZone

def isDate (input : List Char) : Bool := afterDate? input = some []

/-- Whether a text is a date, a time or both. -/
def isMoment (input : List Char) : Bool :=
  afterTime? input = some [] ||
    match afterDate? input with
    | some [] => true
    | some (mark :: rest) => (mark = 'T' || mark = 't') && isZonedTime rest
    | none => false

/-- The value of a scalar. -/
def scalar? (input : List Char) : Option Value :=
  if input = ['t', 'r', 'u', 'e'] then some (.boolean true)
  else if input = ['f', 'a', 'l', 's', 'e'] then some (.boolean false)
  else if isMoment input then some (.moment (String.ofList input))
  else
    match integer? input with
    | some value => some (.integer value)
    | none => (real? input).map .real

/-- Read a scalar at the start of a text; one space may stand between a date and a time. -/
def readScalar (input : List Char) : Option (Value × List Char) :=
  let written := input.takeWhile isScalar
  let rest := input.dropWhile isScalar
  match rest with
  | ' ' :: time =>
      if isDate written && time.head?.any Char.isDigit then
        let timeWritten := time.takeWhile isScalar
        if isZonedTime timeWritten then
          some (.moment (String.ofList (written ++ ' ' :: timeWritten)), time.dropWhile isScalar)
        else
          none
      else
        (scalar? written).map fun value => (value, rest)
  | _ => (scalar? written).map fun value => (value, rest)

end Toml
end BundleMarkup
