/-!
# Text of configuration values

Texts stand in double quotes, with escapes, or in single quotes, without.  Three quotes enclose
texts of several lines; a line break right after the opening is left out, and the closing quotes
may follow one or two quotes that belong to the text.
-/

namespace BundleMarkup
namespace Toml

/-- A value read from the start of a text, with the rest of the text. -/
abbrev Reading (α : Type) := Option (α × List Char)

/-- Put a character in front of a text that was read. -/
def Reading.push (char : Char) (reading : Reading (List Char)) : Reading (List Char) :=
  reading.map fun (text, rest) => (char :: text, rest)

/-- Put characters in front of a text that was read. -/
def Reading.pushAll (chars : List Char) (reading : Reading (List Char)) : Reading (List Char) :=
  reading.map fun (text, rest) => (chars ++ text, rest)

/-- Whether a character may stand in a text or a comment: a tab or no control character. -/
def isPlain (char : Char) : Bool :=
  char = '\t' || (' ' ≤ char && char ≤ '~') || '\u0080' ≤ char

/-- The value of a hexadecimal digit. -/
def hexDigit? (char : Char) : Option Nat :=
  if '0' ≤ char ∧ char ≤ '9' then some (char.toNat - '0'.toNat)
  else if 'a' ≤ char ∧ char ≤ 'f' then some (char.toNat - 'a'.toNat + 10)
  else if 'A' ≤ char ∧ char ≤ 'F' then some (char.toNat - 'A'.toNat + 10)
  else none

/-- The character that an escape of one letter stands for. -/
def escaped? (char : Char) : Option Char :=
  if char = 'b' then some '\x08'
  else if char = 't' then some '\t'
  else if char = 'n' then some '\n'
  else if char = 'f' then some '\x0c'
  else if char = 'r' then some '\r'
  else if char = '"' then some '"'
  else if char = '\\' then some '\\'
  else none

/-- Where in a text with escapes the reader is. -/
inductive TextState
  /-- Outside escapes, after a number of quotes in a row. -/
  | plain (quotes : Nat)
  | escape
  /-- In the number of a character, before one digit more than `left`. -/
  | code (left value : Nat)
  /-- After a backslash at the end of a line, before or after the line break. -/
  | lineEnd (isBroken : Bool)
  deriving DecidableEq, Repr

namespace TextState

/-- The state after a character that follows a backslash, with the character that is meant. -/
def afterEscape? (char : Char) : Option (Option Char × TextState) :=
  match escaped? char with
  | some meant => some (some meant, .plain 0)
  | none =>
      if char = 'u' then some (none, .code 3 0)
      else if char = 'U' then some (none, .code 7 0)
      else none

/-- The state after a digit of a character's number, with the character if it is complete. -/
def afterDigit? (left value : Nat) (char : Char) : Option (Option Char × TextState) := do
  let digit ← hexDigit? char
  let code := value * 16 + digit
  match left with
  | 0 => if code.isValidChar then some (some (Char.ofNat code), .plain 0) else none
  | left + 1 => some (none, .code left code)

end TextState

/-- Read a text in double quotes on one line, after its opening quote. -/
def readBasicFrom : TextState → List Char → Reading (List Char)
  | _, [] => none
  | .escape, char :: rest =>
      match TextState.afterEscape? char with
      | some (meant, state) => (readBasicFrom state rest).pushAll meant.toList
      | none => none
  | .code left value, char :: rest =>
      match TextState.afterDigit? left value char with
      | some (meant, state) => (readBasicFrom state rest).pushAll meant.toList
      | none => none
  | .lineEnd _, _ :: _ => none
  | .plain _, char :: rest =>
      if char = '"' then some ([], rest)
      else if char = '\\' then readBasicFrom .escape rest
      else if isPlain char then (readBasicFrom (.plain 0) rest).push char
      else none

/-- Read a text in single quotes on one line, after its opening quote. -/
def readLiteralFrom : List Char → Reading (List Char)
  | [] => none
  | char :: rest =>
      if char = '\'' then some ([], rest)
      else if isPlain char then (readLiteralFrom rest).push char
      else none

/-- Whether a character may stand in a text of several lines. -/
def isPlainOrBreak (char : Char) : Bool := isPlain char || char = '\n'

/-- Read a text of several lines in double quotes, after its opening quotes. -/
def readLongBasicFrom : TextState → List Char → Reading (List Char)
  | .plain quotes, [] => if 3 ≤ quotes then some (List.replicate (quotes - 3) '"', []) else none
  | _, [] => none
  | .escape, char :: rest =>
      if char = '\n' then readLongBasicFrom (.lineEnd true) rest
      else if char = ' ' ∨ char = '\t' then readLongBasicFrom (.lineEnd false) rest
      else
        match TextState.afterEscape? char with
        | some (meant, state) => (readLongBasicFrom state rest).pushAll meant.toList
        | none => none
  | .code left value, char :: rest =>
      match TextState.afterDigit? left value char with
      | some (meant, state) => (readLongBasicFrom state rest).pushAll meant.toList
      | none => none
  | .lineEnd isBroken, char :: rest =>
      if char = '\n' then readLongBasicFrom (.lineEnd true) rest
      else if char = ' ' ∨ char = '\t' then readLongBasicFrom (.lineEnd isBroken) rest
      else if !isBroken then none
      else if char = '"' then readLongBasicFrom (.plain 1) rest
      else if char = '\\' then readLongBasicFrom .escape rest
      else if isPlain char then (readLongBasicFrom (.plain 0) rest).push char
      else none
  | .plain quotes, char :: rest =>
      if char = '"' then
        if quotes = 4 then some (['"', '"'], rest)
        else readLongBasicFrom (.plain (quotes + 1)) rest
      else if 3 ≤ quotes then some (List.replicate (quotes - 3) '"', char :: rest)
      else
        let pending := List.replicate quotes '"'
        if char = '\\' then (readLongBasicFrom .escape rest).pushAll pending
        else if isPlainOrBreak char then
          (readLongBasicFrom (.plain 0) rest).pushAll (pending ++ [char])
        else none

/-- Read a text of several lines in single quotes, after its opening quotes and some more. -/
def readLongLiteralFrom (quotes : Nat) : List Char → Reading (List Char)
  | [] => if 3 ≤ quotes then some (List.replicate (quotes - 3) '\'', []) else none
  | char :: rest =>
      if char = '\'' then
        if quotes = 4 then some (['\'', '\''], rest)
        else readLongLiteralFrom (quotes + 1) rest
      else if 3 ≤ quotes then some (List.replicate (quotes - 3) '\'', char :: rest)
      else if isPlainOrBreak char then
        (readLongLiteralFrom 0 rest).pushAll (List.replicate quotes '\'' ++ [char])
      else none

/-- A text of several lines without the line break right after its opening. -/
def skipBreak : List Char → List Char
  | [] => []
  | char :: rest => if char = '\n' then rest else char :: rest

/-- Read a text on one line. -/
def readShortText : List Char → Reading (List Char)
  | '"' :: rest => readBasicFrom (.plain 0) rest
  | '\'' :: rest => readLiteralFrom rest
  | _ => none

/-- Read a text. -/
def readText : List Char → Reading (List Char)
  | '"' :: '"' :: '"' :: rest => readLongBasicFrom (.plain 0) (skipBreak rest)
  | '\'' :: '\'' :: '\'' :: rest => readLongLiteralFrom 0 (skipBreak rest)
  | input => readShortText input

end Toml
end BundleMarkup
