import BundleMarkup.Markup.Token

/-!
# Lexemes

A lexeme is a token with the byte offsets at which it starts and stops.  Scanning a text gives its
lexemes in order, up to the end of the text or to the first place where no token can be taken.
-/

namespace BundleMarkup

/-- A token and where it is written. -/
structure Lexeme where
  token : Token
  /-- Offset of its first byte. -/
  start : Nat
  /-- Offset after its last byte. -/
  stop : Nat
  deriving DecidableEq, Repr

/-- The lexemes of a text, and what ended them early. -/
structure Scan where
  lexemes : List Lexeme
  /-- The fault of the text that follows the lexemes, with its offset. -/
  fault : Option (TokenFault × Nat)
  deriving DecidableEq, Repr

namespace Scan

/-- Scan a text whose first byte has a given offset. -/
def ofTextFrom (start : Nat) (input : List Char) : Scan :=
  match input with
  | [] => ⟨[], none⟩
  | char :: others =>
      match _taken : Token.next (char :: others) with
      | .error fault => ⟨[], some (fault, start + fault.offset)⟩
      | .ok (token, rest) =>
          let stop := start + token.size
          let later := ofTextFrom stop rest
          ⟨⟨token, start, stop⟩ :: later.lexemes, later.fault⟩
termination_by input.length
decreasing_by exact Token.length_lt_of_next _taken (by simp)

def byteOrderMark : Char := '\ufeff'

/-- A text without the byte-order mark at its start. -/
def withoutMark : List Char → List Char
  | [] => []
  | char :: rest => if char = byteOrderMark then rest else char :: rest

/-- Scan a text; a byte-order mark at its start is passed over and not counted. -/
def ofText (input : List Char) : Scan := ofTextFrom 0 (withoutMark input)

end Scan
end BundleMarkup
