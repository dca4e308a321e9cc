import BundleMarkup.Markup.Error
import BundleMarkup.Markup.Reference
import BundleMarkup.Markup.TagContent

/-!
# Malformed markup

The ways in which a text breaks the rules of markup, with their messages.  Offsets count the bytes
of the text after its byte-order mark.
-/

namespace BundleMarkup

/-- A breach of the rules of markup. -/
inductive Malformation
  /-- No token can be taken. -/
  | token (fault : TokenFault) (position : Nat)
  /-- An end tag at an offset has another name than the open element. -/
  | otherEnd (expected found : String) (position : Nat)
  /-- An end tag at an offset closes nothing. -/
  | strayEnd (found : String) (position : Nat)
  /-- A tag's attributes cannot be read. -/
  | attributes (fault : AttributeFault)
  /-- A value in the tag at an offset has a reference that cannot be read. -/
  | value (fault : ReferenceFault) (position : Nat)
  /-- The text at an offset has a reference that cannot be read. -/
  | text (fault : ReferenceFault) (position : Nat)
  deriving DecidableEq, Repr

namespace Malformation

def message : Malformation → String
  | token fault _ => fault.message
  | otherEnd expected found _ =>
      s!"ill-formed document: expected `</{expected}>`, but `</{found}>` was found"
  | strayEnd found _ =>
      s!"ill-formed document: close tag `</{found}>` does not match any open tag"
  | attributes fault => fault.message
  | value fault _ => s!"Invalid attribute value: {fault.message}"
  | text fault _ => s!"Invalid text content: {fault.message}"

/-- Where it is wrong, as far as this is told. -/
def position : Malformation → Option Nat
  | token _ position => some position
  | otherEnd _ _ position => some position
  | strayEnd _ position => some position
  | attributes _ => none
  | value _ position => some position
  | text _ position => some position

/-- The error that a breach of the rules is. -/
def error (malformation : Malformation) : MarkupError :=
  .malformed malformation.message malformation.position

end Malformation
end BundleMarkup
