import BundleMarkup.Bundle.Validator
import BundleMarkup.Text.Blank

/-!
# Launch conditions

A `Condition` element holds an expression as its text and the message shown when it fails.
-/

namespace BundleMarkup
namespace LaunchCondition

/-- A tab or a line break as the space that stands for it in an expression. -/
def flatten (char : Char) : Char :=
  if char = '\t' ∨ char = '\r' ∨ char = '\n' then ' ' else char

/-- The expression in an element's text, without white space around it; none if nothing is left. -/
def expression? (element : Element) : Option String :=
  match Text.trim element.innerText.toList with
  | [] => none
  | char :: rest => some (String.ofList ((char :: rest).map flatten))

theorem expression?_congr {left right : Element}
    (same : Text.trim left.innerText.toList = Text.trim right.innerText.toList) :
    expression? left = expression? right := by
  rw [expression?, same, expression?]

def rule : ElementRule := { attributes := [{ name := "Message", kind := .nonEmptyText }] }

/-- A missing expression and a missing message, in this order. -/
def missing (element : Element) (values : CollectedAttributes) : List Diagnostic :=
  (if (expression? element).isNone then [Message.expectedCondition element] else []) ++
    (if values.isPresent "Message" then [] else [Message.expectedAttribute element "Message"])

/-- The columns of a condition. -/
def fillings (element : Element) (values : CollectedAttributes) : List Filling :=
  match expression? element, values.text? "Message" with
  | some expression, some message =>
      [⟨.condition, [(0, .text expression), (1, .text message)]⟩]
  | _, _ => []

def validator : Validator := { rule, beforeChildren := missing, fillings }

end LaunchCondition
end BundleMarkup
