import BundleMarkup.Bundle.AttributeRule

/-!
# Attributes on host elements

The extension's attributes on one host element are judged together, so that a mistake in any of
them suppresses the rows of the others.  Only a host `Variable` may bear them: `Overridable` lets a
command line override the variable of the element's `Name`.
-/

namespace BundleMarkup
namespace HostAttributes

/-- The name of the variable that a host element declares. -/
def variableName? (parent : Element) : Option String :=
  (parent.attribute? "Name").map Attribute.value

/-- What is wrong with an attribute on a host `Variable`. -/
def problem? (parent : Element) (attr : Attribute) : Option Diagnostic :=
  match variableName? parent with
  | none => some (Message.expectedParentWithAttribute parent attr "Name")
  | some _ =>
      match HostAttributeKind.named? attr.name.localName with
      | some .overridable => (ValueKind.yesNo.read parent attr).2
      | none => some (Message.unexpectedAttribute parent attr)

/-- Whether the last `Overridable` among the attributes says yes. -/
def isOverridable (parent : Element) (attributes : List Attribute) : Bool :=
  let answers := attributes.filter fun attr =>
    HostAttributeKind.named? attr.name.localName = some .overridable
  match answers.getLast? with
  | some attr => (ValueKind.yesNo.read parent attr).1 = .yesNo .yes
  | none => false

/-- The columns of a variable that may be overridden. -/
def fillings (parent : Element) (attributes : List Attribute) : List Filling :=
  match variableName? parent with
  | some name =>
      if isOverridable parent attributes then [⟨.overridable, [(0, .text name)]⟩] else []
  | none => []

/-- The row of a variable that may be overridden. -/
def rows (parent : Element) (attributes : List Attribute) : List Row :=
  Filling.rows (fillings parent attributes) parent.span

/-- Judge the extension's attributes on a host element. -/
def judge (policy : WarningPolicy) (parent : Element) (attributes : List Attribute) : Outcome :=
  let scope := Scope.start parent policy
  match HostKind.named? parent.localName with
  | some .hostVariable =>
      (scope.reportAll (attributes.filterMap (problem? parent))).finish
        fun _ => rows parent attributes
  | _ =>
      (scope.reportAll (attributes.map (Message.unexpectedAttribute parent))).finish fun _ => []

end HostAttributes
end BundleMarkup
