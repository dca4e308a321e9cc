import BundleMarkup.Bundle.AttributeRule

/-!
# Validators

Elements of the extension differ in their attributes, in what is demanded beyond them and in the
rows they give; in all else they are judged alike.
-/

namespace BundleMarkup

/-- What is particular to an element of the extension. -/
structure Validator where
  /-- The attributes that the element may have. -/
  rule : ElementRule
  /-- What is reported after the attributes. -/
  beforeChildren : Element → CollectedAttributes → List Diagnostic := fun _ _ => []
  /-- What is reported after the children. -/
  afterChildren : Element → CollectedAttributes → List Diagnostic := fun _ _ => []
  /-- The columns that an element without errors fills. -/
  fillings : Element → CollectedAttributes → List Filling

namespace Validator

/-- The rows of an element without errors. -/
def rows (validator : Validator) (element : Element) (values : CollectedAttributes) : List Row :=
  Filling.rows (validator.fillings element values) element.span

/-- The variables of the linker that take the texts of attributes, in the listed order. -/
def linkFillings (names : List (String × String)) (values : CollectedAttributes) :
    List Filling :=
  names.filterMap fun (attrName, id) =>
    (values.text? attrName).map fun value => .linkVariable id value

end Validator
end BundleMarkup
