import BundleMarkup.Markup.Tree
import BundleMarkup.Text.Run

/-!
# Bindings of qualifiers

A qualifier stands for the namespace of the innermost declaration that binds it.  On one element
the last such declaration counts.  The qualifier `xml` is always bound, an unqualified element is
in the default namespace and an unqualified attribute in none.
-/

namespace BundleMarkup

/-- What bears a name. -/
inductive Bearer
  | element
  | attr
  deriving DecidableEq, Repr

namespace Binding

/-- Split a written name at its first colon. -/
def splitName (written : List Char) : Option String × String :=
  match written.dropWhile (· ≠ ':') with
  | [] => (none, String.ofList written)
  | _ :: localName =>
      (some (String.ofList (written.takeWhile (· ≠ ':'))), String.ofList localName)

/-- The declaration of a qualifier among those of the elements around, innermost first. -/
def declaration? (frames : List (List Declaration)) (qualifier : Option String) :
    Option Declaration :=
  (frames.flatMap List.reverse).find? (·.qualifier == qualifier)

/-- The namespace that a qualifier gives its bearer; fails with a qualifier that is not bound. -/
def resolve (frames : List (List Declaration)) (bearer : Bearer) (qualifier : Option String) :
    Except String (Option String) :=
  if qualifier.isNone && bearer = .attr then
    .ok none
  else if qualifier = some "xml" then
    .ok (some xmlNamespace)
  else
    match declaration? frames qualifier, qualifier with
    | some declaration, _ =>
        if declaration.uri.isEmpty then .ok none else .ok (some declaration.uri)
    | none, none => .ok none
    | none, some unbound => .error unbound

theorem splitName_of_not_mem {written : List Char} (uncut : ':' ∉ written) :
    splitName written = (none, String.ofList written) := by
  have back : (written ++ []).dropWhile (· ≠ ':') = ([] : List Char).dropWhile (· ≠ ':') :=
    List.dropWhile_append_of_pos (Text.unlike_of_not_mem uncut)
  rw [List.append_nil, List.dropWhile_nil] at back
  rw [splitName, back]

theorem splitName_append {qualifier : List Char} (uncut : ':' ∉ qualifier)
    (localName : List Char) :
    splitName (qualifier ++ ':' :: localName) =
      (some (String.ofList qualifier), String.ofList localName) := by
  have front := Text.takeWhile_run ':' (Text.unlike_of_not_mem uncut) rfl localName
  have back := Text.dropWhile_run ':' (Text.unlike_of_not_mem uncut) rfl localName
  rw [splitName, back, front]

end Binding
end BundleMarkup
