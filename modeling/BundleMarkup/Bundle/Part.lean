import BundleMarkup.Bundle.Output

/-!
# Parts of a document

Outside the extension's elements a document is host markup.  What concerns extensions in it falls
into parts: a foreign attribute, the extension's attributes on one element, an element of the
extension with all it contains, a foreign element.  They can be listed without judging any, and be
judged one by one.
-/

namespace BundleMarkup

/-- A piece of host markup that is judged on its own. -/
inductive Part
  /-- An attribute of another extension on a host element. -/
  | foreignAttribute (host : Element) (attr : Attribute)
  /-- All attributes of the extension on a host element. -/
  | ownAttributes (host : Element) (attributes : List Attribute)
  /-- An element of the extension under a host element. -/
  | ownElement (host element : Element)
  /-- An element of another extension under a host element. -/
  | foreignElement (host element : Element)

namespace Part

/-- The part that a foreign attribute on a host element is. -/
def ofAttribute? (host : Element) (attr : Attribute) : Option Part :=
  if isForeignMarkup attr.name.namespaceUri then some (.foreignAttribute host attr) else none

/-- The part that the extension's attributes on a host element are, if there are any. -/
def ofOwnAttributes (host : Element) : List Part :=
  if host.ownAttributes.isEmpty then [] else [.ownAttributes host host.ownAttributes]

/-- The parts made of a host element's attributes: foreign ones, then the extension's. -/
def ofAttributes (host : Element) : List Part :=
  host.attributes.filterMap (ofAttribute? host) ++ ofOwnAttributes host

mutual

/-- The parts of a host element, in document order. -/
def ofHost (host : Element) : List Part :=
  ofAttributes host ++ ofChildren host host.childElements
termination_by sizeOf host
decreasing_by exact Element.sizeOf_childElements_lt host

/-- The parts of children of a host element. -/
def ofChildren (host : Element) : List Element → List Part
  | [] => []
  | child :: rest =>
      let uri := child.name.namespaceUri
      let parts :=
        if uri = ownNamespace then [.ownElement host child]
        else if isHostMarkup uri then ofHost child
        else [.foreignElement host child]
      parts ++ ofChildren host rest
termination_by children => sizeOf children

end

/-- Judge a part. -/
def judge {σ : Type} (session : Session σ) : Part → Outcome × Session σ
  | .foreignAttribute host attr => session.delegateAttribute host attr
  | .ownAttributes host attributes => session.judgeAttributes host attributes
  | .ownElement host element => session.judgeElement host element
  | .foreignElement host element => session.delegateElement host element

/-- Judge parts one after another. -/
def judgeAll {σ : Type} (session : Session σ) : List Part → List Outcome × Session σ
  | [] => ([], session)
  | part :: rest =>
      let (outcome, session) := part.judge session
      let (later, session) := judgeAll session rest
      (outcome :: later, session)

end Part
end BundleMarkup
