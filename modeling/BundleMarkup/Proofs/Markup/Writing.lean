import BundleMarkup.Markup.Document
import Mathlib.Data.List.Chain

/-!
# Writing elements

An element is written as a start tag with its declarations and attributes, what stands inside it,
and an end tag; in texts and values the five characters that references have names for are written
as references.  An element can be written if reading has a chance to give it back: its names are
plain, bound to their namespaces and not repeated, and what stands inside is grouped as it is read.
-/

namespace BundleMarkup

def Attribute.withoutPlaces (attr : Attribute) : Attribute :=
  { attr with nameSpan := default, valueSpan := default }

mutual

/-- An element without the places of its parts. -/
def Element.withoutPlaces : Element → Element
  | ⟨name, _, attributes, declarations, children, _⟩ =>
      ⟨name, default, attributes.map Attribute.withoutPlaces, declarations,
        children.withoutPlaces, default⟩

def Children.withoutPlaces : Children → Children
  | .elements list => .elements (list.map Element.withoutPlaces)
  | .text content _ => .text content default
  | .mixed list => .mixed (list.map Node.withoutPlaces)
  | .empty => .empty

def Node.withoutPlaces : Node → Node
  | .element child => .element child.withoutPlaces
  | .text content _ => .text content default

end

namespace Name

/-- Whether a character is a letter, as all beyond ASCII are taken to be. -/
def isLetter (char : Char) : Bool := char.isAlpha || 128 ≤ char.toNat

/-- Whether a character may continue a plain name. -/
def continues (char : Char) : Bool :=
  isLetter char || char.isDigit || char = '.' || char = '-' || char = '_'

/-- Whether a text is a plain name: a letter and then letters, digits, points, dashes and lines. -/
def isPlain : List Char → Bool
  | [] => false
  | first :: rest => isLetter first && rest.all continues

/-- Whether a qualifier is absent, or plain and without a meaning of its own. -/
def isFreeQualifier : Option String → Bool
  | none => true
  | some qualifier => isPlain qualifier.toList && qualifier ≠ "xml" && qualifier ≠ "xmlns"

end Name

/-- The texts of the namespaces that qualifiers are bound to. -/
def Bindings := Option String → Option String

namespace Bindings

/-- Outside all elements nothing is bound. -/
def outside : Bindings := fun _ => none

/-- The bindings after a declaration. -/
def declare (bindings : Bindings) (declaration : Declaration) : Bindings :=
  fun qualifier =>
    if qualifier = declaration.qualifier then some declaration.uri else bindings qualifier

/-- The bindings inside an element that makes declarations. -/
def extend (bindings : Bindings) (declarations : List Declaration) : Bindings :=
  declarations.foldl declare bindings

/-- A name is in the namespace that the bindings give to its bearer. -/
inductive Gives (bindings : Bindings) : Bearer → Name → Prop
  /-- An unqualified attribute is in no namespace. -/
  | unqualified (localName : String) : Gives bindings .attr ⟨none, localName, none⟩
  /-- Where there is no default namespace, an unqualified element is in none. -/
  | noDefault (localName : String) (unbound : bindings none = none) :
      Gives bindings .element ⟨none, localName, none⟩
  /-- A qualified name or an element is in the namespace that its qualifier is bound to. -/
  | bound {bearer : Bearer} {qualifier : Option String} {uri : String} (localName : String)
      (asked : bearer = .element ∨ qualifier ≠ none) (binds : bindings qualifier = some uri)
      (nonempty : uri ≠ "") : Gives bindings bearer ⟨some uri, localName, qualifier⟩
  /-- A qualifier that is bound to the empty text gives no namespace. -/
  | unset {bearer : Bearer} {qualifier : Option String} (localName : String)
      (asked : bearer = .element ∨ qualifier ≠ none) (binds : bindings qualifier = some "") :
      Gives bindings bearer ⟨none, localName, qualifier⟩

end Bindings

/-- A name is plain and in the namespace that the bindings give to its bearer. -/
structure Name.IsWritable (bindings : Bindings) (bearer : Bearer) (name : Name) : Prop where
  /-- What is written after the colon is plain. -/
  localName : Name.isPlain name.localName.toList = true
  /-- What is written before the colon is plain and free. -/
  qualifier : Name.isFreeQualifier name.qualifier = true
  /-- The namespace is the one given. -/
  given : bindings.Gives bearer name

/-- Children are grouped as reading groups them. -/
def Children.AreGrouped : Children → Prop
  | .elements list => list ≠ []
  | .text content _ => content ≠ ""
  | .mixed list =>
      (∃ node ∈ list, node.isElement = true) ∧ (∃ node ∈ list, node.isElement = false) ∧
        (∀ node ∈ list, node.isBlank = false) ∧
        list.IsChain fun node next => node.isElement = true ∨ next.isElement = true
  | .empty => True

/-- A start tag inside bindings can be written. -/
structure TagContent.IsWritable (bindings : Bindings) (name : Name)
    (declarations : List Declaration) (attributes : List Attribute) : Prop where
  /-- What is declared is plain and free. -/
  declared : ∀ declaration ∈ declarations, Name.isFreeQualifier declaration.qualifier = true
  /-- Nothing is declared twice. -/
  declaredOnce : (declarations.map Declaration.qualifier).Nodup
  /-- The name can be written. -/
  name : name.IsWritable (bindings.extend declarations) .element
  /-- The names of the attributes can be written. -/
  named : ∀ attr ∈ attributes, attr.name.IsWritable (bindings.extend declarations) .attr
  /-- No attribute is written as a declaration. -/
  undeclared : ∀ attr ∈ attributes, attr.name.written ≠ "xmlns"
  /-- No attribute is written twice. -/
  namedOnce : (attributes.map fun attr => attr.name.written).Nodup

/-- An element inside bindings can be written. -/
inductive Element.IsWritable : Bindings → Element → Prop
  | intro {bindings : Bindings} {element : Element}
      (tag : TagContent.IsWritable bindings element.name element.declarations element.attributes)
      (children : element.children.AreGrouped)
      (inside : ∀ child ∈ element.childElements,
        IsWritable (bindings.extend element.declarations) child) :
      IsWritable bindings element

namespace Reference

/-- The name of the reference as which a character is written. -/
def nameOf? (char : Char) : Option (List Char) :=
  if char = '<' then some ['l', 't']
  else if char = '>' then some ['g', 't']
  else if char = '&' then some ['a', 'm', 'p']
  else if char = '"' then some ['q', 'u', 'o', 't']
  else if char = '\'' then some ['a', 'p', 'o', 's']
  else none

/-- A character as it is written in texts and in values. -/
def escapeChar (char : Char) : List Char :=
  match nameOf? char with
  | some name => '&' :: (name ++ [';'])
  | none => [char]

/-- A text as it is written. -/
def escape (text : List Char) : List Char := text.flatMap escapeChar

end Reference

/-- A key with its value in a start tag. -/
structure Field where
  key : List Char
  value : List Char
  deriving DecidableEq, Repr

/-- A field as it is written, after a space. -/
def Field.write (field : Field) : List Char :=
  ' ' :: (field.key ++ '=' :: '"' :: (Reference.escape field.value ++ ['"']))

/-- The key that makes a declaration. -/
def Declaration.key (declaration : Declaration) : List Char :=
  match declaration.qualifier with
  | none => ['x', 'm', 'l', 'n', 's']
  | some qualifier => ['x', 'm', 'l', 'n', 's', ':'] ++ qualifier.toList

/-- A declaration as a field. -/
def Declaration.field (declaration : Declaration) : Field :=
  ⟨declaration.key, declaration.uri.toList⟩

/-- An attribute as a field. -/
def Attribute.field (attr : Attribute) : Field := ⟨attr.name.written.toList, attr.value.toList⟩

/-- The inside of a start tag with a name, declarations and attributes. -/
def TagContent.write (name : Name) (declarations : List Declaration)
    (attributes : List Attribute) : List Char :=
  name.written.toList ++
    (declarations.map Declaration.field ++ attributes.map Attribute.field).flatMap Field.write

mutual

/-- An element as it is written. -/
def Element.write : Element → List Char
  | ⟨name, _, attributes, declarations, children, _⟩ =>
      '<' :: (TagContent.write name declarations attributes ++ '>' ::
        (children.write ++ '<' :: '/' :: (name.written.toList ++ ['>'])))

/-- Children as they are written. -/
def Children.write : Children → List Char
  | .elements list => list.flatMap Element.write
  | .text content _ => Reference.escape content.toList
  | .mixed list => list.flatMap Node.write
  | .empty => []

/-- A child as it is written. -/
def Node.write : Node → List Char
  | .element child => child.write
  | .text content _ => Reference.escape content.toList

end

/-- The children one by one. -/
def Children.nodes : Children → List Node
  | .elements list => list.map Node.element
  | .text content span => [.text content span]
  | .mixed list => list
  | .empty => []

theorem Children.write_eq (children : Children) :
    children.write = children.nodes.flatMap Node.write := by
  cases children with
  | elements list => simp [write, nodes, List.flatMap_map, Node.write]
  | text content span => simp [write, nodes, Node.write]
  | mixed list => rw [write, nodes]
  | empty => rw [write, nodes, List.flatMap_nil]

theorem Element.write_eq (element : Element) :
    element.write =
      '<' :: (TagContent.write element.name element.declarations element.attributes ++ '>' ::
        (element.children.nodes.flatMap Node.write ++
          '<' :: '/' :: (element.name.written.toList ++ ['>']))) := by
  rw [← Children.write_eq]
  cases element
  rw [write]

theorem Children.filterMap_nodes (children : Children) :
    children.nodes.filterMap Node.element? = children.childElements := by
  cases children with
  | elements list =>
      simp [nodes, childElements, List.filterMap_map, Function.comp_def, Node.element?]
  | text content span => rfl
  | mixed list => rfl
  | empty => rfl

end BundleMarkup
