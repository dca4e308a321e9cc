import BundleMarkup.Source.Location

/-!
# Markup trees

Elements with resolved names, attributes and children, each with the place where it is written.
Adjacent text is one child; an element's children are all elements, one text, a mixture or nothing.
-/

namespace BundleMarkup

/-- A name in a namespace. -/
structure Name where
  /-- The namespace that the name belongs to, absent for none. -/
  uri : Option String
  /-- The name within its namespace. -/
  localName : String
  /-- The part written before the colon. -/
  qualifier : Option String
  deriving DecidableEq, Repr, Inhabited

namespace Name

/-- The namespace of a name as a text, empty for none. -/
def namespaceUri (name : Name) : String := name.uri.getD ""

/-- Whether a name is in no namespace or in the given one. -/
def isUnqualifiedOrIn (name : Name) (uri : String) : Bool :=
  match name.uri with
  | none => true
  | some own => own == "" || own == uri

theorem isUnqualifiedOrIn_eq (name : Name) (uri : String) :
    name.isUnqualifiedOrIn uri = (name.namespaceUri == "" || name.namespaceUri == uri) := by
  unfold isUnqualifiedOrIn namespaceUri
  cases name.uri with
  | none => simp
  | some own => rfl

/-- The name as it is written. -/
def written (name : Name) : String :=
  match name.qualifier with
  | some qualifier => qualifier ++ ":" ++ name.localName
  | none => name.localName

end Name

/-- A binding of a qualifier to a namespace, made on an element. -/
structure Declaration where
  /-- The bound qualifier, absent for the default namespace. -/
  qualifier : Option String
  /-- The namespace; the empty text takes the default namespace away. -/
  uri : String
  deriving DecidableEq, Repr

/-- An attribute of an element. -/
structure Attribute where
  name : Name
  nameSpan : SourceSpan
  /-- The value, with references replaced. -/
  value : String
  /-- Where the value is written, its quotes included. -/
  valueSpan : SourceSpan
  deriving DecidableEq, Repr

mutual

/-- An element. -/
structure Element where
  name : Name
  /-- Where the name is written in the start tag. -/
  nameSpan : SourceSpan
  /-- The attributes in written order, without namespace declarations. -/
  attributes : List Attribute
  /-- The namespace declarations in written order. -/
  declarations : List Declaration
  /-- What stands between the tags. -/
  children : Children
  /-- Where the element is written, from its first tag to its last. -/
  span : SourceSpan

/-- What stands between the tags of an element. -/
inductive Children
  | elements (list : List Element)
  | text (content : String) (span : SourceSpan)
  | mixed (list : List Node)
  | empty

/-- A single child. -/
inductive Node
  | element (element : Element)
  | text (content : String) (span : SourceSpan)

end

instance : Inhabited Element := ⟨⟨default, default, [], [], .empty, default⟩⟩

/-- A markup document. -/
structure Document where
  root : Element
  /-- The whole text. -/
  span : SourceSpan

/-- The namespace of the qualifier `xml`, bound in every document. -/
def xmlNamespace : String := "http://www.w3.org/XML/1998/namespace"

namespace Node

/-- The element of a child, if it is one. -/
def element? : Node → Option Element
  | .element child => some child
  | .text _ _ => none

/-- The text of a child, if it is text. -/
def text? : Node → Option String
  | .element _ => none
  | .text content _ => some content

end Node

namespace Children

/-- The child elements in order. -/
def childElements : Children → List Element
  | elements list => list
  | mixed list => list.filterMap Node.element?
  | text _ _ => []
  | empty => []

/-- The texts in order, joined. -/
def innerText : Children → String
  | elements _ => ""
  | mixed list => String.join (list.filterMap Node.text?)
  | text content _ => content
  | empty => ""

/-- Child elements as children, where no elements are nothing. -/
def ofElements : List Element → Children
  | [] => empty
  | first :: rest => elements (first :: rest)

end Children

namespace Element

/-- The name of an element within its namespace. -/
def localName (element : Element) : String := element.name.localName

/-- The child elements in order, text left out. -/
def childElements (element : Element) : List Element := element.children.childElements

/-- The text directly inside an element, in order and joined. -/
def innerText (element : Element) : String := element.children.innerText

/-- The child elements with a given local name. -/
def childrenNamed (element : Element) (localName : String) : List Element :=
  element.childElements.filter (·.localName == localName)

def hasElements (element : Element) : Bool := !element.childElements.isEmpty

def isEmpty (element : Element) : Bool :=
  match element.children with
  | .empty => true
  | _ => false

/-- The text of an element that holds nothing else. -/
def text? (element : Element) : Option String :=
  match element.children with
  | .text content _ => some content
  | _ => none

/-- The attribute in no namespace with a given local name. -/
def attribute? (element : Element) (localName : String) : Option Attribute :=
  element.attributes.find? fun attr =>
    attr.name.uri.isNone && attr.name.localName == localName

/-- The attribute in a given namespace with a given local name. -/
def attributeIn? (element : Element) (uri localName : String) : Option Attribute :=
  element.attributes.find? fun attr =>
    attr.name.uri == some uri && attr.name.localName == localName

theorem sizeOf_filterMap_element? (list : List Node) :
    sizeOf (list.filterMap Node.element?) ≤ sizeOf list := by
  induction list with
  | nil => simp
  | cons node rest ih =>
      cases node with
      | element child => simp [Node.element?]; omega
      | text content span => simp [List.filterMap_cons, Node.element?]; omega

/-- An element is larger than its child elements together. -/
theorem sizeOf_childElements_lt (element : Element) :
    sizeOf element.childElements < sizeOf element := by
  obtain ⟨name, nameSpan, attributes, declarations, children, span⟩ := element
  cases children with
  | elements list => simp [childElements, Children.childElements]; omega
  | text content span => simp [childElements, Children.childElements]; omega
  | mixed list =>
      have := sizeOf_filterMap_element? list
      simp [childElements, Children.childElements]
      omega
  | empty => simp [childElements, Children.childElements]; omega

theorem sizeOf_lt_of_mem_childElements {element child : Element}
    (among : child ∈ element.childElements) : sizeOf child < sizeOf element :=
  Nat.lt_trans (List.sizeOf_lt_of_mem among) (sizeOf_childElements_lt element)

/-- What holds of an element whenever it holds of its child elements holds of every element. -/
theorem children_induction {motive : Element → Prop}
    (parent : ∀ element : Element, (∀ child ∈ element.childElements, motive child) → motive element)
    (element : Element) : motive element :=
  parent element fun child _ => children_induction parent child
termination_by sizeOf element
decreasing_by exact sizeOf_lt_of_mem_childElements ‹_›

end Element
end BundleMarkup
