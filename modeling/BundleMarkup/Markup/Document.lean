import BundleMarkup.Markup.Binding
import BundleMarkup.Markup.Lexeme
import BundleMarkup.Markup.Malformation
import BundleMarkup.Source.LineIndex
import BundleMarkup.Text.Blank

/-!
# Documents

A document is built from the lexemes of its text, one after another, with a stack of the elements
that are open.  An end tag closes the innermost open element; what is completed becomes a child of
the next one or, outside all of them, the root.
-/

namespace BundleMarkup

namespace Node

def isElement : Node → Bool
  | .element _ => true
  | .text _ _ => false

/-- Whether a child is text that consists of white space. -/
def isBlank : Node → Bool
  | .element _ => false
  | .text content _ => Text.allBlank content.toList

/-- The place of a child. -/
def span : Node → SourceSpan
  | .element child => child.span
  | .text _ span => span

end Node

namespace Children

/-- The span from the start of the first child to the end of the last. -/
def spanOver (first : Node) (others : List Node) : SourceSpan :=
  let last := others.getLastD first
  { first.span with extent := ⟨first.span.extent.start, last.span.extent.stop⟩ }

/-- Children from single pieces: blank text between elements is left out, and text alone joined. -/
def ofNodes (nodes : List Node) : Children :=
  if nodes.any Node.isElement then
    let kept := nodes.filter (!·.isBlank)
    if kept.all Node.isElement then
      .elements (kept.filterMap Node.element?)
    else
      .mixed kept
  else
    match nodes with
    | [] => .empty
    | first :: others =>
        .text (String.join (nodes.filterMap Node.text?)) (spanOver first others)

end Children

/-- An element whose end tag has not been read. -/
structure OpenElement where
  name : Name
  nameSpan : SourceSpan
  attributes : List Attribute
  declarations : List Declaration
  /-- Offset of the element's first byte. -/
  start : Nat
  /-- The children read so far, latest first. -/
  nodes : List Node

/-- How far a document is built. -/
structure Construction where
  /-- The open elements, innermost first. -/
  stack : List OpenElement
  /-- The outermost element, once it is complete. -/
  root : Option Element

/-- The text that a document is read from, as far as places depend on it. -/
structure Origin where
  /-- The file that holds the text. -/
  file : FileId
  /-- The line index of the text. -/
  index : LineIndex
  deriving DecidableEq, Repr

/-- The span between two offsets of the text. -/
def Origin.span (origin : Origin) (start stop : Nat) : SourceSpan :=
  origin.index.span origin.file start stop

@[simp]
theorem Origin.start_span (origin : Origin) (start stop : Nat) :
    (origin.span start stop).start = start :=
  origin.index.start_span origin.file start stop

@[simp]
theorem Origin.stop_span (origin : Origin) (start stop : Nat) :
    (origin.span start stop).stop = stop :=
  origin.index.stop_span origin.file start stop

@[simp]
theorem Origin.file_span (origin : Origin) (start stop : Nat) :
    (origin.span start stop).file = origin.file :=
  origin.index.file_span origin.file start stop

/-- An attribute whose name is not yet resolved. -/
structure UnresolvedAttribute where
  /-- The part of the name before its colon. -/
  qualifier : Option String
  /-- The part of the name after its colon. -/
  localName : String
  nameSpan : SourceSpan
  value : String
  valueSpan : SourceSpan
  deriving DecidableEq, Repr

/-- What an attribute in a start tag is. -/
inductive TagItem
  | declaration (declaration : Declaration)
  | attr (attr : UnresolvedAttribute)
  deriving DecidableEq, Repr

namespace TagItem

/-- The declaration that an item is, if it is one. -/
def declaration? : TagItem → Option Declaration
  | .declaration item => some item
  | .attr _ => none

/-- The attribute that an item is, if it is one. -/
def attribute? : TagItem → Option UnresolvedAttribute
  | .declaration _ => none
  | .attr item => some item

/-- An item from a written name, a value and its place in the tag whose inside starts at `base`. -/
def ofPlace (origin : Origin) (base : Nat) (key : List Char) (value : String)
    (place : AttributePlace) : TagItem :=
  match Binding.splitName key with
  | (none, "xmlns") => .declaration ⟨none, value⟩
  | (some "xmlns", localName) => .declaration ⟨some localName, value⟩
  | (qualifier, localName) =>
      .attr
        { qualifier, localName, value
          nameSpan := origin.span (base + place.nameStart) (base + place.nameStop)
          valueSpan := origin.span (base + place.valueStart) (base + place.valueStop) }

/-- The items of the attributes in the tag at an offset, found one after another from `cursor`. -/
def ofAttributes (origin : Origin) (start : Nat) (content : List Char) (cursor : Nat) :
    List RawAttribute → Except MarkupError (List TagItem)
  | [] => .ok []
  | raw :: rest =>
      match Reference.decode raw.value with
      | .error fault => .error (Malformation.value fault start).error
      | .ok value => do
          let place := AttributePlace.find content cursor raw.key
          let item := ofPlace origin (start + 1) raw.key (String.ofList value) place
          let later ← ofAttributes origin start content place.valueStop rest
          return item :: later

end TagItem

/-- A start tag or an empty tag, with its names resolved. -/
structure ElementTag where
  name : Name
  nameSpan : SourceSpan
  attributes : List Attribute
  declarations : List Declaration
  deriving DecidableEq, Repr

namespace ElementTag

/-- A name whose qualifier is resolved among the declarations around, or the error at its place. -/
def resolveName (frames : List (List Declaration)) (bearer : Bearer) (qualifier : Option String)
    (localName : String) (span : SourceSpan) : Except MarkupError Name :=
  match Binding.resolve frames bearer qualifier with
  | .ok uri => .ok ⟨uri, localName, qualifier⟩
  | .error unbound => .error (.unboundQualifier unbound (some span))

/-- An attribute with its name resolved. -/
def resolveAttribute (frames : List (List Declaration)) (attr : UnresolvedAttribute) :
    Except MarkupError Attribute := do
  let name ← resolveName frames .attr attr.qualifier attr.localName attr.nameSpan
  return { name, nameSpan := attr.nameSpan, value := attr.value, valueSpan := attr.valueSpan }

/-- Read the tag with a given inside at an offset, within elements that make declarations. -/
def read (origin : Origin) (outer : List (List Declaration)) (start : Nat)
    (content : List Char) : Except MarkupError ElementTag := do
  let inside := TagContent.ofContent content
  let nameSize := Text.byteLength inside.name
  let items ← TagItem.ofAttributes origin start content nameSize inside.attributes
  match inside.fault with
  | some fault => .error (Malformation.attributes fault).error
  | none =>
      let declarations := items.filterMap TagItem.declaration?
      let frames := declarations :: outer
      let nameSpan := origin.span (start + 1) (start + 1 + nameSize)
      let (qualifier, localName) := Binding.splitName inside.name
      let name ← resolveName frames .element qualifier localName nameSpan
      let attributes ← (items.filterMap TagItem.attribute?).mapM (resolveAttribute frames)
      return ⟨name, nameSpan, attributes, declarations⟩

end ElementTag

namespace OpenElement

/-- The element opened by a start tag at an offset. -/
def ofTag (tag : ElementTag) (start : Nat) : OpenElement :=
  { name := tag.name
    nameSpan := tag.nameSpan
    attributes := tag.attributes
    declarations := tag.declarations
    start
    nodes := [] }

def push (element : OpenElement) (node : Node) : OpenElement :=
  { element with nodes := node :: element.nodes }

/-- The element that an open element becomes when its end tag stops at an offset. -/
def close (element : OpenElement) (origin : Origin) (stop : Nat) : Element :=
  { name := element.name
    nameSpan := element.nameSpan
    attributes := element.attributes
    declarations := element.declarations
    children := .ofNodes element.nodes.reverse
    span := origin.span element.start stop }

end OpenElement

namespace Construction

/-- The construction before anything is read. -/
def initial : Construction := ⟨[], none⟩

/-- The declarations of the open elements, innermost first. -/
def frames (state : Construction) : List (List Declaration) :=
  state.stack.map OpenElement.declarations

/-- Give a complete element to the innermost open element, or make it the root. -/
def attach (state : Construction) (element : Element) : Except MarkupError Construction :=
  match state.stack with
  | parent :: outer => .ok { state with stack := parent.push (.element element) :: outer }
  | [] =>
      match state.root with
      | some _ => .error (.manyRoots (some element.span))
      | none => .ok { state with root := some element }

/-- Give text to the innermost open element; outside all of them it counts for nothing. -/
def addText (state : Construction) (content : List Char) (span : SourceSpan) : Construction :=
  match state.stack with
  | parent :: outer =>
      { state with stack := parent.push (.text (String.ofList content) span) :: outer }
  | [] => state

/-- The name in the inside of an end tag: the white space after it is not part of it. -/
def endName (content : List Char) : List Char :=
  if content.all Token.isSpace then content
  else (content.reverse.dropWhile Token.isSpace).reverse

/-- Close the innermost open element with an end tag. -/
def close (origin : Origin) (state : Construction) (name : String) (start stop : Nat) :
    Except MarkupError Construction :=
  match state.stack with
  | [] => .error (Malformation.strayEnd name start).error
  | element :: outer =>
      if element.name.written = name then
        attach { state with stack := outer } (element.close origin stop)
      else
        .error (Malformation.otherEnd element.name.written name start).error

/-- Go on with the next lexeme. -/
def step (origin : Origin) (state : Construction) (lexeme : Lexeme) :
    Except MarkupError Construction :=
  match lexeme.token with
  | .startTag content => do
      let tag ← ElementTag.read origin state.frames lexeme.start content
      return { state with stack := .ofTag tag lexeme.start :: state.stack }
  | .emptyTag content => do
      let tag ← ElementTag.read origin state.frames lexeme.start content
      state.attach ((OpenElement.ofTag tag lexeme.start).close origin lexeme.stop)
  | .endTag content =>
      close origin state (String.ofList (endName content)) lexeme.start lexeme.stop
  | .text raw =>
      match Reference.decode raw with
      | .ok content => .ok (state.addText content (origin.span lexeme.start lexeme.stop))
      | .error fault => .error (Malformation.text fault lexeme.start).error
  | .characterData content =>
      .ok (state.addText content (origin.span lexeme.start lexeme.stop))
  | .comment _ => .ok state
  | .instruction _ => .ok state
  | .doctype _ _ => .ok state

/-- The root of a construction at the end of the text. -/
def finish (state : Construction) : Except MarkupError Element :=
  match state.stack with
  | element :: _ =>
      .error (.unfinished s!"closing tag </{element.name.written}>" (some element.nameSpan))
  | [] =>
      match state.root with
      | some root => .ok root
      | none => .error .noRoot

end Construction

namespace Document

/-- Build a document's root from a scan of its text. -/
def rootOfScan (origin : Origin) (scan : Scan) : Except MarkupError Element := do
  let state ← scan.lexemes.foldlM (Construction.step origin) .initial
  match scan.fault with
  | some (fault, position) => .error (Malformation.token fault position).error
  | none => state.finish

/-- Read a document from the text of a file. -/
def read (file : FileId) (input : List Char) : Except MarkupError Document := do
  let origin : Origin := ⟨file, .ofText input⟩
  let root ← rootOfScan origin (.ofText input)
  return ⟨root, origin.span 0 origin.index.size⟩

/-- A text is known to be read by what can be said of its document. -/
theorem exists_of_map_read {file : FileId} {input : List Char} {α : Type} {view : Document → α}
    {seen : α} (facts : (read file input).toOption.map view = some seen) :
    ∃ document, read file input = .ok document ∧ view document = seen := by
  cases reads : read file input with
  | error error =>
      rw [reads] at facts
      cases facts
  | ok document =>
      rw [reads] at facts
      exact ⟨document, rfl, Option.some.inj facts⟩

end Document
end BundleMarkup
