import BundleMarkup.Markup.Document
import Mathlib.Data.List.TakeWhile

/-!
# Events

Beside the elements that are open, every lexeme that can be read is an event: it opens an element,
closes the innermost open one, is an element without content, or leaves the elements alone.  A
sequence of events tells by itself which elements there are and how deep, which are completed
outside all others and which are left open.
-/

namespace BundleMarkup

/-- A start tag or an empty tag, with the offset at which it is written. -/
structure Opening where
  tag : ElementTag
  /-- Offset of its first byte. -/
  start : Nat
  deriving DecidableEq, Repr

/-- What a lexeme does to the elements of a text. -/
inductive Event
  | opening (opening : Opening)
  /-- The innermost open element is closed by a tag that stops at an offset. -/
  | closing (stop : Nat)
  /-- There is an element without content, whose tag stops at an offset. -/
  | single (opening : Opening) (stop : Nat)
  /-- Nothing: it is text or passed over. -/
  | aside
  deriving DecidableEq, Repr

/-- A lexeme that can be read beside given open elements, innermost first, is an event. -/
inductive Lexeme.IsEvent (origin : Origin) (around : List Opening) : Lexeme → Event → Prop
  | startTag {content : List Char} {start stop : Nat} {tag : ElementTag}
      (reads : ElementTag.read origin (around.map (·.tag.declarations)) start content = .ok tag) :
      IsEvent origin around ⟨.startTag content, start, stop⟩ (.opening ⟨tag, start⟩)
  | emptyTag {content : List Char} {start stop : Nat} {tag : ElementTag}
      (reads : ElementTag.read origin (around.map (·.tag.declarations)) start content = .ok tag) :
      IsEvent origin around ⟨.emptyTag content, start, stop⟩ (.single ⟨tag, start⟩ stop)
  | endTag {content : List Char} {start stop : Nat} {innermost : Opening}
      (matching : around.head? = some innermost)
      (same : String.ofList (Construction.endName content) = innermost.tag.name.written) :
      IsEvent origin around ⟨.endTag content, start, stop⟩ (.closing stop)
  | text {raw content : List Char} {start stop : Nat}
      (decodes : Reference.decode raw = .ok content) :
      IsEvent origin around ⟨.text raw, start, stop⟩ .aside
  | characterData {content : List Char} {start stop : Nat} :
      IsEvent origin around ⟨.characterData content, start, stop⟩ .aside
  | comment {content : List Char} {start stop : Nat} :
      IsEvent origin around ⟨.comment content, start, stop⟩ .aside
  | instruction {content : List Char} {start stop : Nat} :
      IsEvent origin around ⟨.instruction content, start, stop⟩ .aside
  | doctype {keyword content : List Char} {start stop : Nat} :
      IsEvent origin around ⟨.doctype keyword content, start, stop⟩ .aside

namespace Event

/-- The tag of an event that begins an element. -/
def opening? : Event → Option Opening
  | opening tag => some tag
  | single tag _ => some tag
  | closing _ => none
  | aside => none

/-- The open elements after an event. -/
def openAfter (around : List Opening) : Event → List Opening
  | opening tag => tag :: around
  | closing _ => around.tail
  | single _ _ => around
  | aside => around

/-- The place of the element that an event completes outside all others. -/
def completed? (origin : Origin) (around : List Opening) : Event → Option SourceSpan
  | opening _ => none
  | closing stop =>
      match around with
      | [outermost] => some (origin.span outermost.start stop)
      | _ => none
  | single tag stop => if around = [] then some (origin.span tag.start stop) else none
  | aside => none

/-- The tags that begin an element, each with the number of elements open at that point. -/
def openings (around : List Opening) : List Event → List (Nat × ElementTag)
  | [] => []
  | event :: rest =>
      event.opening?.toList.map (fun opening => (around.length, opening.tag)) ++
        openings (event.openAfter around) rest

/-- The elements left open, innermost first. -/
def unclosed (around : List Opening) (events : List Event) : List Opening :=
  events.foldl openAfter around

/-- The places of the elements completed outside all others. -/
def completed (origin : Origin) (around : List Opening) : List Event → List SourceSpan
  | [] => []
  | event :: rest =>
      (event.completed? origin around).toList ++ completed origin (event.openAfter around) rest

/-- Where nothing is open, nothing is completed without being begun. -/
theorem completed_eq_nil {origin : Origin} {events : List Event}
    (none : openings [] events = []) : completed origin [] events = [] := by
  induction events with
  | nil => rfl
  | cons event rest ih =>
      cases event with
      | opening tag => simp [openings, opening?] at none
      | single tag stop => simp [openings, opening?] at none
      | closing stop => exact ih none
      | aside => exact ih none

end Event

/-- The lexemes of a text that can be read one after another are a sequence of events. -/
inductive Lexeme.AreEvents (origin : Origin) :
    List Opening → List Lexeme → List Event → Prop
  | nil (around : List Opening) : AreEvents origin around [] []
  | cons {around : List Opening} {lexeme : Lexeme} {event : Event} {lexemes : List Lexeme}
      {events : List Event} (first : lexeme.IsEvent origin around event)
      (later : AreEvents origin (event.openAfter around) lexemes events) :
      AreEvents origin around (lexeme :: lexemes) (event :: events)

/-- A tag that holds nothing but an unqualified name is read where no default namespace is. -/
theorem ElementTag.read_bare (origin : Origin) {outer : List (List Declaration)} (start : Nat)
    {name : List Char} (unspaced : ∀ char ∈ name, TagContent.isName char = true)
    (unqualified : ':' ∉ name) (unbound : Binding.declaration? outer none = none) :
    ElementTag.read origin outer start name =
      .ok ⟨⟨none, String.ofList name, none⟩,
        origin.span (start + 1) (start + 1 + Text.byteLength name), [], []⟩ := by
  have inside : TagContent.ofContent name = ⟨name, [], none⟩ := by
    have front := List.takeWhile_eq_self_iff.mpr unspaced
    have back := List.dropWhile_eq_nil_iff.mpr unspaced
    simp [TagContent.ofContent, TagContent.nameOf, front, back, RawAttribute.readFrom]
  have split := Binding.splitName_of_not_mem unqualified
  have resolves : Binding.resolve ([] :: outer) .element none = .ok none := by
    have : Binding.declaration? ([] :: outer) none = none := unbound
    simp [Binding.resolve, this]
  simp [ElementTag.read, inside, split, TagItem.ofAttributes, ElementTag.resolveName, resolves,
    bind, Except.bind, pure, Except.pure]

end BundleMarkup
