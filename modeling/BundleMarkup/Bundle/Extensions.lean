import BundleMarkup.Bundle.Message
import BundleMarkup.Bundle.Outcome
import BundleMarkup.Bundle.Vocabulary
import BundleMarkup.Text.Quoted

/-!
# Other extensions

Markup in a namespace of another extension is judged by that extension.  An extension may keep
state from call to call; the table of registered extensions holds each with its present state.
Every namespace has at most one extension, and those of the host and of the bundle extension have
none.
-/

namespace BundleMarkup

/-- How the markup of a namespace is judged, with a state kept between calls. -/
structure Extension (σ : Type) where
  /-- The namespace that the extension owns. -/
  namespaceUri : String
  /-- Judge an attribute on an element. -/
  onAttribute : σ → Element → Attribute → Outcome × σ
  /-- Judge a child element under its parent. -/
  onElement : σ → Element → Element → Outcome × σ :=
    fun state parent element =>
      (.ofDiagnostic (Message.unsupportedExtensionElement parent element), state)

/-- A registered extension and its present state. -/
structure Loaded (σ : Type) where
  extension : Extension σ
  /-- What its last call left. -/
  state : σ

/-- The registered extensions. -/
structure Extensions (σ : Type) where
  /-- The extensions in the order of registration. -/
  loaded : List (Loaded σ)

/-- Why an extension cannot be registered. -/
inductive RegistrationError
  /-- Its namespace has an extension. -/
  | taken (namespaceUri : String)
  /-- Its namespace is not for extensions. -/
  | reserved (namespaceUri : String)
  deriving DecidableEq, Repr

def RegistrationError.message : RegistrationError → String
  | taken uri => s!"an extension is already registered for namespace '{uri}'"
  | reserved uri => s!"namespace '{uri}' cannot be claimed by an extension"

/-- The namespaces that no extension can be registered for. -/
def isReservedNamespace (uri : String) : Bool :=
  uri == "" || uri == ownNamespace || uri == hostNamespace

namespace Loaded

/-- The namespace of a registered extension. -/
def namespaceUri {σ : Type} (loaded : Loaded σ) : String := loaded.extension.namespaceUri

/-- Let the extension of a namespace act; without one, the answer is `otherwise`. -/
def answer {σ : Type} (uri : String) (act : Loaded σ → Outcome × σ) (otherwise : Outcome) :
    List (Loaded σ) → Outcome × List (Loaded σ)
  | [] => (otherwise, [])
  | first :: rest =>
      if first.namespaceUri = uri then
        let (outcome, state) := act first
        (outcome, { first with state } :: rest)
      else
        let (outcome, later) := answer uri act otherwise rest
        (outcome, first :: later)

end Loaded

namespace Extensions

variable {σ : Type}

def empty : Extensions σ := ⟨[]⟩

/-- The namespaces that have an extension, in the order of registration. -/
def namespaces (extensions : Extensions σ) : List String :=
  extensions.loaded.map Loaded.namespaceUri

/-- Number of registered extensions. -/
def size (extensions : Extensions σ) : Nat := extensions.loaded.length

def contains (extensions : Extensions σ) (uri : String) : Bool :=
  extensions.namespaces.contains uri

/-- Register an extension with its first state. -/
def register (extensions : Extensions σ) (extension : Extension σ) (state : σ) :
    Except RegistrationError (Extensions σ) :=
  if isReservedNamespace extension.namespaceUri then
    .error (.reserved extension.namespaceUri)
  else if extensions.contains extension.namespaceUri then
    .error (.taken extension.namespaceUri)
  else
    .ok ⟨extensions.loaded ++ [⟨extension, state⟩]⟩

/-- Have an attribute judged by the extension of its namespace. -/
def judgeAttribute (extensions : Extensions σ) (element : Element) (attr : Attribute) :
    Outcome × Extensions σ :=
  let (outcome, loaded) :=
    Loaded.answer attr.name.namespaceUri
      (fun found => found.extension.onAttribute found.state element attr)
      (.ofDiagnostic (Message.unsupportedExtensionAttribute element attr)) extensions.loaded
  (outcome, ⟨loaded⟩)

/-- Have a child element judged by the extension of its namespace. -/
def judgeElement (extensions : Extensions σ) (parent element : Element) :
    Outcome × Extensions σ :=
  let (outcome, loaded) :=
    Loaded.answer element.name.namespaceUri
      (fun found => found.extension.onElement found.state parent element)
      (.ofDiagnostic (Message.unsupportedExtensionElement parent element)) extensions.loaded
  (outcome, ⟨loaded⟩)

/-- The registered namespaces as printed, in increasing order. -/
def render (extensions : Extensions σ) : String :=
  let sorted := extensions.namespaces.mergeSort (fun left right => decide (left ≤ right))
  let listed := String.intercalate ", " (sorted.map Text.quoted)
  "ExtensionRegistry \x7b namespaces: [" ++ listed ++ "] \x7d"

end Extensions
end BundleMarkup
