/-!
# Vocabulary

The elements and attributes of the bundle extension, the host elements that they may stand on, and
which element is allowed under which host element.
-/

namespace BundleMarkup

/-- The namespace of the extension's own elements and attributes. -/
def ownNamespace : String := "http://wixtoolset.org/schemas/v4/wxs/bal"

/-- The namespace of the host language. -/
def hostNamespace : String := "http://wixtoolset.org/schemas/v4/wxs"

/-- Host elements that may bear markup of the extension. -/
inductive HostKind
  | bundle
  | fragment
  | applicationRef
  | hostVariable
  deriving DecidableEq, Repr

namespace HostKind

def localName : HostKind → String
  | bundle => "Bundle"
  | fragment => "Fragment"
  | applicationRef => "BootstrapperApplicationRef"
  | hostVariable => "Variable"

def named? : String → Option HostKind
  | "Bundle" => some bundle
  | "Fragment" => some fragment
  | "BootstrapperApplicationRef" => some applicationRef
  | "Variable" => some hostVariable
  | _ => none

end HostKind

/-- Elements of the extension. -/
inductive ElementKind
  | condition
  | standardUi
  | managedHost
  deriving DecidableEq, Repr

namespace ElementKind

def localName : ElementKind → String
  | condition => "Condition"
  | standardUi => "WixStandardBootstrapperApplication"
  | managedHost => "WixManagedBootstrapperApplicationHost"

def named? : String → Option ElementKind
  | "Condition" => some condition
  | "WixStandardBootstrapperApplication" => some standardUi
  | "WixManagedBootstrapperApplicationHost" => some managedHost
  | _ => none

/-- Whether an element is allowed under a host element. -/
def allowedUnder (kind : ElementKind) (host : HostKind) : Bool :=
  match kind, host with
  | condition, .bundle => true
  | condition, .fragment => true
  | standardUi, .applicationRef => true
  | managedHost, .applicationRef => true
  | _, _ => false

/-- The element of a local name, if it is allowed under the host element of another. -/
def route? (hostName elementName : String) : Option ElementKind := do
  let host ← HostKind.named? hostName
  let kind ← named? elementName
  if kind.allowedUnder host then some kind else none

end ElementKind

/-- Attributes that the extension puts on host elements. -/
inductive HostAttributeKind
  | overridable
  deriving DecidableEq, Repr

namespace HostAttributeKind

def localName : HostAttributeKind → String
  | overridable => "Overridable"

def named? : String → Option HostAttributeKind
  | "Overridable" => some overridable
  | _ => none

end HostAttributeKind
end BundleMarkup
