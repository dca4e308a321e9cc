import BundleMarkup.Bundle.HostAttributes
import BundleMarkup.Bundle.LaunchCondition
import BundleMarkup.Bundle.ManagedHost
import BundleMarkup.Bundle.StandardUi

/-!
# Sessions

A session judges the extension's markup, one piece after another.  It hands foreign markup to the
registered extensions and remembers where the first launch condition came from.
-/

namespace BundleMarkup

def ElementKind.validator : ElementKind → Validator
  | condition => LaunchCondition.validator
  | standardUi => StandardUi.validator
  | managedHost => ManagedHost.validator

/-- What is kept while markup is judged. -/
structure Session (σ : Type) where
  policy : WarningPolicy
  extensions : Extensions σ
  /-- The element of the first launch condition that gave a row. -/
  firstCondition : Option SourceSpan

namespace Session

variable {σ : Type}

/-- A session before anything is judged. -/
def start (policy : WarningPolicy) (extensions : Extensions σ) : Session σ :=
  ⟨policy, extensions, none⟩

/-- Remember an element's place if it is the first launch condition that gave a row. -/
def remember (session : Session σ) (kind : ElementKind) (element : Element)
    (outcome : Outcome) : Session σ :=
  if kind = .condition && session.firstCondition.isNone &&
      outcome.rows.any (·.table == .condition) then
    { session with firstCondition := some element.span }
  else
    session

/-- Whether a child of an element of the extension belongs to the host language. -/
def isHostChild (uri : String) : Bool := uri == "" || uri == hostNamespace

mutual

/-- Judge an element of the extension under its parent. -/
def judgeElement (session : Session σ) (parent element : Element) : Outcome × Session σ :=
  match ElementKind.route? parent.localName element.localName with
  | none =>
      let diagnostic := session.policy.apply (Message.unexpectedElement parent element)
      (.of diagnostic.toList [], session)
  | some kind =>
      let validator := kind.validator
      let collected := validator.rule.collect (.start element session.policy) session.extensions
      let values := collected.values
      let before := collected.scope.reportAll (validator.beforeChildren element values)
      let (scope, session) :=
        judgeChildren { session with extensions := collected.extensions } before
          element.childElements
      let after := scope.reportAll (validator.afterChildren element values)
      let outcome := after.finish fun _ => validator.rows element values
      (outcome, session.remember kind element outcome)
termination_by sizeOf element
decreasing_by exact Element.sizeOf_childElements_lt element

/-- Judge children of the element of a scope, one after another. -/
def judgeChildren (session : Session σ) (scope : Scope) :
    List Element → Scope × Session σ
  | [] => (scope, session)
  | child :: rest =>
      let uri := child.name.namespaceUri
      if uri = ownNamespace then
        let (outcome, session) := judgeElement session scope.element child
        judgeChildren session (scope.merge outcome) rest
      else if isHostChild uri then
        judgeChildren session (scope.report (Message.unexpectedElement scope.element child)) rest
      else
        let (outcome, extensions) := session.extensions.judgeElement scope.element child
        judgeChildren { session with extensions } (scope.merge outcome) rest
termination_by children => sizeOf children

end

/-- Judge the extension's attributes on a host element. -/
def judgeAttributes (session : Session σ) (parent : Element) (attributes : List Attribute) :
    Outcome × Session σ :=
  (HostAttributes.judge session.policy parent attributes, session)

/-- Judge a single attribute of the extension on a host element. -/
def judgeAttribute (session : Session σ) (parent : Element) (attr : Attribute) :
    Outcome × Session σ :=
  session.judgeAttributes parent [attr]

end Session
end BundleMarkup
