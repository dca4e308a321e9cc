import BundleMarkup.Bundle.Scope

/-!
# Attribute rules

Which attributes an element may have, how their values are read and which exclude each other.
`ElementRule.collect` goes through the attributes of a scope's element once: known ones are read,
unknown ones reported and those of other namespaces delegated.
-/

namespace BundleMarkup

/-- Whether an attribute has to be there. -/
inductive Requirement
  | required
  | optional
  deriving DecidableEq, Repr

/-- How an attribute's value is read. -/
inductive ValueKind
  | text
  /-- Any text but the empty one. -/
  | nonEmptyText
  /-- `yes` or `no`, in any case. -/
  | yesNo
  deriving DecidableEq, Repr

/-- The rule of one attribute. -/
structure AttributeRule where
  name : String
  /-- How its value is read. -/
  kind : ValueKind
  /-- Whether it has to be there. -/
  requirement : Requirement := .optional
  deriving DecidableEq, Repr

/-- The rules of an element's attributes. -/
structure ElementRule where
  /-- The attributes that the element may have. -/
  attributes : List AttributeRule
  /-- Groups of attributes of which at most one may be given. -/
  exclusive : List (List String) := []
  deriving DecidableEq, Repr

/-- An answer of yes or no. -/
inductive YesNo
  | notSet
  | no
  | yes
  deriving DecidableEq, Repr

/-- A value as read. -/
inductive AttributeValue
  | text (value : String)
  | yesNo (value : YesNo)
  /-- A value that was refused. -/
  | invalid
  deriving DecidableEq, Repr

/-- Read an attribute's value; a value that is refused comes with the reason. -/
def ValueKind.read (kind : ValueKind) (element : Element) (attr : Attribute) :
    AttributeValue × Option Diagnostic :=
  match kind with
  | text => (.text attr.value, none)
  | nonEmptyText =>
      if attr.value = "" then (.invalid, some (Message.illegalEmptyValue element attr))
      else (.text attr.value, none)
  | yesNo =>
      let answer := attr.value.toLower
      if answer = "yes" then (.yesNo .yes, none)
      else if answer = "no" then (.yesNo .no, none)
      else if answer = "" then (.invalid, some (Message.illegalEmptyValue element attr))
      else (.invalid, some (Message.illegalYesNoValue element attr))

/-- An attribute that was read under a rule. -/
structure CollectedAttribute where
  name : String
  value : AttributeValue
  /-- The attribute as written. -/
  source : Attribute
  deriving DecidableEq, Repr

/-- The attributes read from an element, in written order. -/
structure CollectedAttributes where
  entries : List CollectedAttribute
  deriving DecidableEq, Repr

namespace CollectedAttributes

/-- The first attribute read under a name. -/
def entry? (values : CollectedAttributes) (name : String) : Option CollectedAttribute :=
  values.entries.find? (·.name == name)

/-- The value read under a name. -/
def get? (values : CollectedAttributes) (name : String) : Option AttributeValue :=
  (values.entry? name).map CollectedAttribute.value

/-- The attribute read under a name, as written. -/
def source? (values : CollectedAttributes) (name : String) : Option Attribute :=
  (values.entry? name).map CollectedAttribute.source

/-- Whether an attribute was given, legal or not. -/
def isPresent (values : CollectedAttributes) (name : String) : Bool := (values.get? name).isSome

/-- The text of a legal text attribute. -/
def text? (values : CollectedAttributes) (name : String) : Option String :=
  match values.get? name with
  | some (.text value) => some value
  | _ => none

/-- Whether an attribute is absent, refused or empty. -/
def isNullOrEmpty (values : CollectedAttributes) (name : String) : Bool :=
  (values.text? name).all (· == "")

/-- The answer that an attribute gives. -/
def yesNo (values : CollectedAttributes) (name : String) : YesNo :=
  match values.get? name with
  | some (.yesNo value) => value
  | _ => .notSet

def push (values : CollectedAttributes) (entry : CollectedAttribute) : CollectedAttributes :=
  ⟨values.entries ++ [entry]⟩

section

variable {values values' : CollectedAttributes} (same : values.get? = values'.get?)

include same

theorem isPresent_congr : values.isPresent = values'.isPresent := by
  funext name
  rw [isPresent, isPresent, same]

theorem text?_congr : values.text? = values'.text? := by
  funext name
  rw [text?, text?, same]

theorem isNullOrEmpty_congr : values.isNullOrEmpty = values'.isNullOrEmpty := by
  funext name
  rw [isNullOrEmpty, isNullOrEmpty, text?_congr same]

theorem yesNo_congr : values.yesNo = values'.yesNo := by
  funext name
  rw [yesNo, yesNo, same]

end

end CollectedAttributes

/-- How far the attributes of an element are collected. -/
structure Collection (σ : Type) where
  /-- What has come of the element. -/
  scope : Scope
  extensions : Extensions σ
  values : CollectedAttributes

namespace ElementRule

/-- The rule of an attribute's local name. -/
def find? (rule : ElementRule) (localName : String) : Option AttributeRule :=
  rule.attributes.find? (·.name == localName)

/-- Go on with the next attribute. -/
def collectOne {σ : Type} (rule : ElementRule) (done : Collection σ) (attr : Attribute) :
    Collection σ :=
  if attr.name.isUnqualifiedOrIn ownNamespace then
    match rule.find? attr.name.localName with
    | some attrRule =>
        let (value, refusal) := attrRule.kind.read done.scope.element attr
        { done with
          scope := done.scope.reportAll refusal.toList
          values := done.values.push ⟨attrRule.name, value, attr⟩ }
    | none =>
        let scope := done.scope.report (Message.unexpectedAttribute done.scope.element attr)
        { done with scope }
  else
    let (scope, extensions) := done.scope.delegate done.extensions attr
    { done with scope, extensions }

/-- The required attributes that are missing, in the order of their rules. -/
def missing (rule : ElementRule) (element : Element) (values : CollectedAttributes) :
    List Diagnostic :=
  (rule.attributes.filter fun attrRule =>
    attrRule.requirement = .required && !values.isPresent attrRule.name).map fun attrRule =>
      Message.expectedAttribute element attrRule.name

/-- The report on a group of attributes of which more than one is given. -/
def conflict? (element : Element) (values : CollectedAttributes) (group : List String) :
    Option Diagnostic :=
  match group.filterMap values.source? with
  | first :: second :: _ => some (Message.mutuallyExclusive element second first)
  | _ => none

/-- The groups of which more than one attribute is given, in order. -/
def conflicts (rule : ElementRule) (element : Element) (values : CollectedAttributes) :
    List Diagnostic :=
  rule.exclusive.filterMap (conflict? element values)

/-- Collect the attributes of the scope's element. -/
def collect {σ : Type} (rule : ElementRule) (scope : Scope) (extensions : Extensions σ) :
    Collection σ :=
  let element := scope.element
  let done := element.attributes.foldl rule.collectOne ⟨scope, extensions, ⟨[]⟩⟩
  let scope := done.scope.reportAll (rule.missing element done.values)
  { done with scope := scope.reportAll (rule.conflicts element done.values) }

end ElementRule
end BundleMarkup
