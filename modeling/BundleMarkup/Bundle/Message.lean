import BundleMarkup.Diagnostic.Basic
import BundleMarkup.Markup.Tree

/-!
# Messages about bundle markup

The diagnostics that judging bundle markup raises.  A matter of structure points at the element's
name, a matter of presence at the attribute's name and a matter of value at the value.
-/

namespace BundleMarkup
namespace Message

/-- The codes of the messages, in order. -/
def codes : List String :=
  ["B-1-1", "B-1-2", "B-2-1", "B-2-2", "B-2-3", "B-2-4", "B-3-1", "B-3-2", "B-4-1", "B-5-1",
    "B-5-2"]

/-- An element is not allowed under its parent. -/
def unexpectedElement (parent element : Element) : Diagnostic :=
  let parentName := parent.name.written
  let elementName := element.name.written
  let uri := element.name.namespaceUri
  { severity := .error
    title := "Unexpected element"
    code := some "B-1-1"
    problem := some <| .markdown
      s!"The `{parentName}` element contains an unexpected child element `{elementName}`"
    details := [{ kind := .info, content := .markdown s!"Namespace: `{uri}`" }]
    location := some element.nameSpan }

/-- An attribute is not allowed on its element. -/
def unexpectedAttribute (element : Element) (attr : Attribute) : Diagnostic :=
  let elementName := element.name.written
  let attrName := attr.name.written
  { severity := .error
    title := "Unexpected attribute"
    code := some "B-1-2"
    problem := some <| .markdown
      s!"The `{elementName}` element contains an unexpected attribute `{attrName}`"
    location := some attr.nameSpan }

/-- An element lacks an attribute. -/
def expectedAttribute (element : Element) (localName : String) : Diagnostic :=
  let elementName := element.name.written
  { severity := .error
    title := "Expected attribute"
    code := some "B-2-1"
    problem := some <| .markdown
      s!"The `{elementName}` element requires the `{localName}` attribute"
    location := some element.nameSpan }

/-- An element lacks both of two attributes. -/
def expectedEitherAttribute (element : Element) (first second : String) : Diagnostic :=
  let elementName := element.name.written
  { severity := .error
    title := "Expected attribute"
    code := some "B-2-1"
    problem := some <| .markdown
      s!"The `{elementName}` element requires the `{first}` or `{second}` attribute"
    location := some element.nameSpan }

/-- An element lacks the condition that is its text. -/
def expectedCondition (element : Element) : Diagnostic :=
  let elementName := element.name.written
  { severity := .error
    title := "Expected condition"
    code := some "B-2-2"
    problem := some <| .markdown
      s!"The `{elementName}` element requires a condition expression as its inner text"
    hints := [.markdown "Write the expression between the start and end tags?"]
    location := some element.nameSpan }

/-- An attribute needs another one on its element. -/
def expectedParentWithAttribute (parent : Element) (attr : Attribute) (other : String) :
    Diagnostic :=
  let parentName := parent.name.written
  let attrName := attr.name.written
  { severity := .error
    title := "Expected parent with attribute"
    code := some "B-2-3"
    problem := some <| .markdown
      (s!"The `{attrName}` attribute requires its `{parentName}` element " ++
        s!"to have a `{other}` attribute")
    location := some attr.nameSpan }

/-- Not exactly one of two attributes has a value. -/
def expectedExactlyOne (element : Element) (first second : String) : Diagnostic :=
  let elementName := element.name.written
  { severity := .error
    title := "Expected exactly one attribute"
    code := some "B-2-4"
    problem := some <| .markdown
      s!"The `{elementName}` element requires exactly one of the `{first}` or `{second}` attributes"
    details := [{ kind := .note, content := .markdown "An empty value counts as absent" }]
    location := some element.nameSpan }

/-- An attribute's value is empty. -/
def illegalEmptyValue (element : Element) (attr : Attribute) : Diagnostic :=
  let elementName := element.name.written
  let attrName := attr.name.written
  { severity := .error
    title := "Illegal empty attribute value"
    code := some "B-3-1"
    problem := some <| .markdown
      s!"The `{elementName}/@{attrName}` attribute's value cannot be an empty string"
    hints := [.markdown "Remove the attribute or give it a value?"]
    location := some attr.valueSpan }

/-- An attribute's value is neither `yes` nor `no`. -/
def illegalYesNoValue (element : Element) (attr : Attribute) : Diagnostic :=
  let elementName := element.name.written
  let attrName := attr.name.written
  let value := attr.value
  { severity := .error
    title := "Illegal yes/no value"
    code := some "B-3-2"
    problem := some <| .markdown
      s!"The `{elementName}/@{attrName}` attribute's value, `{value}`, is not a legal yes/no value"
    details :=
      [{ kind := .info, content := .markdown "The only legal values are `yes` and `no`" }]
    location := some attr.valueSpan }

/-- An attribute is given beside another one that excludes it. -/
def mutuallyExclusive (element : Element) (attr other : Attribute) : Diagnostic :=
  let elementName := element.name.written
  let attrName := attr.name.written
  let otherName := other.name.written
  { severity := .error
    title := "Mutually exclusive attributes"
    code := some "B-4-1"
    problem := some <| .markdown
      s!"The `{elementName}/@{attrName}` attribute cannot be specified together with `{otherName}`"
    details :=
      [{ kind := .error
         content := .markdown s!"`{otherName}` is specified here"
         location := some other.nameSpan }]
    location := some attr.nameSpan }

/-- The suggestion for markup in a namespace without an extension. -/
def registrationHint : Content :=
  .markdown "Is the extension that defines this namespace registered?"

/-- No extension takes an attribute's namespace. -/
def unsupportedExtensionAttribute (element : Element) (attr : Attribute) : Diagnostic :=
  let elementName := element.name.written
  let attrName := attr.name.written
  let uri := attr.name.namespaceUri
  { severity := .warning
    title := "Unsupported extension attribute"
    code := some "B-5-1"
    problem := some <| .markdown
      (s!"The `{elementName}` element contains the attribute `{attrName}`" ++
        " from a namespace no extension handles")
    details := [{ kind := .info, content := .markdown s!"Namespace: `{uri}`" }]
    hints := [registrationHint]
    location := some attr.nameSpan }

/-- No extension takes an element's namespace. -/
def unsupportedExtensionElement (parent element : Element) : Diagnostic :=
  let parentName := parent.name.written
  let elementName := element.name.written
  let uri := element.name.namespaceUri
  { severity := .warning
    title := "Unsupported extension element"
    code := some "B-5-2"
    problem := some <| .markdown
      (s!"The `{parentName}` element contains the child element `{elementName}`" ++
        " from a namespace no extension handles")
    details := [{ kind := .info, content := .markdown s!"Namespace: `{uri}`" }]
    hints := [registrationHint]
    location := some element.nameSpan }

end Message
end BundleMarkup
