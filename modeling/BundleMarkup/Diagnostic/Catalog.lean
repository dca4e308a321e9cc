import BundleMarkup.Json

/-!
# Catalog of diagnostic codes

What each code stands for: the subsystem that raises it, its title, its message with named places
to fill, and the page that explains it.
-/

namespace BundleMarkup

/-- What the catalog says about one code. -/
structure CatalogEntry where
  /-- The part of the program that raises the code. -/
  subsystem : String
  title : String
  /-- The message, with named places in braces. -/
  template : String
  /-- The page that explains the code. -/
  page : Option String
  /-- The version that introduced the code. -/
  since : String
  deriving DecidableEq, Repr

namespace CatalogEntry

def toJson (entry : CatalogEntry) : Json :=
  .object
    ([("subsystem", .string entry.subsystem), ("title", .string entry.title),
        ("message_template", .string entry.template)] ++
      Json.optionalMember "docs_url" .string entry.page ++
      [("since_version", .string entry.since)])

def ofJson? (value : Json) : Option CatalogEntry := do
  let members ←
    value.record? ["subsystem", "title", "message_template", "docs_url", "since_version"]
  return {
    subsystem := ← Json.field? "subsystem" Json.text? members
    title := ← Json.field? "title" Json.text? members
    template := ← Json.field? "message_template" Json.text? members
    page := ← Json.optionalField? "docs_url" Json.text? members
    since := ← Json.field? "since_version" Json.text? members }

end CatalogEntry

namespace Catalog

/-- The entry of a code explained on the page that bears its name. -/
def entry (code subsystem title template : String) : String × CatalogEntry :=
  (code,
    { subsystem, title, template
      page := some ("docs/errors/" ++ code ++ ".md")
      since := "0.1.0" })

/-- All entries, ordered by code. -/
def entries : List (String × CatalogEntry) :=
  [entry "B-1-1" "structure" "Unexpected element"
      "The `\x7bparent\x7d` element contains an unexpected child element `\x7belement\x7d`.",
    entry "B-1-2" "structure" "Unexpected attribute"
      "The `\x7belement\x7d` element contains an unexpected attribute `\x7battribute\x7d`.",
    entry "B-2-1" "required" "Expected attribute"
      "The `\x7belement\x7d` element requires the `\x7battribute\x7d` attribute.",
    entry "B-2-2" "required" "Expected condition"
      "The `\x7belement\x7d` element requires a condition expression as its inner text.",
    entry "B-2-3" "required" "Expected parent with attribute"
      ("The `\x7battribute\x7d` attribute requires its `\x7belement\x7d` element " ++
        "to have a `\x7bparent_attribute\x7d` attribute."),
    entry "B-2-4" "required" "Expected exactly one attribute"
      ("The `\x7belement\x7d` element requires exactly one of the " ++
        "`\x7bfirst\x7d` or `\x7bsecond\x7d` attributes."),
    entry "B-3-1" "value" "Illegal empty attribute value"
      "The `\x7belement\x7d/@\x7battribute\x7d` attribute cannot be empty.",
    entry "B-3-2" "value" "Illegal yes/no value"
      ("The `\x7belement\x7d/@\x7battribute\x7d` attribute value `\x7bvalue\x7d` " ++
        "is not `yes` or `no`."),
    entry "B-4-1" "exclusion" "Mutually exclusive attributes"
      ("The `\x7belement\x7d/@\x7battribute\x7d` attribute cannot be specified together " ++
        "with `\x7bother\x7d`."),
    entry "B-5-1" "extension" "Unsupported extension attribute"
      ("The `\x7belement\x7d` element contains an attribute `\x7battribute\x7d` " ++
        "from a namespace no loaded extension handles."),
    entry "B-5-2" "extension" "Unsupported extension element"
      ("The `\x7bparent\x7d` element contains a child element `\x7belement\x7d` " ++
        "from a namespace no loaded extension handles."),
    entry "X-9-1" "markup" "Markup syntax error"
      "The markup could not be parsed: \x7bmessage\x7d",
    entry "X-9-2" "markup" "Unexpected end of markup"
      "The markup ended while `\x7belement\x7d` was still open.",
    entry "X-9-3" "markup" "Mismatched end tag"
      "End tag `\x7bfound\x7d` does not match start tag `\x7bexpected\x7d`.",
    entry "X-9-4" "markup" "Unbound namespace prefix"
      "The prefix `\x7bprefix\x7d` is used without an `xmlns:\x7bprefix\x7d` declaration.",
    entry "X-9-5" "markup" "Empty markup document"
      "The document contains no root element.",
    entry "X-9-6" "markup" "Multiple root elements"
      "The document contains more than one root element."]

/-- The entry of a code. -/
def find? (code : String) : Option CatalogEntry :=
  (entries.find? (·.1 == code)).map (·.2)

/-- The page that explains a code. -/
def page? (code : String) : Option String := (find? code).bind CatalogEntry.page

/-- The part of the program that raises a code. -/
def subsystem? (code : String) : Option String := (find? code).map CatalogEntry.subsystem

/-- All codes of the catalog, in order. -/
def codes : List String := entries.map (·.1)

end Catalog
end BundleMarkup
