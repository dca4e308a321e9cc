import BundleMarkup.Policy
import BundleMarkup.Source.Files
import BundleMarkup.Text.Quoted
import BundleMarkup.Toml.Document

/-!
# Configured warning policies

A warning policy is usually read from a small configuration text.  Every key must be one of the
policy's fields and every value of the field's type; the first entry that is not is reported.
-/

namespace BundleMarkup

/-- What is wrong with an entry of a policy's configuration. -/
inductive ConfigFault
  /-- The key is no field of a policy. -/
  | unknownField (name : String)
  /-- The value is not of the expected type. -/
  | wrongType (found : Toml.Value) (expected : String)

/-- Why a policy cannot be configured. -/
inductive ConfigError
  /-- The configuration cannot be read from storage. -/
  | unreadable (path : String) (failure : ReadFailure)
  /-- The text is no configuration. -/
  | malformed
  /-- An entry is wrong. -/
  | invalid (fault : ConfigFault)

namespace Toml

/-- A number with a fraction as printed. -/
def Real.render : Real → String
  | finite isNegative size => (if isNegative then "-" else "") ++ size.render
  | infinite isNegative => if isNegative then "-inf" else "inf"
  | undefined => "NaN"

/-- A value as the subject of a message about its type. -/
def Value.describe : Value → String
  | string text => s!"string {Text.quoted text}"
  | integer value => s!"integer `{value}`"
  | real value => s!"floating point `{value.render}`"
  | boolean value => s!"boolean `{value}`"
  | moment _ => "map"
  | array _ => "sequence"
  | table _ => "map"
  | tables _ => "sequence"

end Toml

def ConfigFault.message : ConfigFault → String
  | unknownField name =>
      let expected :=
        String.intercalate ", " (WarningPolicy.fieldNames.map fun field => s!"`{field}`")
      s!"unknown field `{name}`, expected one of {expected}"
  | wrongType found expected => s!"invalid type: {found.describe}, expected {expected}"

/-- The message of a failed configuration, as far as it is told. -/
def ConfigError.message : ConfigError → String
  | unreadable path failure =>
      s!"failed to read compiler options from {path}: {failure.message}"
  | malformed => "invalid compiler options"
  | invalid fault => s!"invalid compiler options: {fault.message}"

namespace WarningPolicy

/-- A value that is expected to be a truth value. -/
def expectBool : Toml.Value → Except ConfigFault Bool
  | .boolean value => .ok value
  | other => .error (.wrongType other "a boolean")

/-- A value that is expected to be a text. -/
def expectText : Toml.Value → Except ConfigFault String
  | .string text => .ok text
  | other => .error (.wrongType other "a string")

/-- A value that is expected to be a list of texts. -/
def expectTexts : Toml.Value → Except ConfigFault (List String)
  | .array items => items.mapM expectText
  | .tables list => list.mapM fun table => expectText (.table table)
  | other => .error (.wrongType other "a sequence")

/-- Set the field of an entry. -/
def configure (policy : WarningPolicy) : String × Toml.Value → Except ConfigFault WarningPolicy
  | ("warnings-as-errors", value) => do
      return { policy with escalate := ← expectBool value }
  | ("suppress-all-warnings", value) => do
      return { policy with suppressAll := ← expectBool value }
  | ("suppressed-warnings", value) => do
      return { policy with suppressed := .ofList (← expectTexts value) }
  | (name, _) => .error (.unknownField name)

/-- Read a policy from a configuration text. -/
def ofConfig (text : String) : Except ConfigError WarningPolicy :=
  match Toml.read? text with
  | none => .error .malformed
  | some table =>
      match table.entries.foldlM configure {} with
      | .ok policy => .ok policy
      | .error fault => .error (.invalid fault)

/-- Read a policy from the configuration at a path of storage. -/
def ofPath (storage : Storage) (path : String) : Except ConfigError WarningPolicy :=
  match storage path with
  | .ok text => ofConfig text
  | .error failure => .error (.unreadable path failure)

end WarningPolicy
end BundleMarkup
