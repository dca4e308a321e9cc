import BundleMarkup.Bundle.Validator

/-!
# The standard user interface

A `WixStandardBootstrapperApplication` element configures the stock user interface of a bundle.  It
needs a license, as a file or as a link but not both; an empty link counts as given.
-/

namespace BundleMarkup
namespace StandardUi

/-- The attributes that answer yes or no, in the order of the option columns. -/
def flags : List String :=
  ["SuppressOptionsUI", "SuppressDowngradeFailure", "SuppressRepair", "ShowVersion"]

/-- The attributes of the standard user interface. -/
def rule : ElementRule :=
  { attributes :=
      [{ name := "LaunchTarget", kind := .nonEmptyText },
        { name := "LicenseFile", kind := .nonEmptyText },
        { name := "LicenseUrl", kind := .text },
        { name := "LogoFile", kind := .nonEmptyText },
        { name := "LogoSideFile", kind := .nonEmptyText },
        { name := "ThemeFile", kind := .nonEmptyText },
        { name := "LocalizationFile", kind := .nonEmptyText }] ++
      flags.map fun name => { name, kind := .yesNo }
    exclusive := [["LicenseFile", "LicenseUrl"]] }

/-- The attributes that give variables of the linker their values, with the variables. -/
def linkNames : List (String × String) :=
  [("LicenseFile", "WixStdbaLicenseRtf"), ("LicenseUrl", "WixStdbaLicenseUrl"),
    ("LogoFile", "WixStdbaLogo"), ("LogoSideFile", "WixStdbaLogoSide"),
    ("ThemeFile", "WixStdbaThemeXml"), ("LocalizationFile", "WixStdbaThemeWxl")]

/-- A missing license. -/
def missingLicense (element : Element) (values : CollectedAttributes) : List Diagnostic :=
  if values.isNullOrEmpty "LicenseFile" && !values.isPresent "LicenseUrl" then
    [Message.expectedEitherAttribute element "LicenseFile" "LicenseUrl"]
  else
    []

/-- The columns of the program to launch. -/
def launchFillings (values : CollectedAttributes) : List Filling :=
  match values.text? "LaunchTarget" with
  | some target =>
      [⟨.bundleVariable, [(0, .text "LaunchTarget"), (1, .text target), (2, .text "string")]⟩]
  | none => []

/-- The columns of the options that are answered with yes, if there are any. -/
def optionsFillings (values : CollectedAttributes) : List Filling :=
  if flags.any fun flag => values.yesNo flag = .yes then
    [⟨.uiOptions, flags.zipIdx.filterMap fun (flag, column) =>
      if values.yesNo flag = .yes then some (column, .integer 1) else none⟩]
  else
    []

/-- The columns of the standard user interface. -/
def fillings (values : CollectedAttributes) : List Filling :=
  launchFillings values ++ Validator.linkFillings linkNames values ++ optionsFillings values

def validator : Validator :=
  { rule, afterChildren := missingLicense, fillings := fun _ values => fillings values }

end StandardUi
end BundleMarkup
