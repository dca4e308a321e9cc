import BundleMarkup.Bundle.Validator

/-!
# The managed host

A `WixManagedBootstrapperApplicationHost` element configures what is shown before a managed
application can run.  Exactly one of its license file and its license link has a value; having
neither and having both are the same mistake.
-/

namespace BundleMarkup
namespace ManagedHost

def rule : ElementRule :=
  { attributes :=
      [{ name := "LicenseFile", kind := .nonEmptyText },
        { name := "LicenseUrl", kind := .nonEmptyText },
        { name := "LogoFile", kind := .nonEmptyText },
        { name := "ThemeFile", kind := .nonEmptyText },
        { name := "LocalizationFile", kind := .nonEmptyText },
        { name := "NetFxPackageId", kind := .nonEmptyText }] }

/-- The attributes that give variables of the linker their values, with the variables. -/
def linkNames : List (String × String) :=
  [("LicenseFile", "WixMbaPrereqLicenseRtf"), ("LicenseUrl", "WixMbaPrereqLicenseUrl"),
    ("LogoFile", "PreqbaLogo"), ("ThemeFile", "PreqbaThemeXml"),
    ("LocalizationFile", "PreqbaThemeWxl"), ("NetFxPackageId", "WixMbaPrereqPackageId")]

/-- A license that is missing or given twice. -/
def licenseProblem (element : Element) (values : CollectedAttributes) : List Diagnostic :=
  if values.isNullOrEmpty "LicenseFile" = values.isNullOrEmpty "LicenseUrl" then
    [Message.expectedExactlyOne element "LicenseFile" "LicenseUrl"]
  else
    []

def validator : Validator :=
  { rule
    afterChildren := licenseProblem
    fillings := fun _ values => Validator.linkFillings linkNames values }

end ManagedHost
end BundleMarkup
