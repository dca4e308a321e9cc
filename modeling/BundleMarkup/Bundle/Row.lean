import BundleMarkup.Source.Record

/-!
# Rows

What a bundle is linked from: rows of a few tables, each with its columns.  A column that holds
nothing reads as null.
-/

namespace BundleMarkup

/-- The tables that rows belong to. -/
inductive Table
  | condition
  | bundleVariable
  | linkVariable
  | uiOptions
  /-- Variables that a command line may override. -/
  | overridable
  deriving DecidableEq, Repr

namespace Table

/-- All tables. -/
def all : List Table := [condition, bundleVariable, linkVariable, uiOptions, overridable]

/-- The name under which the linker knows a table. -/
def name : Table → String
  | condition => "WixBalCondition"
  | bundleVariable => "Variable"
  | linkVariable => "WixVariable"
  | uiOptions => "WixStdbaOptions"
  | overridable => "WixStdbaOverridableVariable"

/-- The columns of a table in order. -/
def columns : Table → List String
  | condition => ["Condition", "Message"]
  | bundleVariable => ["Id", "Value", "Type"]
  | linkVariable => ["Id", "Value"]
  | uiOptions =>
      ["SuppressOptionsUI", "SuppressDowngradeFailure", "SuppressRepair", "ShowVersion"]
  | overridable => ["Name"]

def columnCount (table : Table) : Nat := table.columns.length

end Table

/-- What a column holds. -/
inductive FieldValue
  | text (value : String)
  | integer (value : Int)
  deriving DecidableEq, Repr

namespace FieldValue

/-- A value as printed. -/
def render : FieldValue → String
  | text value => value
  | integer value => toString value

def toJson : FieldValue → Json
  | text value => .string value
  | integer value => .integer value

end FieldValue

/-- A row of a table. -/
structure Row where
  /-- The table that the row belongs to. -/
  table : Table
  /-- What the columns hold, in order. -/
  fields : List (Option FieldValue)
  /-- The element that the row comes from. -/
  source : SourceSpan
  deriving DecidableEq, Repr

namespace Row

/-- A row that holds nothing. -/
def blank (table : Table) (source : SourceSpan) : Row :=
  ⟨table, List.replicate table.columnCount none, source⟩

/-- A row with a column set, if the table has that column. -/
def set? (row : Row) (column : Nat) (value : FieldValue) : Option Row :=
  if column < row.fields.length then
    some { row with fields := row.fields.set column (some value) }
  else
    none

/-- Set columns one after another, if the row has them all. -/
def setAll? (row : Row) : List (Nat × FieldValue) → Option Row
  | [] => some row
  | (column, value) :: rest => (row.set? column value).bind fun row => setAll? row rest

/-- A row whose columns hold the given texts. -/
def ofTexts (table : Table) (texts : List String) (source : SourceSpan) : Row :=
  ⟨table, texts.map fun value => some (.text value), source⟩

/-- The row that gives a variable of the linker its value. -/
def linkVariable (id value : String) (source : SourceSpan) : Row :=
  ofTexts .linkVariable [id, value] source

/-- What a column holds, if it holds anything. -/
def field? (row : Row) (column : Nat) : Option FieldValue := (row.fields[column]?).join

/-- The text in a column. -/
def text? (row : Row) (column : Nat) : Option String :=
  match row.field? column with
  | some (.text value) => some value
  | _ => none

/-- The number in a column. -/
def integer? (row : Row) (column : Nat) : Option Int :=
  match row.field? column with
  | some (.integer value) => some value
  | _ => none

/-- A column as printed, with a dash for nothing. -/
def renderField : Option FieldValue → String
  | some value => value.render
  | none => "-"

/-- A row as printed: the table's name and the columns. -/
def render (row : Row) : String :=
  match row.fields with
  | [] => row.table.name ++ ":"
  | fields => row.table.name ++ ": " ++ String.intercalate " | " (fields.map renderField)

/-- The columns of a row as JSON. -/
def fieldsJson (row : Row) : Json := .array (row.fields.map (Json.ofOption FieldValue.toJson))

/-- The report of a row: its table, its columns and its line. -/
def report? (row : Row) : Option Json := do
  let line ← row.source.line?
  return .object
    [("table", .string row.table.name), ("fields", row.fieldsJson), ("line", .ofNat line)]

def toJson (row : Row) : Json :=
  .object
    [("table", .string row.table.name), ("fields", row.fieldsJson),
      ("source", row.source.toJson)]

end Row

/-- A table and what columns of a row of it are set to, in order. -/
structure Filling where
  table : Table
  columns : List (Nat × FieldValue)

namespace Filling

/-- The row that holds this and nothing else, if the table has the columns. -/
def row? (filling : Filling) (source : SourceSpan) : Option Row :=
  (Row.blank filling.table source).setAll? filling.columns

/-- The rows of fillings; one that names a column its table does not have makes none. -/
def rows (fillings : List Filling) (source : SourceSpan) : List Row :=
  fillings.filterMap (·.row? source)

theorem rows_append (front back : List Filling) (source : SourceSpan) :
    rows (front ++ back) source = rows front source ++ rows back source :=
  List.filterMap_append

/-- The columns of a variable of the linker. -/
def linkVariable (id value : String) : Filling :=
  ⟨.linkVariable, [(0, .text id), (1, .text value)]⟩

end Filling
end BundleMarkup
