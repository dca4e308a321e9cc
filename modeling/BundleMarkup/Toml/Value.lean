import BundleMarkup.Decimal.Shortest

/-!
# Configuration values

The values of a configuration text.  Tables remember how they came about, because that decides what
may still be added to them.
-/

namespace BundleMarkup
namespace Toml

/-- A number with a fraction or an exponent. -/
inductive Real
  /-- A number and its sign. -/
  | finite (isNegative : Bool) (size : BinaryNumber)
  | infinite (isNegative : Bool)
  | undefined
  deriving DecidableEq, Repr

/-- How a table came about. -/
inductive TableKind
  /-- Under a heading of its own. -/
  | headed
  /-- Around a table with a heading. -/
  | surrounding
  /-- By a dotted key. -/
  | dotted
  /-- In braces, as a value. -/
  | inline
  deriving DecidableEq, Repr

mutual

/-- A value. -/
inductive Value
  | string (text : String)
  /-- A whole number. -/
  | integer (value : Int)
  /-- A number with a fraction or an exponent. -/
  | real (value : Real)
  | boolean (value : Bool)
  /-- A date, a time or both, as written. -/
  | moment (written : String)
  /-- A list in brackets. -/
  | array (items : List Value)
  | table (table : Table)
  /-- The tables of a repeated heading. -/
  | tables (list : List Table)

/-- A table. -/
structure Table where
  /-- How the table came about. -/
  kind : TableKind
  /-- The table's entries in order. -/
  entries : List (String × Value)

end

namespace Table

def empty (kind : TableKind) : Table := ⟨kind, []⟩

/-- Whether dotted keys may add to a table. -/
def isOpen (table : Table) : Bool := table.kind = .surrounding || table.kind = .dotted

/-- The value of a key. -/
def find? (table : Table) (key : String) : Option Value :=
  (table.entries.find? (·.1 == key)).map (·.2)

def push (table : Table) (key : String) (value : Value) : Table :=
  { table with entries := table.entries ++ [(key, value)] }

/-- A table with another value for a key. -/
def replace (table : Table) (key : String) (value : Value) : Table :=
  { table with
    entries := table.entries.map fun entry => if entry.1 == key then (key, value) else entry }

def erase (table : Table) (key : String) : Table :=
  { table with entries := table.entries.filter (·.1 != key) }

/-- Change the table at the end of a path; tables that are missing on the way are made. -/
def update (missing : TableKind) (change : Table → Option Table) :
    List String → Table → Option Table
  | [], table => change table
  | key :: path, table =>
      match table.find? key with
      | none => do
          let inner ← update missing change path (empty missing)
          return table.push key (.table inner)
      | some (.table inner) =>
          if inner.kind = .inline || (missing = .dotted && !inner.isOpen) then
            none
          else do
            let inner ← update missing change path inner
            return table.replace key (.table inner)
      | some (.tables list) => do
          let inner ← update missing change path (← list.getLast?)
          return table.replace key (.tables (list.dropLast ++ [inner]))
      | some _ => none

/-- Give a dotted key its value; the key must be new. -/
def assign (path : List String) (key : String) (value : Value) (table : Table) : Option Table :=
  table.update .dotted
    (fun inner =>
      let isReached := if path.isEmpty then inner.kind ≠ .dotted else inner.kind = .dotted
      if isReached && (inner.find? key).isNone then some (inner.push key value) else none)
    path

/-- Give a table its heading; it must not have one. -/
def addHeading (path : List String) (key : String) (table : Table) : Option Table :=
  table.update .surrounding
    (fun parent =>
      match parent.find? key with
      | none => some (parent.push key (.table (empty .headed)))
      | some (.table inner) =>
          if inner.kind = .surrounding then
            some ((parent.erase key).push key (.table { inner with kind := .headed }))
          else
            none
      | some _ => none)
    path

/-- Add a table under a repeated heading. -/
def addRepeated (path : List String) (key : String) (table : Table) : Option Table :=
  table.update .surrounding
    (fun parent =>
      match parent.find? key with
      | none => some (parent.push key (.tables [empty .headed]))
      | some (.tables list) => some (parent.replace key (.tables (list ++ [empty .headed])))
      | some _ => none)
    path

end Table
end Toml
end BundleMarkup
