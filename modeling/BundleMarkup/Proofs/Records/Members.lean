import BundleMarkup.Diagnostic.Record

/-!
# Members of records

A record's members are found by name, whether they are written always or only when there is
something to write.  A value is kept by a writer and a reader if it is read back as it is; lists and
optional fields are kept if what is in them is.
-/

namespace BundleMarkup
namespace Json

variable {α : Type}

section

variable (name : String)

@[simp]
theorem lookup_nil : lookup name [] = none := rfl

@[simp]
theorem lookup_cons (key : String) (value : Json) (rest : List (String × Json)) :
    lookup name ((key, value) :: rest) = if key = name then some value else lookup name rest := by
  by_cases same : key = name <;> simp [lookup, same]

@[simp]
theorem lookup_append (front back : List (String × Json)) :
    lookup name (front ++ back) = (lookup name front).or (lookup name back) := by
  simp [lookup, Option.map_or]

@[simp]
theorem lookup_optionalMember (key : String) (write : α → Json) (value : Option α) :
    lookup name (optionalMember key write value) =
      if key = name then value.map write else none := by
  cases value <;> simp [optionalMember, lookup_cons]

@[simp]
theorem lookup_listMember (key : String) (items : List Json) :
    lookup name (Diagnostic.listMember key items) =
      if key = name ∧ items ≠ [] then some (.array items) else none := by
  cases items <;> simp [Diagnostic.listMember, lookup_cons]

end

/-- What is written of a value is read as that value, and it is not `null`. -/
structure Keeps (write : α → Json) (read : Json → Option α) (value : α) : Prop where
  read_write : read (write value) = some value
  ne_null : write value ≠ .null

theorem keeps_ofNat {number : Nat} (fits : number ≤ Word.largest) : Keeps ofNat nat? number :=
  ⟨if_pos fits, nofun⟩

theorem keeps_string (text : String) : Keeps .string text? text := ⟨rfl, nofun⟩

section

variable {write : α → Json} {read : Json → Option α}

theorem keeps_array {list : List α} (each : ∀ value ∈ list, Keeps write read value) :
    Keeps (fun list => .array (list.map write)) (list? read) list := by
  refine ⟨?_, nofun⟩
  change (list.map write).mapM read = some list
  induction list with
  | nil => rfl
  | cons first rest ih =>
      have head := (each first List.mem_cons_self).read_write
      have tail := ih fun value among => each value (List.mem_cons_of_mem first among)
      rw [List.map_cons, List.mapM_cons, head, tail]
      rfl

variable {name : String} {members : List (String × Json)}

theorem field?_eq {value : α} (keeps : Keeps write read value)
    (found : lookup name members = some (write value)) :
    field? name read members = some value := by
  rw [field?, found, Option.bind_some, keeps.read_write]

theorem nullable?_of_keeps {value : α} (keeps : Keeps write read value) :
    nullable? read (write value) = some (some value) := by
  unfold nullable?
  split
  · rename_i null
    exact absurd null keeps.ne_null
  · rw [keeps.read_write]
    rfl

/-- A field that is left out when there is nothing to write is read back. -/
theorem optionalField?_eq {value : Option α} (each : ∀ item ∈ value, Keeps write read item)
    (found : lookup name members = value.map write) :
    optionalField? name read members = some value := by
  unfold optionalField?
  rw [found]
  cases value with
  | none => rfl
  | some item => exact nullable?_of_keeps (each item rfl)

/-- A field that is `null` when there is nothing to write is read back. -/
theorem optionalField?_ofOption {value : Option α} (each : ∀ item ∈ value, Keeps write read item)
    (found : lookup name members = some (ofOption write value)) :
    optionalField? name read members = some value := by
  unfold optionalField?
  rw [found]
  cases value with
  | none => rfl
  | some item => exact nullable?_of_keeps (each item rfl)

end

end Json
end BundleMarkup
