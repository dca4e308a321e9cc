import BundleMarkup.Bundle.Output
import BundleMarkup.Proofs.Records.Members
import Mathlib.Data.List.Forall2

/-!
# Reports are unambiguous

Two JSON values are the same if they differ at most in the order of members.  A report tells all of
a diagnostic, and of an output all but the columns and files of rows: where the reports are the
same, so is what they report of.
-/

namespace BundleMarkup

section

variable {α β : Type} {act : α → Option β} {list : List α}

/-- A list is gone through if every one of its members gives a result. -/
theorem forall₂_of_mapM_eq_some {results : List β} (run : list.mapM act = some results) :
    List.Forall₂ (fun member result => act member = some result) list results := by
  induction list generalizing results with
  | nil =>
      obtain rfl := Option.some.inj run
      exact .nil
  | cons member rest ih =>
      rw [List.mapM_cons] at run
      obtain ⟨result, first, run⟩ := Option.bind_eq_some_iff.mp run
      obtain ⟨others, later, run⟩ := Option.bind_eq_some_iff.mp run
      obtain rfl := Option.some.inj run
      exact .cons first (ih later)

theorem isSome_mapM : (list.mapM act).isSome ↔ ∀ member ∈ list, (act member).isSome := by
  induction list with
  | nil => simp
  | cons member rest ih =>
      rw [List.forall_mem_cons, ← ih, List.mapM_cons]
      cases act member <;> cases rest.mapM act <;> simp

end

namespace Json

variable {α β : Type}

/-- Equality of values in which the order of an object's members does not count. -/
inductive Same : Json → Json → Prop
  | null : Same .null .null
  | bool (value : Bool) : Same (.bool value) (.bool value)
  | integer (value : Int) : Same (.integer value) (.integer value)
  | decimal (digits : Int) (places : Nat) : Same (.decimal digits places) (.decimal digits places)
  | string (value : String) : Same (.string value) (.string value)
  | array {items items' : List Json} (each : List.Forall₂ Same items items') :
      Same (.array items) (.array items')
  | object {members members' : List (String × Json)}
      (each : ∀ name, Option.Rel Same (lookup name members) (lookup name members')) :
      Same (.object members) (.object members')

theorem mem_of_lookup {name : String} {members : List (String × Json)} {value : Json}
    (found : lookup name members = some value) : ∃ key, (key, value) ∈ members := by
  obtain ⟨⟨key, _⟩, member, rfl⟩ := Option.map_eq_some_iff.mp found
  exact ⟨key, List.mem_of_find?_eq_some member⟩

theorem Same.refl (value : Json) : Same value value := by
  match value with
  | .null => exact .null
  | .bool value => exact .bool value
  | .integer value => exact .integer value
  | .decimal digits places => exact .decimal digits places
  | .string value => exact .string value
  | .array items => exact .array (List.forall₂_same.mpr fun item _ => Same.refl item)
  | .object members =>
      refine .object fun name => ?_
      cases found : lookup name members with
      | none => exact .none
      | some value =>
          obtain ⟨key, among⟩ := mem_of_lookup found
          exact .some (Same.refl value)
termination_by sizeOf value
decreasing_by
  · have := List.sizeOf_lt_of_mem ‹_›
    simp
    omega
  · have := List.sizeOf_lt_of_mem among
    simp at this ⊢
    omega

/-- What is written of a value tells which value it is. -/
def Tells (write : α → Json) : Prop := ∀ left right, Same (write left) (write right) → left = right

/-- What a member that may be left out holds, or that it is left out, tells a value. -/
def TellsMember (write : α → Option Json) : Prop :=
  ∀ left right, Option.Rel Same (write left) (write right) → left = right

theorem tells_string : Tells .string := by
  intro left right same
  cases same
  rfl

theorem tells_name {name : α → String} (distinct : Function.Injective name) :
    Tells fun value => .string (name value) := fun _ _ same =>
  distinct (tells_string _ _ same)

theorem tells_integer : Tells .integer := by
  intro left right same
  cases same
  rfl

theorem tells_ofNat : Tells ofNat := fun _ _ same => Int.ofNat.inj (tells_integer _ _ same)

theorem forall₂_of_same_array {items items' : List Json}
    (same : Same (.array items) (.array items')) : List.Forall₂ Same items items' := by
  cases same with
  | array each => exact each

theorem eq_null_of_same_left {value : Json} (same : Same .null value) : value = .null := by
  cases same
  rfl

theorem eq_null_of_same_right {value : Json} (same : Same value .null) : value = .null := by
  cases same
  rfl

section

variable {write : α → Json} (tells : Tells write)

include tells

theorem eq_of_forall₂_same {list list' : List α}
    (same : List.Forall₂ Same (list.map write) (list'.map write)) : list = list' := by
  rw [List.forall₂_map_left_iff, List.forall₂_map_right_iff] at same
  exact List.forall₂_eq_eq_eq ▸ same.imp fun left right => tells left right

theorem Tells.array : Tells fun list : List α => .array (list.map write) := fun _ _ same =>
  eq_of_forall₂_same tells (forall₂_of_same_array same)

theorem Tells.member : TellsMember fun value => some (write value) := by
  intro left right same
  cases same with
  | some same => exact tells left right same

theorem Tells.optional : TellsMember (Option.map write) := by
  intro left right same
  cases left <;> cases right <;> cases same
  · rfl
  · rename_i same
    rw [tells _ _ same]

/-- A list that is left out when it is empty is told. -/
theorem Tells.listed : TellsMember fun list : List α =>
    if list.map write ≠ [] then some (.array (list.map write)) else none := by
  intro left right same
  cases left <;> cases right <;> cases same
  · rfl
  · rename_i same
    exact tells.array _ _ same

/-- A value that is `null` when there is none is told, if what is written of one is not `null`. -/
theorem Tells.nullable (nonnull : ∀ value, write value ≠ .null) : Tells (ofOption write) := by
  intro left right same
  cases left with
  | none =>
      cases right with
      | none => rfl
      | some value => exact absurd (eq_null_of_same_left same) (nonnull value)
  | some value =>
      cases right with
      | none => exact absurd (eq_null_of_same_right same) (nonnull value)
      | some value' => exact congrArg some (tells value value' same)

end

/-- The members of the same objects are the same. -/
theorem Same.lookup {value value' : Json} (same : Same value value') (name : String) :
    Option.Rel Same (lookup name value.members) (lookup name value'.members) := by
  cases same with
  | object each => exact each name
  | _ => exact .none

/-- What a member tells of a value is equal for values that are written the same. -/
theorem TellsMember.field {write : β → Option Json} (tells : TellsMember write) (name : String)
    (get : α → β) {whole : α → Json}
    (found : ∀ value, Json.lookup name (whole value).members = write (get value))
    {left right : α} (same : Same (whole left) (whole right)) : get left = get right := by
  have here := same.lookup name
  rw [found, found] at here
  exact tells _ _ here

end Json

open Json (Tells Same)

theorem Location.tells : Tells toJson := by
  intro left right same
  have number := Json.tells_ofNat.member
  have offset := number.field "offset" Location.offset (fun _ => rfl) same
  have row := number.field "row" Location.row (fun _ => rfl) same
  have column := number.field "column" Location.column (fun _ => rfl) same
  cases left
  cases right
  simp_all

theorem Extent.tells : Tells toJson := by
  intro left right same
  have location := Location.tells.member
  have start := location.field "start" Extent.start (fun _ => rfl) same
  have stop := location.field "end" Extent.stop (fun _ => rfl) same
  cases left
  cases right
  simp_all

theorem FileId.tells : Tells toJson := by
  intro left right same
  cases left
  cases right
  exact congrArg mk (Json.tells_ofNat _ _ same)

theorem SourceSpan.tells : Tells toJson := by
  intro left right same
  have file := FileId.tells.member.field "file_id" SourceSpan.file (fun _ => rfl) same
  have extent := Extent.tells.member.field "range" SourceSpan.extent (fun _ => rfl) same
  cases left
  cases right
  simp_all

theorem Severity.word_injective : Function.Injective word := by
  intro left right
  cases left <;> cases right <;> decide

theorem DetailKind.word_injective : Function.Injective word := by
  intro left right
  cases left <;> cases right <;> decide

/-- The word for the form of a content in its report. -/
def Content.form : Content → String
  | plain _ => "plain"
  | markdown _ => "markdown"

theorem Content.tells : Tells report := by
  intro left right same
  have string := Json.tells_string.member
  have form := string.field "type" Content.form (fun content => by cases content <;> rfl) same
  have text := string.field "content" Content.text (fun content => by cases content <;> rfl) same
  cases left <;> cases right <;> simp_all [Content.form, Content.text]

theorem Detail.tells : Tells report := by
  intro left right same
  have kind := (Json.tells_name DetailKind.word_injective).member.field "kind" Detail.kind
    (fun detail => by simp [report, Json.members]) same
  have content := Content.tells.member.field "content" Detail.content
    (fun detail => by simp [report, Json.members]) same
  have location := SourceSpan.tells.optional.field "location" Detail.location
    (fun detail => by simp [report, Json.members]) same
  cases left
  cases right
  simp_all

theorem Diagnostic.tells : Tells report := by
  intro left right same
  have severity := (Json.tells_name Severity.word_injective).member.field "kind"
    Diagnostic.severity (fun diagnostic => by simp [report, Json.members]) same
  have title := Json.tells_string.member.field "title" Diagnostic.title
    (fun diagnostic => by simp [report, Json.members]) same
  have code := Json.tells_string.optional.field "code" Diagnostic.code
    (fun diagnostic => by simp [report, Json.members]) same
  have problem := Content.tells.optional.field "problem" Diagnostic.problem
    (fun diagnostic => by simp [report, Json.members]) same
  have details := Detail.tells.listed.field "details" Diagnostic.details
    (fun diagnostic => by simp [report, Json.members]) same
  have hints := Content.tells.listed.field "hints" Diagnostic.hints
    (fun diagnostic => by simp [report, Json.members]) same
  have location := SourceSpan.tells.optional.field "location" Diagnostic.location
    (fun diagnostic => by simp [report, Json.members]) same
  cases left
  cases right
  simp_all

theorem FieldValue.tells : Tells toJson := by
  intro left right same
  cases left <;> cases right <;> cases same <;> rfl

theorem Table.name_injective : Function.Injective name := by
  intro left right
  cases left <;> cases right <;> decide

theorem FieldValue.toJson_ne_null (value : FieldValue) : value.toJson ≠ .null := by
  cases value <;> nofun

theorem Row.tells_fields : Tells fun fields : List (Option FieldValue) =>
    .array (fields.map (Json.ofOption FieldValue.toJson)) :=
  (FieldValue.tells.nullable FieldValue.toJson_ne_null).array

namespace Row

/-- The report of a row on a line. -/
def reportOn : Row × Nat → Json
  | (row, line) =>
      .object
        [("table", .string row.table.name), ("fields", row.fieldsJson), ("line", .ofNat line)]

theorem report?_eq_some {row : Row} {report : Json} (made : row.report? = some report) :
    ∃ line, row.source.line? = some line ∧ report = reportOn (row, line) := by
  obtain ⟨line, counted, made⟩ := Option.bind_eq_some_iff.mp made
  exact ⟨line, counted, (Option.some.inj made).symm⟩

theorem isSome_report? (row : Row) :
    row.report?.isSome ↔ row.source.extent.start.row < Word.largest := by
  unfold report? SourceSpan.line? Word.next?
  split
  · rename_i counted
    simp [counted]
  · rename_i beyond
    simp [beyond]

/-- Rows of one table with the same columns on the same line. -/
structure ReadsAs (left right : Row) : Prop where
  table : left.table = right.table
  fields : left.fields = right.fields
  line : left.source.line? = right.source.line?

theorem readsAs_of_same {left right : Row} {report report' : Json}
    (made : left.report? = some report) (made' : right.report? = some report')
    (same : Same report report') : left.ReadsAs right := by
  obtain ⟨line, counted, rfl⟩ := report?_eq_some made
  obtain ⟨line', counted', rfl⟩ := report?_eq_some made'
  have table := (Json.tells_name Table.name_injective).member.field "table"
    (fun placed : Row × Nat => placed.1.table) (fun _ => rfl) same
  have fields := tells_fields.member.field "fields" (fun placed : Row × Nat => placed.1.fields)
    (fun _ => rfl) same
  have lines := Json.tells_ofNat.member.field "line" (fun placed : Row × Nat => placed.2)
    (fun _ => rfl) same
  exact ⟨table, fields, counted.trans ((congrArg some lines).trans counted'.symm)⟩

theorem forall₂_readsAs {rows rows' : List Row} {reports reports' : List Json}
    (made : List.Forall₂ (fun row report => row.report? = some report) rows reports)
    (made' : List.Forall₂ (fun row report => row.report? = some report) rows' reports')
    (same : List.Forall₂ Same reports reports') : List.Forall₂ ReadsAs rows rows' := by
  induction made generalizing rows' reports' with
  | nil =>
      cases same
      cases made'
      exact .nil
  | cons first _ ih =>
      obtain - | ⟨here, later⟩ := same
      obtain - | ⟨first', others'⟩ := made'
      exact .cons (readsAs_of_same first first' here) (ih others' later)

end Row

namespace Output

theorem report?_eq_some {output : Output} {report : Json} (made : output.report? = some report) :
    ∃ reports, List.Forall₂ (fun row report => row.report? = some report) output.rows reports ∧
      report = .object [("rows", .array reports),
        ("diagnostics", .array (output.diagnostics.map Diagnostic.report))] := by
  obtain ⟨reports, rows, made⟩ := Option.bind_eq_some_iff.mp made
  exact ⟨reports, forall₂_of_mapM_eq_some rows, (Option.some.inj made).symm⟩

/-- An output has a report if every row has a line that can be counted. -/
theorem exists_report? {output : Output} : (∃ report, output.report? = some report) ↔
    ∀ row ∈ output.rows, row.source.extent.start.row < Word.largest := by
  have rows : output.report?.isSome = (output.rows.mapM Row.report?).isSome := by
    unfold report?
    cases output.rows.mapM Row.report? <;> rfl
  rw [← Option.isSome_iff_exists, rows, isSome_mapM]
  exact forall₂_congr fun row _ => Row.isSome_report? row

/--
Reports are unambiguous.  Diagnostics with the same report are equal.  An output has a report if its
rows are on lines that can be counted, and outputs with the same report have equal diagnostics and
rows of the same tables with the same columns on the same lines, in order.
-/
theorem reports_unambiguous :
    (∀ left right : Diagnostic, Same left.report right.report → left = right) ∧
    (∀ output : Output, (∃ report, output.report? = some report) ↔
      ∀ row ∈ output.rows, row.source.extent.start.row < Word.largest) ∧
    ∀ (left right : Output) (report report' : Json), left.report? = some report →
      right.report? = some report' → Same report report' →
      left.diagnostics = right.diagnostics ∧ List.Forall₂ Row.ReadsAs left.rows right.rows := by
  refine ⟨Diagnostic.tells, fun _ => exists_report?, ?_⟩
  intro left right report report' made made' same
  obtain ⟨reports, rows, rfl⟩ := report?_eq_some made
  obtain ⟨reports', rows', rfl⟩ := report?_eq_some made'
  constructor
  · have diagnostics := same.lookup "diagnostics"
    exact Diagnostic.tells.array.member _ _ diagnostics
  · have listed := same.lookup "rows"
    cases listed with
    | some listed => exact Row.forall₂_readsAs rows rows' (Json.forall₂_of_same_array listed)

/--
Two outputs whose rows differ in their place on a line have the same report; a text of digits and a
number do not.
-/
theorem reports_unambiguous_digits :
    let plain : Diagnostic := { severity := .note, title := "Unused", hints := [.plain ""] }
    let again : Diagnostic := { plain with details := plain.details.reverse }
    let output (column : Nat) (value : FieldValue) : Output :=
      ⟨[⟨.bundleVariable, [none, some (.text ""), some value],
        ⟨⟨0⟩, ⟨9, 3, column⟩, ⟨9, 3, column⟩⟩⟩], [plain]⟩
    (Same plain.report again.report ∧ plain = again) ∧
      (∃ report report', (output 1 (.text "7")).report? = some report ∧
        (output 2 (.text "7")).report? = some report' ∧ Same report report' ∧
        List.Forall₂ Row.ReadsAs (output 1 (.text "7")).rows (output 2 (.text "7")).rows) ∧
      ∃ report report', (output 1 (.text "7")).report? = some report ∧
        (output 1 (.integer 7)).report? = some report' ∧ ¬Same report report' := by
  intro plain again output
  obtain ⟨diagnostics, _, outputs⟩ := reports_unambiguous
  have same : Same plain.report again.report := .refl _
  refine ⟨⟨same, diagnostics _ _ same⟩, ⟨_, _, rfl, rfl, .refl _, ?_⟩, ⟨_, _, rfl, rfl, ?_⟩⟩
  · exact (outputs (output 1 (.text "7")) (output 2 (.text "7")) _ _ rfl rfl (.refl _)).2
  · intro told
    have rows :=
      (outputs (output 1 (.text "7")) (output 1 (.integer 7)) _ _ rfl rfl told).2
    obtain - | ⟨first, _⟩ := rows
    exact absurd first.fields (by decide)

end Output
end BundleMarkup
