import BundleMarkup.Proofs.Judging.Plan
import Mathlib.Data.List.Basic

/-!
# Fillings

A filling makes a row exactly if its table has all the columns that it sets, and then the row has
the columns of the table.  What the elements of the extension and its attributes on host elements
fill comes to rows of texts and to one row of options.
-/

namespace BundleMarkup

namespace Row

/-- Columns can be set one after another exactly if the row has them all. -/
theorem isSome_setAll? {row : Row} {columns : List (Nat × FieldValue)} :
    (row.setAll? columns).isSome ↔ ∀ entry ∈ columns, entry.1 < row.fields.length := by
  induction columns generalizing row with
  | nil => simp [setAll?]
  | cons entry rest ih =>
      rw [setAll?, set?, List.forall_mem_cons]
      split
      · rename_i inside
        rw [Option.bind_some, ih, List.length_set]
        exact (and_iff_right inside).symm
      · rename_i outside
        simp [outside]

/-- Setting columns leaves a row in its table, with as many columns as before. -/
theorem setAll?_eq_some {row made : Row} {columns : List (Nat × FieldValue)}
    (sets : row.setAll? columns = some made) :
    made.fields.length = row.fields.length ∧ made.table = row.table := by
  induction columns generalizing row with
  | nil =>
      obtain rfl := Option.some.inj sets
      exact ⟨rfl, rfl⟩
  | cons entry rest ih =>
      obtain ⟨next, first, later⟩ := Option.bind_eq_some_iff.mp sets
      obtain ⟨_, first⟩ := Option.ite_none_right_eq_some.mp first
      obtain rfl := Option.some.inj first
      obtain ⟨length, table⟩ := ih later
      exact ⟨length.trans List.length_set, table⟩

/-- Setting the columns of chosen items, one column for each item and behind those already done. -/
theorem setAll?_chosen {α : Type} (chosen : α → Bool) (value : FieldValue) (table : Table)
    (source : SourceSpan) (front : List (Option FieldValue)) (items : List α) :
    (⟨table, front ++ List.replicate items.length none, source⟩ : Row).setAll?
        ((items.zipIdx front.length).filterMap fun (item, column) =>
          if chosen item then some (column, value) else none) =
      some ⟨table, front ++ items.map fun item => if chosen item then some value else none,
        source⟩ := by
  induction items generalizing front with
  | nil => rfl
  | cons item rest ih =>
      rw [List.zipIdx_cons, List.filterMap_cons]
      cases here : chosen item with
      | true =>
          have later := ih (front ++ [some value])
          simp only [List.length_append, List.length_singleton, List.append_assoc] at later
          simpa [setAll?, set?, here, List.replicate_succ] using later
      | false =>
          have later := ih (front ++ [none])
          simp only [List.length_append, List.length_singleton] at later
          simpa [here, List.replicate_succ] using later

end Row

namespace Filling

variable {filling : Filling} {source : SourceSpan} {row : Row}

/-- All columns that a filling sets are columns of its table. -/
def IsWithin (filling : Filling) : Prop :=
  ∀ entry ∈ filling.columns, entry.1 < filling.table.columnCount

theorem isSome_row? : (filling.row? source).isSome ↔ filling.IsWithin := by
  rw [row?, Row.isSome_setAll?, Row.blank, List.length_replicate, IsWithin]

theorem length_fields_of_row? (makes : filling.row? source = some row) :
    row.fields.length = row.table.columnCount := by
  obtain ⟨length, table⟩ := Row.setAll?_eq_some makes
  rw [length, table]
  exact List.length_replicate

theorem mem_rows {fillings : List Filling} :
    row ∈ rows fillings source ↔ ∃ filling ∈ fillings, filling.row? source = some row :=
  List.mem_filterMap

/-- No row is lost where no filling names a column that is not there. -/
theorem map_row?_of_isWithin {fillings : List Filling}
    (within : ∀ filling ∈ fillings, filling.IsWithin) (source : SourceSpan) :
    fillings.map (·.row? source) = (rows fillings source).map some := by
  induction fillings with
  | nil => rfl
  | cons first rest ih =>
      obtain ⟨here, later⟩ := List.forall_mem_cons.mp within
      have made : (first.row? source).isSome := isSome_row?.mpr here
      obtain ⟨row, makes⟩ := Option.isSome_iff_exists.mp made
      have rows_cons : rows (first :: rest) source = row :: rows rest source :=
        List.filterMap_cons_some makes
      rw [List.map_cons, ih later, makes, rows_cons, List.map_cons]

end Filling

/-- Variables of the linker are rows of two texts. -/
theorem Validator.rows_linkFillings (names : List (String × String))
    (values : CollectedAttributes) (source : SourceSpan) :
    Filling.rows (linkFillings names values) source =
      names.filterMap fun (attrName, id) =>
        (values.text? attrName).map fun value => .linkVariable id value source := by
  rw [Filling.rows, linkFillings, List.filterMap_filterMap]
  refine List.filterMap_congr fun (attrName, id) _ => ?_
  simp only
  cases values.text? attrName <;> rfl

/-- A launch condition is a row of two texts. -/
theorem LaunchCondition.rows_fillings (element : Element) (values : CollectedAttributes)
    (source : SourceSpan) :
    Filling.rows (fillings element values) source =
      match expression? element, values.text? "Message" with
      | some expression, some message => [.ofTexts .condition [expression, message] source]
      | _, _ => [] := by
  unfold fillings
  cases expression? element <;> cases values.text? "Message" <;> rfl

namespace StandardUi

variable (values : CollectedAttributes) (source : SourceSpan)

/-- The program to launch is a row of three texts. -/
theorem rows_launchFillings :
    Filling.rows (launchFillings values) source =
      (values.text? "LaunchTarget").toList.map fun target =>
        .ofTexts .bundleVariable ["LaunchTarget", target, "string"] source := by
  unfold launchFillings
  cases values.text? "LaunchTarget" <;> rfl

/-- The options are one row that holds a one for each yes. -/
theorem rows_optionsFillings :
    Filling.rows (optionsFillings values) source =
      if flags.any fun flag => values.yesNo flag = .yes then
        [{ table := .uiOptions
           fields := flags.map fun flag =>
             if values.yesNo flag = .yes then some (.integer 1) else none
           source }]
      else
        [] := by
  have chosen := Row.setAll?_chosen (fun flag => decide (values.yesNo flag = .yes)) (.integer 1)
    .uiOptions source [] flags
  simp only [decide_eq_true_eq] at chosen
  unfold optionsFillings
  split
  · exact List.filterMap_cons_some chosen
  · rfl

end StandardUi

/-- A variable that may be overridden is a row of its name. -/
theorem HostAttributes.rows_eq (parent : Element) (attributes : List Attribute) :
    rows parent attributes =
      match variableName? parent with
      | some name =>
          if isOverridable parent attributes then [.ofTexts .overridable [name] parent.span]
          else []
      | none => [] := by
  unfold rows fillings
  cases variableName? parent with
  | none => rfl
  | some name => cases isOverridable parent attributes <;> rfl

end BundleMarkup
