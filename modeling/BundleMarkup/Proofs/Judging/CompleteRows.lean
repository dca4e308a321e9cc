import BundleMarkup.Proofs.Judging.LaunchCondition
import BundleMarkup.Proofs.Judging.Traces

/-!
# Complete rows

A part makes its rows by setting columns, by their numbers, in rows that hold nothing, and it never
names a column that the table does not have.  The rows of a compiled document are complete: they
have the columns of their tables, and these hold what the linker needs there.
-/

namespace BundleMarkup

variable {σ : Type}

/-- The columns that the extension's attributes on a host element fill. -/
def HostAttributes.ownFillings (parent : Element) (attributes : List Attribute) : List Filling :=
  match HostKind.named? parent.localName with
  | some .hostVariable => fillings parent attributes
  | _ => []

namespace Part

/-- The columns that a part fills in the rows that it adds. -/
def fillings : Part → List Filling
  | .foreignAttribute _ _ => []
  | .ownAttributes host attributes => HostAttributes.ownFillings host attributes
  | .ownElement host element =>
      match ElementKind.route? host.localName element.localName with
      | some kind => kind.validator.fillings element (kind.validator.rule.valuesOf element)
      | none => []
  | .foreignElement _ _ => []

theorem ownRows_eq (part : Part) : part.ownRows = Filling.rows part.fillings part.owner.span := by
  cases part with
  | foreignAttribute host attr => rfl
  | foreignElement host element => rfl
  | ownAttributes host attributes =>
      change HostAttributes.ownRows _ _ = Filling.rows (HostAttributes.ownFillings _ _) _
      rw [HostAttributes.ownRows, HostAttributes.ownFillings]
      cases HostKind.named? host.localName with
      | none => rfl
      | some kind => cases kind <;> rfl
  | ownElement host element =>
      simp only [ownRows, fillings]
      cases ElementKind.route? host.localName element.localName <;> rfl

end Part

section

variable {filling : Filling}

theorem Validator.isWithin_of_mem_linkFillings {names : List (String × String)}
    {values : CollectedAttributes} (among : filling ∈ linkFillings names values) :
    filling.IsWithin := by
  obtain ⟨⟨attrName, id⟩, _, made⟩ := List.mem_filterMap.mp among
  obtain ⟨value, _, rfl⟩ := Option.map_eq_some_iff.mp made
  simp [Filling.IsWithin, Filling.linkVariable, Table.columnCount, Table.columns]

theorem LaunchCondition.isWithin_of_mem_fillings {element : Element}
    {values : CollectedAttributes} (among : filling ∈ fillings element values) :
    filling.IsWithin := by
  unfold fillings at among
  split at among
  · obtain rfl := List.mem_singleton.mp among
    simp [Filling.IsWithin, Table.columnCount, Table.columns]
  · cases among

/-- There is a column for each option. -/
theorem StandardUi.isWithin_of_mem_optionsFillings {values : CollectedAttributes}
    (among : filling ∈ optionsFillings values) : filling.IsWithin := by
  obtain ⟨_, among⟩ := List.mem_ite_nil_right.mp among
  obtain rfl := List.mem_singleton.mp among
  intro entry inside
  obtain ⟨⟨flag, column⟩, listed, made⟩ := List.mem_filterMap.mp inside
  obtain ⟨_, made⟩ := Option.ite_none_right_eq_some.mp made
  obtain rfl := Option.some.inj made
  exact (List.mem_zipIdx' listed).1

theorem StandardUi.isWithin_of_mem_fillings {values : CollectedAttributes}
    (among : filling ∈ fillings values) : filling.IsWithin := by
  rw [fillings, List.mem_append, List.mem_append, or_assoc] at among
  obtain launch | link | options := among
  · unfold launchFillings at launch
    split at launch
    · obtain rfl := List.mem_singleton.mp launch
      simp [Filling.IsWithin, Table.columnCount, Table.columns]
    · cases launch
  · exact Validator.isWithin_of_mem_linkFillings link
  · exact isWithin_of_mem_optionsFillings options

theorem ElementKind.isWithin_of_mem_fillings {kind : ElementKind} {element : Element}
    {values : CollectedAttributes} (among : filling ∈ kind.validator.fillings element values) :
    filling.IsWithin := by
  cases kind with
  | condition => exact LaunchCondition.isWithin_of_mem_fillings among
  | standardUi => exact StandardUi.isWithin_of_mem_fillings among
  | managedHost => exact Validator.isWithin_of_mem_linkFillings among

theorem HostAttributes.isWithin_of_mem_fillings {parent : Element} {attributes : List Attribute}
    (among : filling ∈ fillings parent attributes) : filling.IsWithin := by
  unfold fillings at among
  split at among
  · obtain ⟨_, among⟩ := List.mem_ite_nil_right.mp among
    obtain rfl := List.mem_singleton.mp among
    simp [Filling.IsWithin, Table.columnCount, Table.columns]
  · cases among

/-- No part names a column that is not there. -/
theorem Part.isWithin_of_mem_fillings {part : Part} (among : filling ∈ part.fillings) :
    filling.IsWithin := by
  cases part with
  | foreignAttribute host attr => cases among
  | foreignElement host element => cases among
  | ownAttributes host attributes =>
      change filling ∈ HostAttributes.ownFillings _ _ at among
      unfold HostAttributes.ownFillings at among
      split at among
      · exact HostAttributes.isWithin_of_mem_fillings among
      · cases among
  | ownElement host element =>
      simp only [fillings] at among
      split at among
      · exact ElementKind.isWithin_of_mem_fillings among
      · cases among

end

namespace LaunchCondition

/-- An expression is more than white space and stands on one line, without tabs. -/
theorem expression?_eq_some {element : Element} {expression : String}
    (found : expression? element = some expression) :
    Text.allBlank expression.toList = false ∧
      ∀ char ∈ expression.toList, char ∉ ['\t', '\r', '\n'] := by
  unfold expression? at found
  split at found
  · cases found
  · rename_i first rest trimmed
    obtain rfl := Option.some.inj found
    rw [String.toList_ofList]
    constructor
    · rw [Text.allBlank, List.map_cons, List.all_cons, isBlank_flatten,
        Text.isBlank_of_trim_eq_cons trimmed, Bool.false_and]
    · intro char among
      obtain ⟨written, _, rfl⟩ := List.mem_map.mp among
      exact flatten_notMem written

end LaunchCondition

/-- A text that was read where the empty one is refused is not empty. -/
theorem ElementRule.ne_empty_of_text?_valuesOf {rule : ElementRule} {element : Element}
    {name value : String} {attrRule : AttributeRule} (known : rule.find? name = some attrRule)
    (textual : attrRule.kind = .nonEmptyText)
    (found : (rule.valuesOf element).text? name = some value) : value ≠ "" := by
  rw [CollectedAttributes.text?, get?_valuesOf element known, textual] at found
  cases given : element.ruledAttributes.find? (·.name.localName == name) with
  | none =>
      rw [given] at found
      cases found
  | some attr =>
      rw [given] at found
      by_cases empty : attr.value = ""
      · simp [ValueKind.read, empty] at found
      · obtain rfl : attr.value = value := by simpa [ValueKind.read, empty] using found
        exact empty

/-- The columns of a row hold what its table needs there: a condition its expression and its
message, a variable texts, options a one for each yes and at least one, and a variable that may be
overridden the name that one of the elements has. -/
def Row.IsComplete (elements : List Element) (row : Row) : Prop :=
  match row.table with
  | .condition =>
      ∃ expression message, row.fields = [some (.text expression), some (.text message)] ∧
        Text.allBlank expression.toList = false ∧
        (∀ char ∈ expression.toList, char ∉ ['\t', '\r', '\n']) ∧ message ≠ ""
  | .bundleVariable | .linkVariable =>
      ∃ texts : List String, row.fields = texts.map fun text => some (.text text)
  | .uiOptions =>
      (∀ field ∈ row.fields, field = none ∨ field = some (.integer 1)) ∧
        some (.integer 1) ∈ row.fields
  | .overridable =>
      ∃ element ∈ elements, element.span = row.source ∧
        ∃ name, element.attribute? "Name" = some name ∧ row.fields = [some (.text name.value)]

/-- The rows that a part of a document adds are complete. -/
theorem Part.isComplete_of_mem_ownRows {root : Element} {part : Part} (inside : part ∈ ofHost root)
    {row : Row} (among : row ∈ part.ownRows) : row.IsComplete root.inOrder := by
  cases gives_of_mem_ownRows among with
  | ownElement _ gives =>
      cases gives with
      | condition found given =>
          obtain ⟨filled, flat⟩ := LaunchCondition.expression?_eq_some found
          exact ⟨_, _, rfl, filled, flat,
            ElementRule.ne_empty_of_text?_valuesOf LaunchCondition.find?_rule rfl given⟩
      | @launch target _ => exact ⟨["LaunchTarget", target, "string"], rfl⟩
      | @options flag listed yes =>
          constructor
          · intro field held
            obtain ⟨_, _, rfl⟩ := List.mem_map.mp held
            split
            · exact .inr rfl
            · exact .inl rfl
          · exact List.mem_map.mpr ⟨flag, listed, if_pos yes⟩
      | link id value => exact ⟨[id, value], rfl⟩
  | @ownAttributes host _ name named =>
      obtain ⟨_, visited, stands⟩ := mem_ofHost.mp inside
      cases stands with
      | ownAttributes _ =>
          exact ⟨host, Element.mem_inOrder.mpr visited.within, rfl, name, named, rfl⟩

/-- The rows that a part adds have the columns of their tables. -/
theorem Part.length_fields_of_mem_ownRows {part : Part} {row : Row} (among : row ∈ part.ownRows) :
    row.fields.length = row.table.columnCount := by
  rw [ownRows_eq] at among
  obtain ⟨filling, _, makes⟩ := Filling.mem_rows.mp among
  exact Filling.length_fields_of_row? makes

namespace Session

/-- Without other extensions the rows of a document are rows of its parts. -/
theorem exists_part_of_mem_rows {session : Session σ} (bare : session.extensions = .empty)
    {document : Document} {row : Row} (among : row ∈ (session.compile document).1.rows) :
    ∃ part ∈ Part.ofHost document.root, row ∈ part.ownRows := by
  rw [session.compile_empty bare, Output.ofOutcomes, List.flatMap_map] at among
  obtain ⟨part, inside, among⟩ := List.mem_flatMap.mp among
  rw [Part.outcome, Outcome.rows_of] at among
  split at among
  · cases among
  · exact ⟨part, inside, among⟩

/--
Every part of a document, accepted or not, makes its rows by setting columns, all of which its
tables have.  Without other extensions the rows of a document are such rows: they have as many
columns as their tables, and the columns hold what is needed there.
-/
theorem compile_completes_rows (session : Session σ) (bare : session.extensions = .empty)
    (document : Document) :
    let parts := Part.ofHost document.root
    (∀ part ∈ parts,
      (∀ filling ∈ part.fillings, ∀ entry ∈ filling.columns,
        entry.1 < filling.table.columnCount) ∧
      part.fillings.map (·.row? part.owner.span) = part.ownRows.map some) ∧
    ∀ row ∈ (session.compile document).1.rows,
      (∃ part ∈ parts, row ∈ part.ownRows) ∧ row.fields.length = row.table.columnCount ∧
        row.IsComplete document.root.inOrder := by
  intro parts
  constructor
  · intro part _
    have within : ∀ filling ∈ part.fillings, filling.IsWithin :=
      fun _ => Part.isWithin_of_mem_fillings
    refine ⟨within, ?_⟩
    rw [Filling.map_row?_of_isWithin within, part.ownRows_eq]
  · intro row among
    obtain ⟨part, inside, owned⟩ := exists_part_of_mem_rows bare among
    exact ⟨⟨part, inside, owned⟩, Part.length_fields_of_mem_ownRows owned,
      Part.isComplete_of_mem_ownRows inside owned⟩

/-- One row for each table. -/
theorem compile_completes_rows_bundle :
    let attr (uri : Option String) (localName value : String) : Attribute :=
      ⟨⟨uri, localName, none⟩, default, value, default⟩
    let condition := { bareElement ownNamespace "Condition" with
      attributes := [attr none "Message" "m"]
      children := .mixed [.text " A\nB " default] }
    let ui := { bareElement ownNamespace "WixStandardBootstrapperApplication" with
      attributes := [attr none "LaunchTarget" "t", attr none "LicenseUrl" "",
        attr none "ShowVersion" "yes"] }
    let application := { bareElement hostNamespace "BootstrapperApplicationRef" with
      children := .ofElements [ui] }
    let host := { bareElement hostNamespace "Variable" with
      attributes := [attr none "Name" "V", attr (some ownNamespace) "Overridable" "yes"] }
    let bundle := { bareElement hostNamespace "Bundle" with
      children := .ofElements [condition, application, host] }
    let session : Session Unit := .start {} .empty
    let rows := (session.compile ⟨bundle, default⟩).1.rows
    session.extensions = .empty ∧
      rows.map (fun row => (row.table, row.fields)) =
        [(.condition, [some (.text "A B"), some (.text "m")]),
          (.bundleVariable, [some (.text "LaunchTarget"), some (.text "t"), some (.text "string")]),
          (.linkVariable, [some (.text "WixStdbaLicenseUrl"), some (.text "")]),
          (.uiOptions, [none, none, none, some (.integer 1)]),
          (.overridable, [some (.text "V")])] ∧
      ∀ row ∈ rows, row.fields.length = row.table.columnCount ∧
        row.IsComplete bundle.inOrder := by
  intro attr condition ui application host bundle session rows
  obtain ⟨_, complete⟩ := session.compile_completes_rows rfl ⟨bundle, default⟩
  exact ⟨rfl, by decide +kernel, fun row among => (complete row among).2⟩

end Session
end BundleMarkup
