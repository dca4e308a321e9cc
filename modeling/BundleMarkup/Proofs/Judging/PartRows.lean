import BundleMarkup.Proofs.Judging.Fillings

/-!
# Rows of parts

There are five ways in which a part adds a row, one for each table.  What holds of a row made in any
of them holds of all rows that parts add.
-/

namespace BundleMarkup

/-- The rows that an element of the extension gives with some values of its attributes. -/
inductive ElementKind.Gives (element : Element) (values : CollectedAttributes) :
    ElementKind → Row → Prop
  | condition {expression message : String}
      (found : LaunchCondition.expression? element = some expression)
      (given : values.text? "Message" = some message) :
      Gives element values .condition (.ofTexts .condition [expression, message] element.span)
  | launch {target : String} (given : values.text? "LaunchTarget" = some target) :
      Gives element values .standardUi
        (.ofTexts .bundleVariable ["LaunchTarget", target, "string"] element.span)
  | options {flag : String} (listed : flag ∈ StandardUi.flags)
      (yes : values.yesNo flag = .yes) :
      Gives element values .standardUi
        { table := .uiOptions
          fields := StandardUi.flags.map fun flag =>
            if values.yesNo flag = .yes then some (.integer 1) else none
          source := element.span }
  | link {kind : ElementKind} (id value : String) :
      Gives element values kind (.linkVariable id value element.span)

/-- The rows that a part adds. -/
inductive Part.Gives : Part → Row → Prop
  | ownElement {host element : Element} {kind : ElementKind} {row : Row}
      (routed : ElementKind.route? host.localName element.localName = some kind)
      (gives : kind.Gives element (kind.validator.rule.valuesOf element) row) :
      Gives (.ownElement host element) row
  | ownAttributes {host : Element} {attributes : List Attribute} {name : Attribute}
      (named : host.attribute? "Name" = some name) :
      Gives (.ownAttributes host attributes) (.ofTexts .overridable [name.value] host.span)

section

variable {element : Element} {values : CollectedAttributes} {row : Row}

theorem Validator.gives_of_mem_linkFillings {kind : ElementKind} {names : List (String × String)}
    (among : row ∈ Filling.rows (linkFillings names values) element.span) :
    kind.Gives element values row := by
  rw [rows_linkFillings] at among
  obtain ⟨⟨attrName, id⟩, _, made⟩ := List.mem_filterMap.mp among
  obtain ⟨value, _, rfl⟩ := Option.map_eq_some_iff.mp made
  exact .link id value

theorem StandardUi.gives_of_mem_fillings
    (among : row ∈ Filling.rows (fillings values) element.span) :
    ElementKind.standardUi.Gives element values row := by
  rw [fillings, Filling.rows_append, Filling.rows_append, List.mem_append, List.mem_append,
    or_assoc] at among
  obtain launch | link | options := among
  · rw [rows_launchFillings] at launch
    obtain ⟨target, given, rfl⟩ := List.mem_map.mp launch
    exact .launch (Option.mem_toList.mp given)
  · exact Validator.gives_of_mem_linkFillings link
  · rw [rows_optionsFillings] at options
    obtain ⟨answered, options⟩ := List.mem_ite_nil_right.mp options
    obtain rfl := List.mem_singleton.mp options
    obtain ⟨flag, listed, yes⟩ := List.any_eq_true.mp answered
    exact .options listed (of_decide_eq_true yes)

theorem LaunchCondition.gives_of_mem_fillings
    (among : row ∈ Filling.rows (fillings element values) element.span) :
    ElementKind.condition.Gives element values row := by
  rw [rows_fillings] at among
  split at among
  · rename_i expression message found given
    obtain rfl := List.mem_singleton.mp among
    exact .condition found given
  · cases among

theorem ElementKind.gives_of_mem_rows {kind : ElementKind}
    (among : row ∈ kind.validator.rows element values) : kind.Gives element values row := by
  cases kind with
  | condition => exact LaunchCondition.gives_of_mem_fillings among
  | standardUi => exact StandardUi.gives_of_mem_fillings among
  | managedHost => exact Validator.gives_of_mem_linkFillings among

end

theorem HostAttributes.gives_of_mem_ownRows {host : Element} {attributes : List Attribute}
    {row : Row} (among : row ∈ ownRows host attributes) :
    (Part.ownAttributes host attributes).Gives row := by
  unfold ownRows at among
  split at among
  · rw [rows_eq] at among
    split at among
    · rename_i name named
      obtain ⟨_, among⟩ := List.mem_ite_nil_right.mp among
      obtain rfl := List.mem_singleton.mp among
      obtain ⟨attr, given, rfl⟩ := Option.map_eq_some_iff.mp named
      exact .ownAttributes given
    · cases among
  · cases among

theorem Part.gives_of_mem_ownRows {part : Part} {row : Row} (among : row ∈ part.ownRows) :
    part.Gives row := by
  cases part with
  | foreignAttribute host attr => cases among
  | foreignElement host element => cases among
  | ownAttributes host attributes => exact HostAttributes.gives_of_mem_ownRows among
  | ownElement host element =>
      simp only [ownRows] at among
      split at among
      · rename_i routed
        exact .ownElement routed (ElementKind.gives_of_mem_rows among)
      · cases among

end BundleMarkup
