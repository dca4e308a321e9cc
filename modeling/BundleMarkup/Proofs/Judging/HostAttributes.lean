import BundleMarkup.Proofs.Judging.Acceptance
import BundleMarkup.Proofs.Judging.Reordering

/-!
# The extension's attributes on a host element

The extension's attributes on one host element are judged together: each has at most one fault, and
one fault takes the row away.  Elsewhere than on a host variable with a name every attribute is a
fault.  As long as the attributes have different local names, their order has no say in the row, and
neither has the place of the variable's name.
-/

namespace BundleMarkup

theorem HostKind.named?_eq_hostVariable {name : String} :
    named? name = some hostVariable ↔ name = "Variable" := by
  unfold named?
  split <;> simp_all

theorem HostAttributeKind.named?_eq_overridable {name : String} :
    named? name = some overridable ↔ name = "Overridable" :=
  ⟨eq_of_named?, fun same => same ▸ rfl⟩

theorem HostAttributeKind.named?_eq_none {name : String} :
    named? name = none ↔ name ≠ "Overridable" := by
  rw [Ne, ← named?_eq_overridable]
  cases named? name with
  | none => simp
  | some kind => cases kind; simp

namespace ValueKind

variable {element : Element} {attr : Attribute}

theorem refusal_yesNo :
    (yesNo.read element attr).2 =
      if attr.value = "" then some (Message.illegalEmptyValue element attr)
      else if attr.value.toLower = "yes" ∨ attr.value.toLower = "no" then none
      else some (Message.illegalYesNoValue element attr) := by
  have empty : attr.value.toLower = "" ↔ attr.value = "" := String.map_eq_empty
  simp only [← empty, read]
  by_cases yes : attr.value.toLower = "yes"
  · simp [yes]
  · by_cases no : attr.value.toLower = "no"
    · simp [no]
    · by_cases nothing : attr.value.toLower = "" <;> simp [yes, no, nothing]

end ValueKind

namespace HostAttributes

variable {parent : Element} {attr : Attribute} {attributes : List Attribute}

/-- What is wrong with an attribute of the extension on a host variable that has a name. -/
def fault? (parent : Element) (attr : Attribute) : Option Diagnostic :=
  if attr.name.localName ≠ "Overridable" then some (Message.unexpectedAttribute parent attr)
  else if attr.value = "" then some (Message.illegalEmptyValue parent attr)
  else if attr.value.toLower = "yes" ∨ attr.value.toLower = "no" then none
  else some (Message.illegalYesNoValue parent attr)

/-- Whether an attribute lets the command line override its variable. -/
def saysYes (attr : Attribute) : Bool :=
  attr.name.localName = "Overridable" && attr.value.toLower = "yes"

theorem problem?_of_name {name : String} (named : variableName? parent = some name) :
    problem? parent attr = fault? parent attr := by
  rw [problem?, named, fault?]
  by_cases answers : attr.name.localName = "Overridable"
  · rw [if_neg (not_not.mpr answers), ← ValueKind.refusal_yesNo,
      HostAttributeKind.named?_eq_overridable.mpr answers]
  · rw [if_pos answers, HostAttributeKind.named?_eq_none.mpr answers]

theorem isError_of_fault? {diagnostic : Diagnostic} (found : fault? parent attr = some diagnostic) :
    diagnostic.isError = true := by
  unfold fault? at found
  repeat' split at found
  all_goals cases found
  all_goals rfl

/-- Attributes of different local names have one answer at most, so the last answer is the only
one. -/
theorem isOverridable_iff (apart : (attributes.map (·.name.localName)).Nodup) :
    isOverridable parent attributes = true ↔ ∃ attr ∈ attributes, saysYes attr = true := by
  simp only [isOverridable, List.getLast?_filter, HostAttributeKind.named?_eq_overridable, saysYes,
    Bool.and_eq_true, decide_eq_true_eq]
  constructor
  · intro yes
    split at yes
    · rename_i answer found
      refine ⟨answer, List.mem_reverse.mp (List.mem_of_find?_eq_some found), ?_⟩
      have answers := List.find?_some found
      exact ⟨of_decide_eq_true answers, ValueKind.value_yesNo.mp (of_decide_eq_true yes)⟩
    · cases yes
  · rintro ⟨attr, among, answers, yes⟩
    have found : attributes.reverse.find? (·.name.localName = "Overridable") = some attr := by
      refine Lookup.find?_eq_some_of_unique (List.mem_reverse.mpr among) (decide_eq_true answers)
        fun other inside also => ?_
      exact List.inj_on_of_nodup_map apart (List.mem_reverse.mp inside) among
        ((of_decide_eq_true also).trans answers.symm)
    rw [found]
    exact decide_eq_true (ValueKind.value_yesNo.mpr yes)

section

variable (other : parent.localName ≠ "Variable")

include other

theorem problems_of_ne :
    problems parent attributes = attributes.map (Message.unexpectedAttribute parent) := by
  unfold problems
  split
  · rename_i bearer
    exact absurd (HostKind.named?_eq_hostVariable.mp bearer) other
  · rfl

theorem ownRows_of_ne : ownRows parent attributes = [] := by
  unfold ownRows
  split
  · rename_i bearer
    exact absurd (HostKind.named?_eq_hostVariable.mp bearer) other
  · rfl

end

section

variable (bearer : parent.localName = "Variable")

include bearer

theorem problems_of_nameless (nameless : parent.attribute? "Name" = none) :
    problems parent attributes =
      attributes.map fun attr => Message.expectedParentWithAttribute parent attr "Name" := by
  have unnamed : variableName? parent = none := by rw [variableName?, nameless, Option.map_none]
  rw [problems, HostKind.named?_eq_hostVariable.mpr bearer]
  refine Eq.trans (List.filterMap_congr fun attr _ => ?_)
    (congrFun List.filterMap_eq_map attributes)
  rw [problem?, unnamed]
  rfl

theorem ownRows_of_nameless (nameless : parent.attribute? "Name" = none) :
    ownRows parent attributes = [] := by
  rw [ownRows, HostKind.named?_eq_hostVariable.mpr bearer, rows_eq, variableName?, nameless,
    Option.map_none]

variable {name : Attribute} (named : parent.attribute? "Name" = some name)

include named

theorem problems_of_name : problems parent attributes = attributes.filterMap (fault? parent) := by
  have given : variableName? parent = some name.value := by
    rw [variableName?, named, Option.map_some]
  rw [problems, HostKind.named?_eq_hostVariable.mpr bearer]
  exact List.filterMap_congr fun attr _ => problem?_of_name given

theorem ownRows_of_name (apart : (attributes.map (·.name.localName)).Nodup) :
    ownRows parent attributes =
      if ∃ attr ∈ attributes, saysYes attr = true then
        [.ofTexts .overridable [name.value] parent.span]
      else
        [] := by
  rw [ownRows, HostKind.named?_eq_hostVariable.mpr bearer, rows_eq, variableName?, named,
    Option.map_some]
  simp only [isOverridable_iff apart]

end

theorem isError_of_mem_problems {diagnostic : Diagnostic}
    (among : diagnostic ∈ problems parent attributes) : diagnostic.isError = true := by
  by_cases bearer : parent.localName = "Variable"
  · cases named : parent.attribute? "Name" with
    | none =>
        rw [problems_of_nameless bearer named] at among
        obtain ⟨attr, _, rfl⟩ := List.mem_map.mp among
        rfl
    | some name =>
        rw [problems_of_name bearer named] at among
        obtain ⟨attr, _, found⟩ := List.mem_filterMap.mp among
        exact isError_of_fault? found
  · rw [problems_of_ne bearer] at among
    obtain ⟨attr, _, rfl⟩ := List.mem_map.mp among
    rfl

/-- The policy has no say in what comes of the extension's attributes on a host element. -/
theorem judge_eq_of (policy : WarningPolicy) (parent : Element) (attributes : List Attribute) :
    judge policy parent attributes =
      .of (problems parent attributes) (ownRows parent attributes) := by
  rw [judge_eq, Outcome.settle_map_ofDiagnostic]
  congr 1
  refine (List.filterMap_congr fun diagnostic among => ?_).trans List.filterMap_some
  exact policy.apply_of_isError (isError_of_mem_problems among)

theorem rows_judge (policy : WarningPolicy) :
    (judge policy parent attributes).rows =
      if problems parent attributes = [] then ownRows parent attributes else [] := by
  have clean : Diagnostic.anyError (problems parent attributes) = false ↔ _ :=
    Diagnostic.anyError_eq_false fun _ => isError_of_mem_problems
  rw [judge_eq_of, Outcome.rows_of]
  cases found : Diagnostic.anyError (problems parent attributes) with
  | false => rw [if_neg Bool.false_ne_true, if_pos (clean.mp found)]
  | true =>
      have faulty : problems parent attributes ≠ [] := fun none => by
        rw [clean.mpr none] at found
        cases found
      rw [if_pos rfl, if_neg faulty]

/-- There is a row exactly if a host variable has a name and some attribute says yes and none has a
fault. -/
theorem rows_judge_ne_nil (policy : WarningPolicy)
    (apart : (attributes.map (·.name.localName)).Nodup) :
    (judge policy parent attributes).rows ≠ [] ↔
      parent.localName = "Variable" ∧ (parent.attribute? "Name").isSome = true ∧
        (∀ attr ∈ attributes, fault? parent attr = none) ∧
        ∃ attr ∈ attributes, saysYes attr = true := by
  rw [rows_judge]
  by_cases bearer : parent.localName = "Variable"
  · cases named : parent.attribute? "Name" with
    | none => simp [ownRows_of_nameless bearer named]
    | some name =>
        simp [problems_of_name bearer named, ownRows_of_name bearer named apart, bearer,
          List.filterMap_eq_nil_iff]
  · simp [ownRows_of_ne bearer, bearer]

theorem rows_judge_reordered (policy : WarningPolicy)
    (apart : (attributes.map (·.name.localName)).Nodup) {written others : List Attribute}
    (placed : parent.attributes.Perm written) (reordered : attributes.Perm others) :
    (judge policy { parent with attributes := written } others).rows = [] ↔
      (judge policy parent attributes).rows = [] := by
  have apart' : (others.map (·.name.localName)).Nodup := (reordered.map _).nodup_iff.mp apart
  have name : (({ parent with attributes := written } : Element).attribute? "Name").isSome =
      (parent.attribute? "Name").isSome := by
    rw [Element.attribute?, Element.attribute?, List.isSome_find?, List.isSome_find?]
    exact placed.symm.any_eq
  have fault : fault? { parent with attributes := written } = fault? parent := rfl
  rw [← not_iff_not, ← Ne, ← Ne, rows_judge_ne_nil policy apart, rows_judge_ne_nil policy apart',
    name, fault]
  simp only [reordered.mem_iff]
  rfl

end HostAttributes

namespace Session

variable {σ : Type}

/--
The extension's attributes on a host element, as far as they have different local names, come to one
fault for each attribute where the element is no variable or has no name; on a variable with a name,
to the faults of the attributes and, if there are none and one of them says yes, to one row with
that name.  Whether there is a row is no matter of the order of the attributes or of the place of
the name.
-/
theorem judgeAttributes_together (session : Session σ) (parent : Element)
    {attributes : List Attribute} (apart : (attributes.map (·.name.localName)).Nodup) :
    let outcome := (session.judgeAttributes parent attributes).1
    (parent.localName ≠ "Variable" →
      outcome.diagnostics = attributes.map (Message.unexpectedAttribute parent) ∧
        outcome.rows = []) ∧
    (parent.localName = "Variable" → parent.attribute? "Name" = none →
      outcome.diagnostics =
          attributes.map (fun attr => Message.expectedParentWithAttribute parent attr "Name") ∧
        outcome.rows = []) ∧
    (∀ name, parent.localName = "Variable" → parent.attribute? "Name" = some name →
      outcome.diagnostics = attributes.filterMap (HostAttributes.fault? parent) ∧
        outcome.rows =
          if outcome.diagnostics = [] ∧
              ∃ attr ∈ attributes, HostAttributes.saysYes attr = true then
            [.ofTexts .overridable [name.value] parent.span]
          else
            []) ∧
    ∀ written others, parent.attributes.Perm written → attributes.Perm others →
      let moved := (session.judgeAttributes { parent with attributes := written } others).1
      moved.rows = [] ↔ outcome.rows = [] := by
  intro outcome
  have diagnostics : outcome.diagnostics = HostAttributes.problems parent attributes := by
    simp only [outcome, judgeAttributes, HostAttributes.judge_eq_of, Outcome.diagnostics_of]
  have rows : outcome.rows = if HostAttributes.problems parent attributes = [] then
      HostAttributes.ownRows parent attributes else [] := HostAttributes.rows_judge session.policy
  refine ⟨fun other => ⟨?_, ?_⟩, fun bearer nameless => ⟨?_, ?_⟩, fun name bearer named => ⟨?_, ?_⟩,
    fun _ _ => HostAttributes.rows_judge_reordered session.policy apart⟩
  · rw [diagnostics, HostAttributes.problems_of_ne other]
  · rw [rows, HostAttributes.ownRows_of_ne other, ite_self]
  · rw [diagnostics, HostAttributes.problems_of_nameless bearer nameless]
  · rw [rows, HostAttributes.ownRows_of_nameless bearer nameless, ite_self]
  · rw [diagnostics, HostAttributes.problems_of_name bearer named]
  · rw [rows, diagnostics, HostAttributes.ownRows_of_name bearer named apart, ite_and]

/-- An answer in capitals overrides; beside an attribute that is not known it is of no use. -/
theorem judgeAttributes_together_unknown :
    let session : Session Unit := .start {} .empty
    let attr (uri : Option String) (localName value : String) : Attribute :=
      ⟨⟨uri, localName, none⟩, default, value, default⟩
    let yes := attr (some ownNamespace) "Overridable" "YES"
    let unknown := attr (some ownNamespace) "Hidden" "no"
    let host := { bareElement hostNamespace "Variable" with
      attributes := [attr (some "urn:x") "Name" "U", yes, attr none "Name" "V"] }
    let moved := { host with
      attributes := [attr none "Name" "V", attr (some "urn:x") "Name" "U", yes] }
    let outcome (host : Element) (attributes : List Attribute) :=
      (session.judgeAttributes host attributes).1
    ([unknown, yes].map (·.name.localName)).Nodup ∧
      (outcome host [yes]).rows = [.ofTexts .overridable ["V"] default] ∧
      (outcome host [unknown, yes]).diagnostics = [Message.unexpectedAttribute host unknown] ∧
      (outcome host [unknown, yes]).rows = [] ∧ (outcome moved [yes, unknown]).rows = [] := by
  intro session attr yes unknown host moved outcome
  have apart : ([unknown, yes].map (·.name.localName)).Nodup := by decide
  have bearer : host.localName = "Variable" := rfl
  have named : host.attribute? "Name" = some (attr none "Name" "V") := by decide +kernel
  obtain ⟨_, _, alone, _⟩ := session.judgeAttributes_together host
    (show ([yes].map (·.name.localName)).Nodup by decide)
  obtain ⟨_, _, beside, reordered⟩ := session.judgeAttributes_together host apart
  obtain ⟨clean, row⟩ := alone _ bearer named
  obtain ⟨fault, none⟩ := beside _ bearer named
  have rows : (outcome host [unknown, yes]).rows = [] := by
    rw [none, fault]
    decide +kernel
  refine ⟨apart, ?_, ?_, rows, (reordered moved.attributes [yes, unknown] ?_ ?_).mpr rows⟩
  · rw [row, clean]
    decide +kernel
  · rw [fault]
    decide +kernel
  · decide +kernel
  · decide +kernel

end Session
end BundleMarkup
