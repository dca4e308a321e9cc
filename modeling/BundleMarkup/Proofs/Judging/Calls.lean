import BundleMarkup.Proofs.Judging.Delegation

/-!
# Calls of an extension

An extension is called for the markup of its namespace: for the attributes and children of host
elements and of the extension's elements that a validator judges, each once and in document order.
Where it is called depends on nothing but the document and its namespace.
-/

namespace BundleMarkup

variable {σ : Type}

/-- The extensions of a registry have namespaces of their own, and none that is reserved. -/
structure Extensions.IsRegistry (extensions : Extensions σ) : Prop where
  distinct : extensions.namespaces.Nodup
  unreserved : ∀ uri ∈ extensions.namespaces, isReservedNamespace uri = false

namespace Extensions

variable {extensions later : Extensions σ}

theorem isRegistry_empty : (empty : Extensions σ).IsRegistry :=
  ⟨List.nodup_nil, fun _ among => nomatch among⟩

/-- Registering an extension leaves a registry. -/
theorem IsRegistry.register (registry : extensions.IsRegistry) {extension : Extension σ} {state : σ}
    (registers : extensions.register extension state = .ok later) : later.IsRegistry := by
  unfold Extensions.register at registers
  split at registers
  · cases registers
  · rename_i free
    split at registers
    · cases registers
    · rename_i new
      obtain rfl := Except.ok.inj registers
      have names : namespaces ⟨extensions.loaded ++ [⟨extension, state⟩]⟩ =
          extensions.namespaces ++ [extension.namespaceUri] := by
        simp [namespaces, Loaded.namespaceUri]
      have absent : extension.namespaceUri ∉ extensions.namespaces := by
        simpa [contains] using new
      constructor
      · rw [names]
        refine List.nodup_append.mpr ⟨registry.distinct, List.pairwise_singleton _ _, ?_⟩
        rintro before among last inside rfl
        exact absent (List.mem_singleton.mp inside ▸ among)
      · rw [names]
        intro uri among
        rcases List.mem_append.mp among with before | last
        · exact registry.unreserved uri before
        · obtain rfl := List.mem_singleton.mp last
          simpa using free

/-- The namespaces of extensions are no matter of their states. -/
theorem namespaces_congr {left right : Extensions σ} (kinds : left.kinds = right.kinds) :
    left.namespaces = right.namespaces := by
  have names (extensions : Extensions σ) :
      extensions.namespaces = extensions.kinds.map Extension.namespaceUri := by
    simp [namespaces, Extensions.kinds, Loaded.namespaceUri, Function.comp_def]
  rw [names, names, kinds]

/-- Being called leaves a registry. -/
theorem IsRegistry.performAll (registry : extensions.IsRegistry) (steps : List Step) :
    (extensions.performAll steps).2.IsRegistry := by
  have names := namespaces_congr (extensions.kinds_performAll steps)
  exact ⟨names ▸ registry.distinct, names ▸ registry.unreserved⟩

end Extensions

namespace Loaded

/-- A recording extension's namespace and the calls that it has recorded. -/
def record (recorder : Loaded (σ × List Call)) : String × List Call :=
  (recorder.namespaceUri, recorder.state.2)

/-- Of extensions with different namespaces, only that of the call's namespace records it. -/
theorem map_record_answer {recorders : List (Loaded (σ × List Call))}
    (distinct : (recorders.map namespaceUri).Nodup) {call : Call}
    {act : Loaded (σ × List Call) → Outcome × σ × List Call}
    (acts : ∀ recorder ∈ recorders, (act recorder).2.2 = recorder.state.2 ++ [call])
    (otherwise : Outcome) :
    (answer call.uri act otherwise recorders).2.map record =
      recorders.map fun recorder =>
        (recorder.namespaceUri,
          recorder.state.2 ++ [call].filter (·.uri = recorder.namespaceUri)) := by
  induction recorders with
  | nil => rfl
  | cons first rest ih =>
      obtain ⟨new, others⟩ := List.nodup_cons.mp distinct
      rw [answer]
      by_cases called : first.namespaceUri = call.uri
      · have elsewhere : rest.map record = rest.map fun recorder =>
            (recorder.namespaceUri,
              recorder.state.2 ++ [call].filter (·.uri = recorder.namespaceUri)) := by
          refine List.map_congr_left fun recorder among => ?_
          have different : call.uri ≠ recorder.namespaceUri := by
            rintro same
            exact new (List.mem_map.mpr ⟨recorder, among, same.symm.trans called.symm⟩)
          simp [record, different]
        have here := acts first List.mem_cons_self
        simp only [called, if_true, List.map_cons, elsewhere]
        simp [record, namespaceUri, here, ← called]
      · have later := ih others fun recorder among => acts recorder (List.mem_cons_of_mem _ among)
        have uncalled : call.uri ≠ first.namespaceUri := fun same => called same.symm
        simp only [called, if_false, List.map_cons, later]
        simp [record, uncalled]

end Loaded

/-- The calls about markup of a namespace that steps make, in order. -/
def Step.callsIn (uri : String) (steps : List Step) : List Call :=
  (steps.filterMap call?).filter (·.uri = uri)

@[simp]
theorem Step.callsIn_nil (uri : String) : callsIn uri [] = [] := rfl

@[simp]
theorem Step.callsIn_append (uri : String) (front back : List Step) :
    callsIn uri (front ++ back) = callsIn uri front ++ callsIn uri back := by
  simp [callsIn]

namespace Extensions

/-- What recording extensions have recorded, by namespaces. -/
def records (recorders : Extensions (σ × List Call)) : List (String × List Call) :=
  recorders.loaded.map Loaded.record

/-- Extensions that all keep records. -/
def AreRecording (recorders : Extensions (σ × List Call)) : Prop :=
  ∀ kind ∈ recorders.kinds, ∃ extension : Extension σ, kind = extension.recording

theorem areRecording_recording (extensions : Extensions σ) : extensions.recording.AreRecording := by
  intro kind among
  simp only [kinds, recording, List.map_map, List.mem_map] at among
  obtain ⟨loaded, _, rfl⟩ := among
  exact ⟨loaded.extension, rfl⟩

theorem namespaces_recording (extensions : Extensions σ) :
    extensions.recording.namespaces = extensions.namespaces := by
  simp [namespaces, recording, Loaded.namespaceUri, Extension.recording, Function.comp_def]

/-- To begin with, nothing is recorded. -/
theorem records_recording (extensions : Extensions σ) :
    extensions.recording.records = extensions.namespaces.map fun uri => (uri, []) := by
  simp [records, recording, Loaded.record, namespaces, Loaded.namespaceUri, Extension.recording,
    Function.comp_def]

variable {recorders : Extensions (σ × List Call)}

theorem AreRecording.acts (recording : recorders.AreRecording) (call : Call)
    {act : Loaded (σ × List Call) → Outcome × σ × List Call}
    (adds : ∀ (extension : Extension σ) state,
      (act ⟨extension.recording, state⟩).2.2 = state.2 ++ [call]) :
    ∀ recorder ∈ recorders.loaded, (act recorder).2.2 = recorder.state.2 ++ [call] := by
  rintro ⟨kind, state⟩ among
  obtain ⟨extension, rfl⟩ := recording kind (List.mem_map.mpr ⟨_, among, rfl⟩)
  exact adds extension state

/-- A step adds to each record the call of its namespace, if it makes one. -/
theorem records_perform (recording : recorders.AreRecording)
    (distinct : recorders.namespaces.Nodup) (step : Step) :
    (recorders.perform step).2.records =
      recorders.records.map fun record => (record.1, record.2 ++ Step.callsIn record.1 [step]) := by
  rw [records, records, List.map_map]
  cases step with
  | report diagnostic => simp [perform, Step.callsIn, Step.call?, Loaded.record]
  | delegateAttribute bearer attr =>
      exact Loaded.map_record_answer distinct
        (recording.acts (.attr bearer attr) fun extension state => rfl) _
  | delegateElement parent element =>
      exact Loaded.map_record_answer distinct
        (recording.acts (.element parent element) fun extension state => rfl) _

/-- Steps add to each record the calls of its namespace, in order. -/
theorem records_performAll (recording : recorders.AreRecording)
    (distinct : recorders.namespaces.Nodup) (steps : List Step) :
    (recorders.performAll steps).2.records =
      recorders.records.map fun record => (record.1, record.2 ++ Step.callsIn record.1 steps) := by
  induction steps generalizing recorders with
  | nil => simp
  | cons step rest ih =>
      have kinds := recorders.kinds_perform step
      have names := namespaces_congr kinds
      have later := @ih (recorders.perform step).2 (by rwa [AreRecording, kinds]) (by rwa [names])
      rw [performAll_cons, later, records_perform recording distinct, List.map_map]
      refine List.map_congr_left fun record _ => ?_
      have calls := Step.callsIn_append record.1 [step] rest
      rw [List.singleton_append] at calls
      simp [calls]

end Extensions

namespace Step

variable {uri : String}

theorem callsIn_map_report (diagnostics : List Diagnostic) :
    callsIn uri (diagnostics.map .report) = [] := by
  induction diagnostics with
  | nil => rfl
  | cons first rest ih => exact ih

theorem callsIn_flatMap {α : Type} (list : List α) (steps : α → List Step) :
    callsIn uri (list.flatMap steps) = list.flatMap fun member => callsIn uri (steps member) := by
  rw [callsIn, List.filterMap_flatMap, List.filter_flatMap]
  rfl

end Step

namespace Element

/-- The calls for the attributes of an element in a namespace. -/
def attributeCalls (uri : String) (bearer : Element) : List Call :=
  (bearer.attributes.filter fun attr => attr.name.namespaceUri = uri).map (Call.attr bearer)

/-- The calls for the children of an element in a namespace. -/
def childCalls (uri : String) (parent : Element) : List Call :=
  (parent.childElements.filter fun child => child.name.namespaceUri = uri).map (Call.element parent)

/-- The calls for a child of a host element that is no host markup: one if it is in the namespace,
and those for its own attributes and children if it is an element that a validator judges. -/
def markupCalls (uri : String) (host child : Element) : List Call :=
  if child.name.namespaceUri = uri then
    [.element host child]
  else if child.name.namespaceUri = ownNamespace ∧
      (ElementKind.route? host.localName child.localName).isSome then
    child.attributeCalls uri ++ child.childCalls uri
  else
    []

/-- The calls for a host element: for its attributes and then for its children, in order. -/
def callsIn (uri : String) (host : Element) : List Call :=
  host.attributeCalls uri ++ host.childElements.attach.flatMap fun ⟨child, _⟩ =>
    if isHostMarkup child.name.namespaceUri then callsIn uri child else host.markupCalls uri child
termination_by sizeOf host
decreasing_by exact sizeOf_lt_of_mem_childElements ‹_›

theorem callsIn_eq (uri : String) (host : Element) :
    host.callsIn uri = host.attributeCalls uri ++ host.childElements.flatMap fun child =>
      if isHostMarkup child.name.namespaceUri then child.callsIn uri
      else markupCalls uri host child := by
  rw [callsIn]
  congr 1
  exact (List.flatMap_subtype (g := fun child =>
    if isHostMarkup child.name.namespaceUri then child.callsIn uri
    else markupCalls uri host child) fun _ _ => rfl).trans (by rw [List.unattach_attach])

end Element

section Plans

variable {uri : String}

theorem Step.callsIn_delegateAttribute (bearer : Element) (attr : Attribute) :
    callsIn uri [.delegateAttribute bearer attr] =
      if attr.name.namespaceUri = uri then [.attr bearer attr] else [] := by
  by_cases same : attr.name.namespaceUri = uri <;> simp [callsIn, call?, Call.uri, same]

theorem Step.callsIn_delegateElement (parent element : Element) :
    callsIn uri [.delegateElement parent element] =
      if element.name.namespaceUri = uri then [.element parent element] else [] := by
  by_cases same : element.name.namespaceUri = uri <;> simp [callsIn, call?, Call.uri, same]

theorem Element.attributeCalls_eq (bearer : Element) :
    bearer.attributeCalls uri = bearer.attributes.flatMap fun attr =>
      if attr.name.namespaceUri = uri then [.attr bearer attr] else [] := by
  unfold attributeCalls
  induction bearer.attributes with
  | nil => rfl
  | cons attr rest ih =>
      by_cases same : attr.name.namespaceUri = uri <;> simp [same, ih]

theorem Element.childCalls_eq (parent : Element) :
    parent.childCalls uri = parent.childElements.flatMap fun child =>
      if child.name.namespaceUri = uri then [.element parent child] else [] := by
  unfold childCalls
  induction parent.childElements with
  | nil => rfl
  | cons child rest ih =>
      by_cases same : child.name.namespaceUri = uri <;> simp [same, ih]

/-- An attribute is handed over where it stands if its namespace is foreign. -/
theorem ElementRule.callsIn_attributePlan (foreign : isForeignMarkup uri = true)
    (rule : ElementRule) (element : Element) (attr : Attribute) :
    Step.callsIn uri (rule.attributePlan element attr) =
      if attr.name.namespaceUri = uri then [.attr element attr] else [] := by
  unfold attributePlan
  by_cases ours : attr.name.isUnqualifiedOrIn ownNamespace = true
  · have other : attr.name.namespaceUri ≠ uri := by
      rintro rfl
      obtain ⟨notOwn, notHost⟩ := Part.isForeignMarkup_eq_true.mp foreign
      rw [Name.isUnqualifiedOrIn_eq] at ours
      simp [isHostMarkup] at notHost
      simp [notOwn, notHost] at ours
    rw [if_pos ours, if_neg other]
    split
    · exact Step.callsIn_map_report _
    · rfl
  · rw [if_neg ours, Step.callsIn_delegateAttribute]

theorem ElementRule.callsIn_plan (foreign : isForeignMarkup uri = true) (rule : ElementRule)
    (element : Element) :
    Step.callsIn uri (rule.plan element) = element.attributeCalls uri := by
  rw [plan, Step.callsIn_append, Step.callsIn_map_report, List.append_nil, Step.callsIn_flatMap,
    Element.attributeCalls_eq]
  simp only [callsIn_attributePlan foreign]

theorem Validator.callsIn_childStep (foreign : isForeignMarkup uri = true)
    (parent child : Element) :
    Step.callsIn uri [childStep parent child] =
      if child.name.namespaceUri = uri then [.element parent child] else [] := by
  unfold childStep
  by_cases inside :
      (child.name.namespaceUri = ownNamespace || Session.isHostChild child.name.namespaceUri) = true
  · have other : child.name.namespaceUri ≠ uri := by
      rintro rfl
      obtain ⟨notOwn, notHost⟩ := Part.isForeignMarkup_eq_true.mp foreign
      simp [isHostMarkup] at notHost
      simp [Session.isHostChild, notOwn, notHost] at inside
    rw [if_pos inside, if_neg other]
    rfl
  · rw [if_neg inside, Step.callsIn_delegateElement]

/-- An element that is validated hands over its attributes and then its children. -/
theorem Validator.callsIn_plan (foreign : isForeignMarkup uri = true) (validator : Validator)
    (element : Element) :
    Step.callsIn uri (validator.plan element) =
      element.attributeCalls uri ++ element.childCalls uri := by
  have children : Step.callsIn uri (element.childElements.map (childStep element)) =
      element.childCalls uri := by
    rw [List.map_eq_flatMap, Step.callsIn_flatMap, Element.childCalls_eq]
    simp only [callsIn_childStep foreign]
  rw [plan]
  simp only [Step.callsIn_append, Step.callsIn_map_report, ElementRule.callsIn_plan foreign,
    children, List.append_nil]

namespace Part

theorem callsIn_ofAttribute? (foreign : isForeignMarkup uri = true) (host : Element)
    (attr : Attribute) :
    Step.callsIn uri ((ofAttribute? host attr).toList.flatMap plan) =
      if attr.name.namespaceUri = uri then [.attr host attr] else [] := by
  unfold ofAttribute?
  by_cases handed : isForeignMarkup attr.name.namespaceUri = true
  · simp [handed, plan, Step.callsIn_delegateAttribute]
  · have other : attr.name.namespaceUri ≠ uri := by
      rintro rfl
      exact handed foreign
    simp [handed, other]

theorem callsIn_ofAttributes (foreign : isForeignMarkup uri = true) (host : Element) :
    Step.callsIn uri ((ofAttributes host).flatMap plan) = host.attributeCalls uri := by
  have own : Step.callsIn uri ((ofOwnAttributes host).flatMap plan) = [] := by
    unfold ofOwnAttributes
    split
    · rfl
    · rw [List.flatMap_singleton]
      exact Step.callsIn_map_report _
  rw [ofAttributes, List.flatMap_append, Step.callsIn_append, own, List.append_nil,
    List.filterMap_eq_flatMap_toList, List.flatMap_assoc, Step.callsIn_flatMap,
    Element.attributeCalls_eq]
  simp only [callsIn_ofAttribute? foreign]

/-- A child that is no host markup makes the calls for it. -/
theorem callsIn_ofMarkup (foreign : isForeignMarkup uri = true) (host child : Element) :
    Step.callsIn uri (ofMarkup host child).plan = host.markupCalls uri child := by
  unfold ofMarkup Element.markupCalls
  by_cases own : child.name.namespaceUri = ownNamespace
  · have other : child.name.namespaceUri ≠ uri := by
      rintro rfl
      exact (isForeignMarkup_eq_true.mp foreign).1 own
    rw [if_pos own, if_neg other]
    cases routed : ElementKind.route? host.localName child.localName with
    | none => simpa [plan, routed] using Step.callsIn_map_report [_]
    | some kind => simp [plan, routed, own, Validator.callsIn_plan foreign]
  · rw [if_neg own]
    simp [plan, Step.callsIn_delegateElement, own]

/-- The parts of a host element make the calls for it. -/
theorem callsIn_ofHost (foreign : isForeignMarkup uri = true) (host : Element) :
    Step.callsIn uri ((ofHost host).flatMap plan) = host.callsIn uri := by
  induction host using Element.children_induction with
  | parent host ih =>
      rw [ofHost_eq, List.flatMap_append, Step.callsIn_append, callsIn_ofAttributes foreign,
        Element.callsIn_eq, List.flatMap_assoc, Step.callsIn_flatMap]
      congr 1
      refine List.flatMap_congr fun child among => ?_
      unfold ofChild
      split
      · exact ih child among
      · rw [List.flatMap_singleton, callsIn_ofMarkup foreign]

end Part
end Plans

namespace Session

/-- Each extension receives the calls of its namespace that the document's plan makes. -/
theorem calls_eq (session : Session σ) (distinct : session.extensions.namespaces.Nodup)
    (document : Document) :
    session.calls document =
      session.extensions.namespaces.map fun uri => (uri, Step.callsIn uri document.plan) := by
  have recorded := Extensions.records_performAll session.extensions.areRecording_recording
    (session.extensions.namespaces_recording ▸ distinct) document.plan
  rw [session.extensions.records_recording, List.map_map] at recorded
  calc session.calls document
      = (session.recording.compile document).2.extensions.records := rfl
    _ = (session.extensions.recording.performAll document.plan).2.records := by
        rw [extensions_compile]
        rfl
    _ = session.extensions.namespaces.map fun uri => (uri, Step.callsIn uri document.plan) := by
        rw [recorded]
        rfl

/--
While a document is compiled, the extension of a namespace is called for its markup, once for each
and in document order, as the document alone tells.  What is reported and what other extensions do
has no influence on the calls.
-/
theorem compile_calls (session : Session σ) (registry : session.extensions.IsRegistry)
    (document : Document) :
    let recorder := session.recording.compile document
    let compiled := session.compile document
    recorder.1 = compiled.1 ∧ recorder.2.extensions.Record compiled.2.extensions ∧
      (session.calls document).map Prod.fst = session.extensions.namespaces ∧
      (∀ uri calls, (uri, calls) ∈ session.calls document → uri ≠ xmlNamespace →
        calls = document.root.callsIn uri) ∧
      compiled.2.extensions.IsRegistry := by
  intro recorder compiled
  have received := session.calls_eq registry.distinct document
  refine ⟨session.compile_recording document, ?_, ?_, ?_, ?_⟩
  · have record := Extensions.record_performAll session.extensions.record_recording document.plan
    rw [extensions_compile, extensions_compile]
    exact record.2
  · simp [received, Function.comp_def]
  · intro uri calls among notXml
    rw [received] at among
    obtain ⟨registered, member, same⟩ := List.mem_map.mp among
    obtain ⟨rfl, rfl⟩ := Prod.mk.inj same
    have unreserved := registry.unreserved registered member
    have foreign : isForeignMarkup registered = true := by
      simp only [isReservedNamespace, Bool.or_eq_false_iff, beq_eq_false_iff_ne] at unreserved
      simp [isForeignMarkup, isHostMarkup, unreserved, notXml]
    exact Part.callsIn_ofHost foreign document.root
  · rw [extensions_compile]
    exact registry.performAll document.plan

/-- Notes on a bundle, on and in a condition that is refused, and on a package under the bundle. -/
theorem compile_calls_notes :
    let other : Extension Unit := { noteTaker with namespaceUri := "urn:other" }
    let extensions : Extensions Unit := ⟨[⟨noteTaker, ()⟩, ⟨other, ()⟩]⟩
    let session := start {} extensions
    let note := bareElement "urn:notes" "Note"
    let condition := { bareElement ownNamespace "Condition" with
      attributes := [ownerNote]
      children := .ofElements [note, bareElement "urn:other" "Thing", note] }
    let package := { bareElement hostNamespace "Package" with attributes := [ownerNote] }
    let bundle := notedBundle [condition, package, note]
    (Extensions.empty.register noteTaker () >>= (·.register other ())) = .ok extensions ∧
      extensions.IsRegistry ∧
      ("urn:notes", [.attr bundle ownerNote, .attr condition ownerNote, .element condition note,
        .element condition note, .attr package ownerNote, .element bundle note]) ∈
          session.calls ⟨bundle, default⟩ := by
  intro other extensions session note condition package bundle
  have first : (⟨[⟨noteTaker, ()⟩]⟩ : Extensions Unit).IsRegistry :=
    Extensions.isRegistry_empty.register (show Extensions.empty.register noteTaker () = _ from rfl)
  have registry : extensions.IsRegistry :=
    first.register (show Extensions.register ⟨[⟨noteTaker, ()⟩]⟩ other () = _ from rfl)
  obtain ⟨_, _, names, received, _⟩ := compile_calls session registry ⟨bundle, default⟩
  have called : "urn:notes" ∈ (session.calls ⟨bundle, default⟩).map Prod.fst := by
    rw [names]
    exact List.mem_cons_self
  obtain ⟨⟨uri, calls⟩, among, same⟩ := List.mem_map.mp called
  obtain rfl : uri = "urn:notes" := same
  have inner : package.callsIn "urn:notes" = [.attr package ownerNote] := by
    rw [Element.callsIn_eq]
    rfl
  have outside : bundle.callsIn "urn:notes" =
      [.attr bundle ownerNote, .attr condition ownerNote, .element condition note,
        .element condition note] ++ (package.callsIn "urn:notes" ++ [.element bundle note]) := by
    rw [Element.callsIn_eq]
    rfl
  have same := received "urn:notes" calls among (by decide)
  rw [outside, inner] at same
  rw [same] at among
  exact ⟨rfl, registry, among⟩

end Session
end BundleMarkup
