import BundleMarkup.Proofs.Judging.Settlement

/-!
# The walk through a document

The walk visits host elements and judges what it meets.  Its output is that of the document's parts,
judged one after another in the order of `Part.ofHost`; these are exactly the parts that stand on
visited elements.
-/

namespace BundleMarkup

variable {σ : Type}

namespace Output

/-- The outcomes of parts, put together. -/
def ofOutcomes (outcomes : List Outcome) : Output :=
  ⟨outcomes.flatMap Outcome.rows, outcomes.flatMap Outcome.diagnostics⟩

theorem foldl_absorb (output : Output) (outcomes : List Outcome) :
    outcomes.foldl absorb output =
      ⟨output.rows ++ (ofOutcomes outcomes).rows,
        output.diagnostics ++ (ofOutcomes outcomes).diagnostics⟩ := by
  induction outcomes generalizing output with
  | nil => simp [ofOutcomes]
  | cons first rest ih => rw [List.foldl_cons, ih]; simp [absorb, ofOutcomes]

end Output

namespace Part

@[simp]
theorem judgeAll_nil (session : Session σ) : judgeAll session [] = ([], session) := rfl

theorem judgeAll_cons (session : Session σ) (part : Part) (rest : List Part) :
    judgeAll session (part :: rest) =
      ((part.judge session).1 :: (judgeAll (part.judge session).2 rest).1,
        (judgeAll (part.judge session).2 rest).2) := rfl

theorem judgeAll_append (session : Session σ) (front back : List Part) :
    judgeAll session (front ++ back) =
      ((judgeAll session front).1 ++ (judgeAll (judgeAll session front).2 back).1,
        (judgeAll (judgeAll session front).2 back).2) := by
  induction front generalizing session with
  | nil => rfl
  | cons part rest ih => simp [judgeAll_cons, ih]

theorem length_judgeAll (session : Session σ) (parts : List Part) :
    (judgeAll session parts).1.length = parts.length := by
  induction parts generalizing session with
  | nil => rfl
  | cons part rest ih => simp [judgeAll_cons, ih]

theorem judgeAll_policy (session : Session σ) (parts : List Part) :
    (judgeAll session parts).2.policy = session.policy := by
  induction parts generalizing session with
  | nil => rfl
  | cons part rest ih => rw [judgeAll_cons, ih, judge_policy]

theorem judgeAll_extensions (session : Session σ) (parts : List Part) :
    (judgeAll session parts).2.extensions =
      (session.extensions.performAll (parts.flatMap plan)).2 := by
  induction parts generalizing session with
  | nil => rfl
  | cons part rest ih =>
      rw [judgeAll_cons, ih, judge_extensions, List.flatMap_cons, Extensions.performAll_append]

end Part

namespace Session

/-- An output and a session after parts are judged in order. -/
def absorbAll (session : Session σ) (output : Output) (parts : List Part) : Output × Session σ :=
  let (outcomes, session) := Part.judgeAll session parts
  (outcomes.foldl Output.absorb output, session)

theorem absorbAll_append (session : Session σ) (output : Output) (front back : List Part) :
    session.absorbAll output (front ++ back) =
      (session.absorbAll output front).2.absorbAll (session.absorbAll output front).1 back := by
  simp [absorbAll, Part.judgeAll_append, List.foldl_append]

theorem absorbAll_cons (session : Session σ) (output : Output) (part : Part) (rest : List Part) :
    session.absorbAll output (part :: rest) =
      (part.judge session).2.absorbAll (output.absorb (part.judge session).1) rest := rfl

theorem walkForeignAttributes_eq (session : Session σ) (output : Output) (host : Element)
    (attributes : List Attribute) :
    session.walkForeignAttributes output host attributes =
      session.absorbAll output (attributes.filterMap (Part.ofAttribute? host)) := by
  induction attributes generalizing session output with
  | nil => rfl
  | cons attr rest ih =>
      rw [walkForeignAttributes]
      by_cases foreign : isForeignMarkup attr.name.namespaceUri = true
      · simp [foreign, Part.ofAttribute?, absorbAll_cons, ih, Part.judge]
      · simp [foreign, Part.ofAttribute?, ih]

theorem walkOwnAttributes_eq (session : Session σ) (output : Output) (host : Element) :
    session.walkOwnAttributes output host =
      session.absorbAll output (Part.ofOwnAttributes host) := by
  unfold walkOwnAttributes Part.ofOwnAttributes
  split
  · rfl
  · rfl

theorem walkChildren_eq (host : Element) (children : List Element)
    (ih : ∀ child ∈ children, ∀ (session : Session σ) (output : Output),
      session.walk output child = session.absorbAll output (Part.ofHost child))
    (session : Session σ) (output : Output) :
    session.walkChildren output host children =
      session.absorbAll output (Part.ofChildren host children) := by
  induction children generalizing session output with
  | nil => rw [walkChildren, Part.ofChildren]; rfl
  | cons child rest later =>
      have walked := ih child List.mem_cons_self
      have rest_eq := later fun other among => ih other (List.mem_cons_of_mem child among)
      rw [walkChildren, Part.ofChildren]
      by_cases own : child.name.namespaceUri = ownNamespace
      · simp [own, absorbAll_cons, rest_eq, Part.judge]
      · by_cases hosts : isHostMarkup child.name.namespaceUri = true
        · simp [own, hosts, absorbAll_append, walked, rest_eq]
        · simp [own, hosts, absorbAll_cons, rest_eq, Part.judge]

/-- Visiting a host element judges its parts in order. -/
theorem walk_eq (session : Session σ) (output : Output) (host : Element) :
    session.walk output host = session.absorbAll output (Part.ofHost host) := by
  induction host using Element.children_induction generalizing session output with
  | parent host ih =>
      rw [walk, Part.ofHost, Part.ofAttributes, absorbAll_append, absorbAll_append]
      simp only [walkForeignAttributes_eq, walkOwnAttributes_eq]
      rw [walkChildren_eq host host.childElements ih]

/-- A compiled document is the outcomes of its parts, put together. -/
theorem compile_eq (session : Session σ) (document : Document) :
    session.compile document =
      (.ofOutcomes (Part.judgeAll session (Part.ofHost document.root)).1,
        (Part.judgeAll session (Part.ofHost document.root)).2) := by
  rw [compile, walk_eq]
  simp [absorbAll, Output.foldl_absorb, Output.empty]

end Session

/-- The elements that a walk visits: its root and, under each, the children in host markup. -/
inductive Visited (root : Element) : Element → Prop
  /-- The root is visited whatever its namespace. -/
  | root : Visited root root
  /-- Host markup under a visited element is visited. -/
  | child {host child : Element} (visited : Visited root host) (among : child ∈ host.childElements)
      (hosts : isHostMarkup child.name.namespaceUri = true) : Visited root child

theorem Visited.trans {root middle host : Element} (first : Visited root middle)
    (second : Visited middle host) : Visited root host := by
  induction second with
  | root => exact first
  | child _ among hosts ih => exact .child ih among hosts

namespace Part

/-- The kinds of parts that stand on a host element. -/
inductive IsOn (host : Element) : Part → Prop
  /-- Each foreign attribute is a part. -/
  | foreignAttribute {attr : Attribute} (among : attr ∈ host.attributes)
      (foreign : isForeignMarkup attr.name.namespaceUri = true) :
      IsOn host (.foreignAttribute host attr)
  /-- All attributes of the extension together are a part, if there are any. -/
  | ownAttributes (some : host.ownAttributes ≠ []) :
      IsOn host (.ownAttributes host host.ownAttributes)
  /-- Each child of the extension is a part, with all it contains. -/
  | ownElement {child : Element} (among : child ∈ host.childElements)
      (own : child.name.namespaceUri = ownNamespace) : IsOn host (.ownElement host child)
  /-- Each foreign child is a part. -/
  | foreignElement {child : Element} (among : child ∈ host.childElements)
      (foreign : isForeignMarkup child.name.namespaceUri = true) :
      IsOn host (.foreignElement host child)

theorem not_isHostMarkup_ownNamespace : isHostMarkup ownNamespace = false := by decide

theorem isForeignMarkup_eq_true {uri : String} :
    isForeignMarkup uri = true ↔ uri ≠ ownNamespace ∧ isHostMarkup uri = false := by
  simp [isForeignMarkup]

theorem isOn_of_mem_ofAttributes {host : Element} {part : Part} (among : part ∈ ofAttributes host) :
    IsOn host part := by
  rcases List.mem_append.mp among with foreign | own
  · obtain ⟨attr, member, made⟩ := List.mem_filterMap.mp foreign
    unfold ofAttribute? at made
    split at made
    · rename_i isForeign
      obtain rfl := Option.some.inj made
      exact .foreignAttribute member isForeign
    · cases made
  · unfold ofOwnAttributes at own
    split at own
    · cases own
    · rename_i nonempty
      obtain rfl := List.mem_singleton.mp own
      exact .ownAttributes (by simpa using nonempty)

/-- The part that a child of a host element is unless it is itself host markup. -/
def ofMarkup (host child : Element) : Part :=
  if child.name.namespaceUri = ownNamespace then .ownElement host child
  else .foreignElement host child

/-- The parts that a child of a host element comes to. -/
def ofChild (host child : Element) : List Part :=
  if isHostMarkup child.name.namespaceUri then ofHost child else [ofMarkup host child]

theorem ofHost_eq (host : Element) :
    ofHost host = ofAttributes host ++ host.childElements.flatMap (ofChild host) := by
  have children (list : List Element) : ofChildren host list = list.flatMap (ofChild host) := by
    induction list with
    | nil => rw [ofChildren]; rfl
    | cons child rest ih =>
        rw [ofChildren, ih, List.flatMap_cons]
        by_cases own : child.name.namespaceUri = ownNamespace
        · simp [ofChild, ofMarkup, own, not_isHostMarkup_ownNamespace]
        · simp [ofChild, ofMarkup, own]
  rw [ofHost, children]

theorem isOn_ofMarkup {host child : Element} (among : child ∈ host.childElements)
    (outside : isHostMarkup child.name.namespaceUri = false) : IsOn host (ofMarkup host child) := by
  unfold ofMarkup
  split
  · rename_i own
    exact .ownElement among own
  · rename_i other
    exact .foreignElement among (isForeignMarkup_eq_true.mpr ⟨other, outside⟩)

theorem isOn_of_mem_ofHost {host : Element} {part : Part} (among : part ∈ ofHost host) :
    ∃ bearer, Visited host bearer ∧ IsOn bearer part := by
  induction host using Element.children_induction with
  | parent host ih =>
      rw [ofHost_eq] at among
      rcases List.mem_append.mp among with onAttributes | onChildren
      · exact ⟨host, .root, isOn_of_mem_ofAttributes onAttributes⟩
      · obtain ⟨child, member, made⟩ := List.mem_flatMap.mp onChildren
        unfold ofChild at made
        split at made
        · rename_i hosts
          obtain ⟨bearer, visited, stands⟩ := ih child member made
          exact ⟨bearer, Visited.trans (.child .root member hosts) visited, stands⟩
        · rename_i outside
          obtain rfl := List.mem_singleton.mp made
          exact ⟨host, .root, isOn_ofMarkup member (by simpa using outside)⟩

theorem mem_ofHost_of_isOn {host : Element} {part : Part} (stands : IsOn host part) :
    part ∈ ofHost host := by
  rw [ofHost_eq]
  cases stands with
  | @foreignAttribute attr among foreign =>
      have made : ofAttribute? host attr = some (.foreignAttribute host attr) := if_pos foreign
      exact List.mem_append_left _
        (List.mem_append_left _ (List.mem_filterMap.mpr ⟨attr, among, made⟩))
  | ownAttributes nonempty =>
      have made : .ownAttributes host host.ownAttributes ∈ ofOwnAttributes host := by
        simp [ofOwnAttributes, nonempty]
      exact List.mem_append_left _ (List.mem_append_right _ made)
  | @ownElement child among own =>
      have made : .ownElement host child ∈ ofChild host child := by
        simp [ofChild, ofMarkup, own, not_isHostMarkup_ownNamespace]
      exact List.mem_append_right _ (List.mem_flatMap.mpr ⟨child, among, made⟩)
  | @foreignElement child among foreign =>
      obtain ⟨other, outside⟩ := isForeignMarkup_eq_true.mp foreign
      have made : .foreignElement host child ∈ ofChild host child := by
        simp [ofChild, ofMarkup, other, outside]
      exact List.mem_append_right _ (List.mem_flatMap.mpr ⟨child, among, made⟩)

theorem mem_ofHost_of_visited {root host : Element} {part : Part} (visited : Visited root host)
    (among : part ∈ ofHost host) : part ∈ ofHost root := by
  induction visited with
  | root => exact among
  | @child host child _ member hosts ih =>
      apply ih
      rw [ofHost_eq]
      have made : part ∈ ofChild host child := by simpa [ofChild, hosts] using among
      exact List.mem_append_right _ (List.mem_flatMap.mpr ⟨child, member, made⟩)

/-- The parts of a document are those that stand on visited elements. -/
theorem mem_ofHost {root : Element} {part : Part} :
    part ∈ ofHost root ↔ ∃ host, Visited root host ∧ IsOn host part := by
  constructor
  · exact isOn_of_mem_ofHost
  · rintro ⟨host, visited, stands⟩
    exact mem_ofHost_of_visited visited (mem_ofHost_of_isOn stands)

end Part
end BundleMarkup
