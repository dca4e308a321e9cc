import BundleMarkup.Proofs.Judging.Bare
import BundleMarkup.Proofs.Judging.Lookup
import BundleMarkup.Proofs.Judging.PartRows
import BundleMarkup.Proofs.Markup.DocumentOrder

/-!
# Traces

Everything that comes of a document can be traced to a place in it.  A diagnostic points at the name
or the value that it is about, a row comes from the element that it describes, and the rows of a
document stand in the order of these elements.
-/

namespace BundleMarkup

variable {σ : Type}

/-- A diagnostic is located at one of some places, and so are its details as far as they are. -/
structure Diagnostic.PointsInto (places : List SourceSpan) (diagnostic : Diagnostic) : Prop where
  location : ∃ span ∈ places, diagnostic.location = some span
  details : ∀ detail ∈ diagnostic.details, ∀ span, detail.location = some span → span ∈ places

namespace Diagnostic.PointsInto

variable {places : List SourceSpan} {diagnostic : Diagnostic}

theorem of_plain {span : SourceSpan} (among : span ∈ places)
    (located : diagnostic.location = some span)
    (plain : ∀ detail ∈ diagnostic.details, detail.location = none) :
    diagnostic.PointsInto places :=
  ⟨⟨span, among, located⟩, fun detail inside span placed => by
    rw [plain detail inside] at placed
    cases placed⟩

theorem mono {places' : List SourceSpan} (points : diagnostic.PointsInto places)
    (subset : places ⊆ places') : diagnostic.PointsInto places' := by
  obtain ⟨⟨span, among, located⟩, details⟩ := points
  exact ⟨⟨span, subset among, located⟩,
    fun detail inside span placed => subset (details detail inside span placed)⟩

/-- A policy changes how grave a diagnostic is, not what it points at. -/
theorem apply (points : diagnostic.PointsInto places) {policy : WarningPolicy} {kept : Diagnostic}
    (applied : policy.apply diagnostic = some kept) : kept.PointsInto places := by
  have same : kept.location = diagnostic.location ∧ kept.details = diagnostic.details := by
    unfold WarningPolicy.apply at applied
    split at applied
    · split at applied
      · cases applied
      · split at applied <;> cases applied <;> exact ⟨rfl, rfl⟩
    · obtain rfl := Option.some.inj applied
      exact ⟨rfl, rfl⟩
  obtain ⟨location, details⟩ := same
  exact ⟨location ▸ points.location, details ▸ points.details⟩

end Diagnostic.PointsInto

section

variable {element : Element} {attr : Attribute} {diagnostic : Diagnostic}

theorem Element.nameSpan_mem_places (element : Element) : element.nameSpan ∈ element.places :=
  List.mem_cons_self

theorem Element.nameSpan_mem_places_of_mem (among : attr ∈ element.attributes) :
    attr.nameSpan ∈ element.places :=
  List.mem_cons_of_mem _ (List.mem_flatMap.mpr ⟨attr, among, List.mem_cons_self⟩)

theorem Element.valueSpan_mem_places_of_mem (among : attr ∈ element.attributes) :
    attr.valueSpan ∈ element.places :=
  List.mem_cons_of_mem _
    (List.mem_flatMap.mpr ⟨attr, among, List.mem_cons_of_mem _ List.mem_cons_self⟩)

/-- What is reported of an element points at its name or at its attributes. -/
theorem Element.Reports.pointsInto (reports : element.Reports diagnostic) :
    diagnostic.PointsInto element.places := by
  have name := element.nameSpan_mem_places
  cases reports with
  | unexpectedElement => exact .of_plain name rfl (by simp [Message.unexpectedElement])
  | unexpectedAttribute among =>
      exact .of_plain (nameSpan_mem_places_of_mem among) rfl
        (by simp [Message.unexpectedAttribute])
  | illegalEmptyValue among =>
      exact .of_plain (valueSpan_mem_places_of_mem among) rfl
        (by simp [Message.illegalEmptyValue])
  | illegalYesNoValue among =>
      exact .of_plain (valueSpan_mem_places_of_mem among) rfl
        (by simp [Message.illegalYesNoValue])
  | expectedAttribute => exact .of_plain name rfl (by simp [Message.expectedAttribute])
  | expectedEitherAttribute =>
      exact .of_plain name rfl (by simp [Message.expectedEitherAttribute])
  | expectedCondition => exact .of_plain name rfl (by simp [Message.expectedCondition])
  | expectedExactlyOne => exact .of_plain name rfl (by simp [Message.expectedExactlyOne])
  | expectedParentWithAttribute among =>
      exact .of_plain (nameSpan_mem_places_of_mem among) rfl
        (by simp [Message.expectedParentWithAttribute])
  | mutuallyExclusive among beside =>
      refine ⟨⟨_, nameSpan_mem_places_of_mem among, rfl⟩, fun detail inside span placed => ?_⟩
      obtain rfl := List.mem_singleton.mp inside
      obtain rfl := Option.some.inj placed
      exact nameSpan_mem_places_of_mem beside

theorem Message.pointsInto_unsupportedExtensionAttribute (among : attr ∈ element.attributes) :
    (unsupportedExtensionAttribute element attr).PointsInto element.places :=
  .of_plain (Element.nameSpan_mem_places_of_mem among) rfl (by simp [unsupportedExtensionAttribute])

theorem Message.pointsInto_unsupportedExtensionElement (parent element : Element) :
    (unsupportedExtensionElement parent element).PointsInto element.places :=
  .of_plain element.nameSpan_mem_places rfl (by simp [unsupportedExtensionElement])

theorem Validator.pointsInto_childStep (parent child : Element) :
    (childStep parent child).diagnostic.PointsInto child.places := by
  unfold childStep
  split
  · exact (Element.Reports.unexpectedElement parent).pointsInto
  · exact Message.pointsInto_unsupportedExtensionElement parent child

/-- The steps for an element point into it or at the name of a child. -/
theorem Validator.pointsInto_of_mem_plan {kind : ElementKind} {step : Step}
    (among : step ∈ kind.validator.plan element) :
    ∃ bearer, element.Within bearer ∧ step.diagnostic.PointsInto bearer.places := by
  obtain ⟨diagnostic, rfl, reports⟩ | ⟨attr, inside, _, rfl⟩ | ⟨child, inside, rfl⟩ :=
    mem_plan among
  · exact ⟨element, .self, reports.pointsInto⟩
  · exact ⟨element, .self, Message.pointsInto_unsupportedExtensionAttribute inside⟩
  · exact ⟨child, .child .self inside, pointsInto_childStep element child⟩

end

theorem Visited.within {root host : Element} (visited : Visited root host) : root.Within host := by
  induction visited with
  | root => exact .self
  | child _ among _ ih => exact .child ih among

/-- What is reported of a part points into the host element that it stands on, or inside that. -/
theorem Part.IsOn.pointsInto {host : Element} {part : Part} (stands : IsOn host part) {step : Step}
    (among : step ∈ part.plan) :
    ∃ bearer, host.Within bearer ∧ step.diagnostic.PointsInto bearer.places := by
  cases stands with
  | foreignAttribute inside _ =>
      obtain rfl := List.mem_singleton.mp among
      exact ⟨host, .self, Message.pointsInto_unsupportedExtensionAttribute inside⟩
  | ownAttributes _ =>
      obtain ⟨diagnostic, member, rfl⟩ := List.mem_map.mp among
      exact ⟨host, .self,
        (HostAttributes.reports_of_mem_problems (List.filter_subset_self _) member).pointsInto⟩
  | foreignElement inside _ =>
      obtain rfl := List.mem_singleton.mp among
      exact ⟨_, .child .self inside, Message.pointsInto_unsupportedExtensionElement host _⟩
  | @ownElement child inside _ =>
      have within : host.Within child := .child .self inside
      cases routed : ElementKind.route? host.localName child.localName with
      | none =>
          simp only [plan, routed] at among
          obtain rfl := List.mem_singleton.mp among
          exact ⟨child, within, (Element.Reports.unexpectedElement host).pointsInto⟩
      | some kind =>
          simp only [plan, routed] at among
          obtain ⟨bearer, deeper, points⟩ := Validator.pointsInto_of_mem_plan among
          exact ⟨bearer, within.trans deeper, points⟩

namespace Part

/-- The element that a part is about. -/
def owner : Part → Element
  | foreignAttribute host _ => host
  | ownAttributes host _ => host
  | ownElement _ element => element
  | foreignElement _ element => element

/-- The rows of a part come from the element that it is about. -/
theorem source_of_mem_ownRows {part : Part} {row : Row} (among : row ∈ part.ownRows) :
    row.source = part.owner.span := by
  cases gives_of_mem_ownRows among with
  | ownElement _ gives => cases gives <;> rfl
  | ownAttributes _ => rfl

end Part

/-- Items are listed in groups, one for each key and in the order of the keys. -/
inductive IsGrouped {α β : Type} (owns : α → β → Prop) : List α → List β → Prop
  | nil : IsGrouped owns [] []
  | cons {key : α} {keys : List α} {group rest : List β} (owned : ∀ item ∈ group, owns key item)
      (later : IsGrouped owns keys rest) : IsGrouped owns (key :: keys) (group ++ rest)

namespace IsGrouped

variable {α β γ : Type} {owns : α → β → Prop} {keys : List α} {items : List β}

/-- Every key may have an empty group. -/
theorem nil_right (keys : List α) : IsGrouped owns keys [] := by
  induction keys with
  | nil => exact .nil
  | cons key keys ih => exact .cons (List.forall_mem_nil _) ih

theorem append {keys' : List α} {items' : List β} (first : IsGrouped owns keys items)
    (second : IsGrouped owns keys' items') : IsGrouped owns (keys ++ keys') (items ++ items') := by
  induction first with
  | nil => exact second
  | cons owned _ ih =>
      rw [List.append_assoc]
      exact .cons owned ih

theorem flatMap {list : List γ} {keysOf : γ → List α} {itemsOf : γ → List β}
    (each : ∀ member ∈ list, IsGrouped owns (keysOf member) (itemsOf member)) :
    IsGrouped owns (list.flatMap keysOf) (list.flatMap itemsOf) := by
  induction list with
  | nil => exact .nil
  | cons first rest ih =>
      rw [List.flatMap_cons, List.flatMap_cons]
      exact (each first List.mem_cons_self).append
        (ih fun member among => each member (List.mem_cons_of_mem _ among))

/-- What is made of the items of a group belongs to the same key. -/
theorem expand {owns' : α → γ → Prop} (grouped : IsGrouped owns keys items) {make : β → List γ}
    (made : ∀ key item, owns key item → ∀ product ∈ make item, owns' key product) :
    IsGrouped owns' keys (items.flatMap make) := by
  induction grouped with
  | nil => exact .nil
  | cons owned _ ih =>
      rw [List.flatMap_append]
      refine .cons (fun product among => ?_) ih
      obtain ⟨item, member, inside⟩ := List.mem_flatMap.mp among
      exact made _ item (owned item member) product inside

theorem exists_key (grouped : IsGrouped owns keys items) {item : β} (among : item ∈ items) :
    ∃ key ∈ keys, owns key item := by
  induction grouped with
  | nil => cases among
  | cons owned _ ih =>
      rcases List.mem_append.mp among with first | later
      · exact ⟨_, List.mem_cons_self, owned item first⟩
      · obtain ⟨key, member, owns⟩ := ih later
        exact ⟨key, List.mem_cons_of_mem _ member, owns⟩

/-- Groups whose keys are told apart by tags are found again by the tags of their items. -/
theorem eq_flatMap_filter [DecidableEq γ] {tag : α → γ} {tagOf : β → γ}
    (grouped : IsGrouped (fun key item => tagOf item = tag key) keys items)
    (apart : (keys.map tag).Nodup) :
    items = keys.flatMap fun key => items.filter (tagOf · = tag key) := by
  induction grouped with
  | nil => rfl
  | @cons key keys group rest owned later ih =>
      obtain ⟨fresh, apart⟩ := List.nodup_cons.mp apart
      have here : (group ++ rest).filter (tagOf · = tag key) = group := by
        have whole : group.filter (tagOf · = tag key) = group :=
          List.filter_eq_self.mpr fun item among => decide_eq_true (owned item among)
        have none : rest.filter (tagOf · = tag key) = [] := by
          refine List.filter_eq_nil_iff.mpr fun item among same => fresh ?_
          obtain ⟨other, member, tagged⟩ := later.exists_key among
          rw [← of_decide_eq_true same, tagged]
          exact List.mem_map_of_mem member
        rw [List.filter_append, whole, none, List.append_nil]
      have there (other : α) (member : other ∈ keys) :
          (group ++ rest).filter (tagOf · = tag other) = rest.filter (tagOf · = tag other) := by
        have none : group.filter (tagOf · = tag other) = [] := by
          refine List.filter_eq_nil_iff.mpr fun item among same => fresh ?_
          rw [← owned item among, of_decide_eq_true same]
          exact List.mem_map_of_mem member
        rw [List.filter_append, none, List.nil_append]
      rw [List.flatMap_cons, here, List.flatMap_congr there, ← ih apart]

/-- What is related from group to group and within each group is related throughout. -/
theorem pairwise (related : γ → γ → Prop) {tag : α → γ} {tagOf : β → γ}
    (grouped : IsGrouped (fun key item => tagOf item = tag key) keys items)
    (refl : ∀ tag, related tag tag)
    (ordered : keys.Pairwise fun key later => related (tag key) (tag later)) :
    items.Pairwise fun item later => related (tagOf item) (tagOf later) := by
  induction grouped with
  | nil => exact .nil
  | cons owned later ih =>
      obtain ⟨first, ordered⟩ := List.pairwise_cons.mp ordered
      refine List.pairwise_append.mpr ⟨?_, ih ordered, fun item inside other behind => ?_⟩
      · refine List.pairwise_of_forall_mem_list fun item inside other beside => ?_
        rw [owned item inside, owned other beside]
        exact refl _
      · obtain ⟨key, member, tagged⟩ := later.exists_key behind
        rw [owned item inside, tagged]
        exact first key member

end IsGrouped

namespace Part

theorem owner_of_mem_ofAttributes {host : Element} {part : Part}
    (among : part ∈ ofAttributes host) : part.owner = host := by
  rcases List.mem_append.mp among with foreign | own
  · obtain ⟨attr, _, made⟩ := List.mem_filterMap.mp foreign
    unfold ofAttribute? at made
    split at made
    · obtain rfl := Option.some.inj made
      rfl
    · cases made
  · unfold ofOwnAttributes at own
    split at own
    · cases own
    · obtain rfl := List.mem_singleton.mp own
      rfl

theorem owner_ofMarkup (host child : Element) : (ofMarkup host child).owner = child := by
  unfold ofMarkup
  split <;> rfl

/-- The parts of a document stand in the order of the elements that they are about. -/
theorem isGrouped_ofHost (host : Element) :
    IsGrouped (fun element part => part.owner = element) host.inOrder (ofHost host) := by
  induction host using Element.children_induction with
  | parent host ih =>
      rw [ofHost_eq, Element.inOrder_eq]
      refine .cons (fun part => owner_of_mem_ofAttributes) (.flatMap fun child among => ?_)
      unfold ofChild
      split
      · exact ih child among
      · rw [Element.inOrder_eq, ← List.append_nil [ofMarkup host child]]
        refine .cons (fun part made => ?_) (.nil_right _)
        rw [List.mem_singleton.mp made, owner_ofMarkup]

variable {policy : WarningPolicy}

theorem source_of_mem_outcome {part : Part} {row : Row}
    (among : row ∈ (part.outcome policy).rows) : row.source = part.owner.span := by
  rw [outcome, Outcome.rows_of] at among
  split at among
  · cases among
  · exact source_of_mem_ownRows among

/-- What a part of a document comes to points into the document. -/
theorem pointsInto_of_mem_outcome {root : Element} {part : Part} (inside : part ∈ ofHost root)
    {diagnostic : Diagnostic} (among : diagnostic ∈ (part.outcome policy).diagnostics) :
    diagnostic.PointsInto (root.inOrder.flatMap Element.places) := by
  obtain ⟨host, visited, stands⟩ := mem_ofHost.mp inside
  obtain ⟨reported, made, applied⟩ := List.mem_filterMap.mp among
  obtain ⟨step, planned, rfl⟩ := List.mem_map.mp made
  obtain ⟨bearer, within, points⟩ := stands.pointsInto planned
  refine (points.apply applied).mono fun span placed => ?_
  exact List.mem_flatMap.mpr
    ⟨bearer, Element.mem_inOrder.mpr (visited.within.trans within), placed⟩

end Part

namespace Session

variable {session : Session σ} (bare : session.extensions = .empty) (document : Document)

include bare

/-- The rows of a document are listed element by element. -/
theorem isGrouped_rows :
    IsGrouped (fun element row => row.source = Element.span element) document.root.inOrder
      (session.compile document).1.rows := by
  rw [session.compile_empty bare, Output.ofOutcomes, List.flatMap_map]
  refine (Part.isGrouped_ofHost document.root).expand fun element part same row among => ?_
  rw [← same]
  exact Part.source_of_mem_outcome among

theorem pointsInto_of_mem_compile {diagnostic : Diagnostic}
    (among : diagnostic ∈ (session.compile document).1.diagnostics) :
    diagnostic.PointsInto (document.root.inOrder.flatMap Element.places) := by
  rw [session.compile_empty bare] at among
  obtain ⟨_, made, among⟩ := List.mem_flatMap.mp among
  obtain ⟨part, inside, rfl⟩ := List.mem_map.mp made
  exact Part.pointsInto_of_mem_outcome inside among

omit bare

/--
Without other extensions the output of a document can be traced to it.  Rows come from elements,
diagnostics point at names and values in the document, and all these places lie in the text of its
file.  The rows stand in the order of their elements, those of one element together.
-/
theorem compile_traces (session : Session σ) (bare : session.extensions = .empty) {file : FileId}
    {input : List Char} {document : Document} (reads : Document.read file input = .ok document) :
    let elements := document.root.inOrder
    let places := elements.flatMap Element.places
    let output := (session.compile document).1
    (∀ row ∈ output.rows, row.source ∈ elements.map Element.span) ∧
      (∀ diagnostic ∈ output.diagnostics, diagnostic.PointsInto places) ∧
      (∀ span ∈ elements.map Element.span ++ places,
        span.LiesIn file (Text.byteLength input)) ∧
      (elements.Pairwise fun element later => element.span.start < later.span.start) ∧
      (output.rows.Pairwise fun row later => row.source.start ≤ later.source.start) ∧
      output.rows = elements.flatMap fun element =>
        output.rows.filter (·.source = element.span) := by
  intro elements places output
  have increasing := Document.increasing_start_inOrder reads
  have grouped := isGrouped_rows bare document
  refine ⟨fun row among => ?_, fun diagnostic => pointsInto_of_mem_compile bare document,
    fun span => Document.liesIn_of_mem_inOrder reads, increasing, ?_,
    grouped.eq_flatMap_filter (Document.nodup_span_inOrder reads)⟩
  · obtain ⟨element, member, source⟩ := grouped.exists_key among
    rw [source]
    exact List.mem_map_of_mem member
  · exact grouped.pairwise (fun span later => span.start ≤ later.start)
      (fun span => span.start.le_refl) (increasing.imp Nat.le_of_lt)

/-- A condition, a variable and a second condition that lacks everything. -/
theorem compile_traces_bundle :
    let input := ("<Bundle xmlns:bal='" ++ ownNamespace ++ "'>\n" ++
      "<bal:Condition Message='m'>A</bal:Condition>" ++
      "<Variable Name='V' bal:Overridable='yes'/><bal:Condition/></Bundle>").toList
    let session : Session Unit := .start {} .empty
    ∃ document, Document.read default input = .ok document ∧
      let elements := document.root.inOrder
      let output := (session.compile document).1
      output.rows.map Row.table = [.condition, .overridable] ∧
      output.diagnostics.map Diagnostic.code = [some "B-2-2", some "B-2-1"] ∧
      (∀ row ∈ output.rows, row.source ∈ elements.map Element.span) ∧
      (∀ diagnostic ∈ output.diagnostics,
        diagnostic.PointsInto (elements.flatMap Element.places)) ∧
      output.rows.Pairwise fun row later => row.source.start ≤ later.source.start := by
  intro input session
  have facts : (Document.read default input).toOption.map (fun document =>
      ((session.compile document).1.rows.map Row.table,
        (session.compile document).1.diagnostics.map Diagnostic.code)) =
      some ([.condition, .overridable], [some "B-2-2", some "B-2-1"]) := by
    decide +kernel
  obtain ⟨document, reads, seen⟩ := Document.exists_of_map_read facts
  obtain ⟨tables, codes⟩ := Prod.mk.inj seen
  obtain ⟨sources, points, _, _, ordered, _⟩ := compile_traces session rfl reads
  exact ⟨document, reads, tables, codes, sources, points, ordered⟩

end Session
end BundleMarkup
