import BundleMarkup.Proofs.Judging.Bearer

/-!
# Isolation of parts

Every part of a document comes to an outcome of its own.  An error takes the rows of its own part
with it, wherever in the part it came up, and no others; and a part that is replaced by another one
leaves the outcomes of all others as they are, as long as no extension looks further than at what it
is given.
-/

namespace BundleMarkup

variable {σ : Type}

/-- All that is reported in a part, by other extensions too, before the policy has its say. -/
def Part.raised (extensions : Extensions σ) (part : Part) : List Diagnostic :=
  (extensions.performAll part.plan).1.flatMap Outcome.diagnostics

/-- An element without the extension's attributes. -/
def Element.dropOwnAttributes (host : Element) : Element :=
  { host with
    attributes := host.attributes.filter fun attr => attr.name.namespaceUri ≠ ownNamespace }

/-- `Without part before after`: the element `after` is `before` with a part taken out. -/
inductive Without : Part → Element → Element → Prop
  /-- A foreign attribute is taken out. -/
  | foreignAttribute {before : Element} {front back : List Attribute} {attr : Attribute}
      (stood : before.attributes = front ++ attr :: back)
      (foreign : isForeignMarkup attr.name.namespaceUri = true) :
      Without (.foreignAttribute before attr) before { before with attributes := front ++ back }
  /-- The extension's attributes are taken out, all of them. -/
  | ownAttributes {before : Element} (some : before.ownAttributes ≠ []) :
      Without (.ownAttributes before before.ownAttributes) before before.dropOwnAttributes
  /-- A child that is no host markup is taken out, one of the extension or a foreign one. -/
  | child {before child : Element} {children : Children} {front back : List Element}
      (stood : before.childElements = front ++ child :: back)
      (remain : children.childElements = front ++ back)
      (outside : isHostMarkup child.name.namespaceUri = false) :
      Without (.ofMarkup before child) before { before with children := children }
  /-- A part is taken out of a child in host markup. -/
  | within {before child child' : Element} {children : Children} {front back : List Element}
      {part : Part} (stood : before.childElements = front ++ child :: back)
      (remain : children.childElements = front ++ child' :: back)
      (hosts : isHostMarkup child.name.namespaceUri = true) (inside : Without part child child') :
      Without part before { before with children := children }

namespace Part

/-- Lists of parts that agree, up to bearers, but for one part that only the first has. -/
def Exceeds (part : Part) (parts parts' : List Part) : Prop :=
  ∃ front back front' back', parts = front ++ part :: back ∧ parts' = front' ++ back' ∧
    List.Forall₂ SameAs front front' ∧ List.Forall₂ SameAs back back'

namespace Exceeds

variable {part : Part} {parts parts' : List Part}

theorem append_left {first first' : List Part} (alike : List.Forall₂ SameAs first first')
    (exceeds : Exceeds part parts parts') : Exceeds part (first ++ parts) (first' ++ parts') := by
  obtain ⟨front, back, front', back', rfl, rfl, fronts, backs⟩ := exceeds
  exact ⟨first ++ front, back, first' ++ front', back', by simp, by simp,
    List.rel_append alike fronts, backs⟩

theorem append_right {last last' : List Part} (alike : List.Forall₂ SameAs last last')
    (exceeds : Exceeds part parts parts') : Exceeds part (parts ++ last) (parts' ++ last') := by
  obtain ⟨front, back, front', back', rfl, rfl, fronts, backs⟩ := exceeds
  exact ⟨front, back ++ last, front', back' ++ last', by simp, by simp, fronts,
    List.rel_append backs alike⟩

end Exceeds

theorem SameAs.refl (part : Part) : SameAs part part := by
  cases part with
  | foreignAttribute host attr => exact .foreignAttribute (.refl host) attr
  | ownAttributes host attributes => exact .ownAttributes (.refl host) attributes
  | ownElement host element => exact .ownElement (.refl host) element
  | foreignElement host element => exact .foreignElement (.refl host) element

theorem forall₂_sameAs_refl (parts : List Part) : List.Forall₂ SameAs parts parts :=
  List.forall₂_same.mpr fun part _ => .refl part

theorem SameAs.of_common {left right common : Part} (first : SameAs left common)
    (second : SameAs right common) : SameAs left right := by
  cases first with
  | foreignAttribute bearers attr =>
      cases second with
      | foreignAttribute bearers' => exact .foreignAttribute (bearers.trans bearers'.symm) attr
  | ownAttributes bearers attributes =>
      cases second with
      | ownAttributes bearers' => exact .ownAttributes (bearers.trans bearers'.symm) attributes
  | ownElement bearers element =>
      cases second with
      | ownElement bearers' => exact .ownElement (bearers.trans bearers'.symm) element
  | foreignElement bearers element =>
      cases second with
      | foreignElement bearers' => exact .foreignElement (bearers.trans bearers'.symm) element

theorem forall₂_sameAs_of_common {parts parts' common : List Part}
    (first : List.Forall₂ SameAs parts common) (second : List.Forall₂ SameAs parts' common) :
    List.Forall₂ SameAs parts parts' := by
  induction first generalizing parts' with
  | nil =>
      cases second
      exact .nil
  | cons same _ ih =>
      obtain - | ⟨same', others⟩ := second
      exact .cons (same.of_common same') (ih others)

/-- Lists that exceed the same parts by one part each agree in all others. -/
theorem Exceeds.others {old new : Part} {parts parts' rest : List Part}
    (exceeds : Exceeds old parts rest) (exceeds' : Exceeds new parts' rest) :
    ∃ front back front' back', parts = front ++ old :: back ∧ parts' = front' ++ new :: back' ∧
      List.Forall₂ SameAs (front ++ back) (front' ++ back') := by
  obtain ⟨front, back, first, last, rfl, split, fronts, backs⟩ := exceeds
  obtain ⟨front', back', first', last', rfl, split', fronts', backs'⟩ := exceeds'
  have left : List.Forall₂ SameAs (front ++ back) rest := split ▸ List.rel_append fronts backs
  have right : List.Forall₂ SameAs (front' ++ back') rest :=
    split' ▸ List.rel_append fronts' backs'
  exact ⟨front, back, front', back', rfl, rfl, forall₂_sameAs_of_common left right⟩

section

variable {left right : Element} (bearers : left.SameBearer right)

include bearers

theorem forall₂_ofAttribute? (attributes : List Attribute) :
    List.Forall₂ SameAs (attributes.filterMap (ofAttribute? left))
      (attributes.filterMap (ofAttribute? right)) := by
  induction attributes with
  | nil => exact .nil
  | cons attr rest ih =>
      cases foreign : isForeignMarkup attr.name.namespaceUri with
      | true => simpa [ofAttribute?, foreign] using ⟨.foreignAttribute bearers attr, ih⟩
      | false => simpa [ofAttribute?, foreign] using ih

theorem forall₂_ofOwnAttributes (own : left.ownAttributes = right.ownAttributes) :
    List.Forall₂ SameAs (ofOwnAttributes left) (ofOwnAttributes right) := by
  unfold ofOwnAttributes
  rw [own]
  split
  · exact .nil
  · exact .cons (.ownAttributes bearers _) .nil

theorem forall₂_ofAttributes (attributes : left.attributes = right.attributes) :
    List.Forall₂ SameAs (ofAttributes left) (ofAttributes right) := by
  have own : left.ownAttributes = right.ownAttributes := by
    rw [Element.ownAttributes, attributes, Element.ownAttributes]
  rw [ofAttributes, ofAttributes, attributes]
  exact List.rel_append (forall₂_ofAttribute? bearers _) (forall₂_ofOwnAttributes bearers own)

theorem forall₂_ofChildren (children : List Element) :
    List.Forall₂ SameAs (children.flatMap (ofChild left)) (children.flatMap (ofChild right)) := by
  induction children with
  | nil => exact .nil
  | cons child rest ih =>
      rw [List.flatMap_cons, List.flatMap_cons]
      apply List.rel_append _ ih
      unfold ofChild ofMarkup
      split
      · exact forall₂_sameAs_refl _
      · split
        · exact .cons (.ownElement bearers child) .nil
        · exact .cons (.foreignElement bearers child) .nil

end

theorem sameBearer_of_without {part : Part} {before after : Element}
    (without : Without part before after) : before.SameBearer after := by
  cases without with
  | @foreignAttribute _ front back attr stood foreign =>
      refine ⟨rfl, rfl, ?_, rfl, rfl⟩
      have outside := (isForeignMarkup_eq_true.mp foreign).2
      simp [Element.hostAttributes, stood, outside]
  | ownAttributes some =>
      refine ⟨rfl, rfl, ?_, rfl, rfl⟩
      rw [Element.hostAttributes, Element.hostAttributes, Element.dropOwnAttributes,
        List.filter_filter]
      apply List.filter_congr
      intro attr _
      by_cases own : attr.name.namespaceUri = ownNamespace
      · simp [own, not_isHostMarkup_ownNamespace]
      · simp [own]
  | child stood remain outside => exact ⟨rfl, rfl, rfl, rfl, rfl⟩
  | within stood remain hosts inside => exact ⟨rfl, rfl, rfl, rfl, rfl⟩

theorem ofAttributes_dropOwnAttributes (host : Element) :
    ofAttributes host.dropOwnAttributes =
      host.attributes.filterMap (ofAttribute? host.dropOwnAttributes) := by
  have own : host.dropOwnAttributes.ownAttributes = [] := by
    simp [Element.ownAttributes, Element.dropOwnAttributes]
  have foreign : host.dropOwnAttributes.attributes.filterMap (ofAttribute? host.dropOwnAttributes) =
      host.attributes.filterMap (ofAttribute? host.dropOwnAttributes) := by
    rw [Element.dropOwnAttributes, List.filterMap_filter]
    apply List.filterMap_congr
    intro attr _
    by_cases own : attr.name.namespaceUri = ownNamespace
    · simp [own, ofAttribute?, isForeignMarkup]
    · simp [own]
  rw [ofAttributes, foreign, ofOwnAttributes, own]
  simp

theorem exceeds_of_between (part : Part) {front back front' back' : List Part}
    (fronts : List.Forall₂ SameAs front front') (backs : List.Forall₂ SameAs back back') :
    Exceeds part (front ++ part :: back) (front' ++ back') :=
  ⟨front, back, front', back', rfl, rfl, fronts, backs⟩

/-- Taking a part out takes it out of the list of parts, and no other. -/
theorem exceeds_of_without {part : Part} {before after : Element}
    (without : Without part before after) : Exceeds part (ofHost before) (ofHost after) := by
  have bearers := sameBearer_of_without without
  induction without with
  | @foreignAttribute before front back attr stood foreign =>
      have own : before.ownAttributes =
          Element.ownAttributes { before with attributes := front ++ back } := by
        simp [Element.ownAttributes, stood, (isForeignMarkup_eq_true.mp foreign).1]
      have made : ofAttribute? before attr = some (.foreignAttribute before attr) := if_pos foreign
      have exceeds := exceeds_of_between (.foreignAttribute before attr)
        (forall₂_ofAttribute? bearers front)
        (List.rel_append (forall₂_ofAttribute? bearers back)
          (List.rel_append (forall₂_ofOwnAttributes bearers own)
            (forall₂_ofChildren bearers before.childElements)))
      have children : Element.childElements { before with attributes := front ++ back } =
          before.childElements := rfl
      rw [ofHost_eq, ofHost_eq, ofAttributes, ofAttributes, stood, children]
      simpa [made] using exceeds
  | @ownAttributes before some =>
      have left : ofOwnAttributes before = [.ownAttributes before before.ownAttributes] := by
        simp [ofOwnAttributes, some]
      have exceeds := exceeds_of_between (.ownAttributes before before.ownAttributes)
        (forall₂_ofAttribute? bearers before.attributes)
        (forall₂_ofChildren bearers before.childElements)
      have children : before.dropOwnAttributes.childElements = before.childElements := rfl
      rw [ofHost_eq, ofHost_eq, ofAttributes_dropOwnAttributes, ofAttributes, left, children]
      simpa using exceeds
  | @child before child children front back stood remain outside =>
      have exceeds := exceeds_of_between (.ofMarkup before child)
        (List.rel_append (forall₂_ofAttributes bearers rfl) (forall₂_ofChildren bearers front))
        (forall₂_ofChildren bearers back)
      have made : ofChild before child = [.ofMarkup before child] := by simp [ofChild, outside]
      have remain : Element.childElements { before with children := children } = front ++ back :=
        remain
      rw [ofHost_eq, ofHost_eq, stood, remain]
      simpa [made] using exceeds
  | @within before child child' children front back part stood remain hosts inside ih =>
      have same := sameBearer_of_without inside
      have hosts' : isHostMarkup child'.name.namespaceUri = true := same.name ▸ hosts
      have made : ofChild before child = ofHost child := if_pos hosts
      have made' : ofChild { before with children := children } child' = ofHost child' :=
        if_pos hosts'
      have remain : Element.childElements { before with children := children } =
          front ++ child' :: back := remain
      have exceeds := ((ih same).append_right (forall₂_ofChildren bearers back)).append_left
        (List.rel_append (forall₂_ofAttributes bearers rfl) (forall₂_ofChildren bearers front))
      rw [ofHost_eq, ofHost_eq, stood, remain]
      simpa [made, made'] using exceeds

section

variable {same : Element → Element → Prop}
  (named : ∀ {left right : Element}, same left right → left.name = right.name)

include named

/-- Parts with the same plan and rows come to the same outcome in all states of extensions. -/
theorem judge_congr {left right : Session σ} (respects : left.extensions.Respects same)
    (kinds : left.extensions.kinds = right.extensions.kinds) (policy : left.policy = right.policy)
    {part part' : Part} (plans : List.Forall₂ (Step.Same same) part.plan part'.plan)
    (rows : part.ownRows = part'.ownRows) : (part.judge left).1 = (part'.judge right).1 := by
  rw [judge_outcome, judge_outcome, policy, rows,
    Extensions.performAll_congr named respects kinds plans]

end

theorem kinds_judge (session : Session σ) (part : Part) :
    (part.judge session).2.extensions.kinds = session.extensions.kinds := by
  rw [judge_extensions, Extensions.kinds_performAll]

/-- The outcomes of parts, each judged as if there were no others. -/
def judgeEach (session : Session σ) (parts : List Part) : List Outcome :=
  parts.map fun part => (part.judge session).1

/-- If no extension answers by its state, every part can be judged on its own. -/
theorem judgeAll_eq_judgeEach {session : Session σ} (respects : session.extensions.Respects Eq)
    (parts : List Part) : (judgeAll session parts).1 = judgeEach session parts := by
  have later (parts : List Part) (current : Session σ)
      (kinds : session.extensions.kinds = current.extensions.kinds)
      (policy : session.policy = current.policy) :
      (judgeAll current parts).1 = judgeEach session parts := by
    induction parts generalizing current with
    | nil => rfl
    | cons part rest ih =>
        have first := judge_congr (fun equal => congrArg Element.name equal) respects kinds policy
          (Step.forall₂_same_refl Eq.refl part.plan) rfl
        have others := ih (part.judge current).2 (kinds.trans (kinds_judge current part).symm)
          (policy.trans (judge_policy current part).symm)
        rw [judgeAll_cons, judgeEach, List.map_cons, first]
        simp only [others]
        rfl
  exact later parts session rfl rfl

end Part

theorem Extensions.Respects.of_sameBearer {extensions : Extensions σ}
    (respects : extensions.Respects Element.SameBearer) : extensions.Respects Eq := by
  intro loaded among
  constructor
  · rintro left _ rfl before after attr
    exact (respects loaded among).onAttribute (.refl left) before after attr
  · rintro left _ rfl before after element
    exact (respects loaded among).onElement (.refl left) before after element

namespace Part

theorem judgeEach_congr {session : Session σ}
    (respects : session.extensions.Respects Element.SameBearer) {parts parts' : List Part}
    (alike : List.Forall₂ SameAs parts parts') :
    judgeEach session parts = judgeEach session parts' := by
  induction alike with
  | nil => rfl
  | @cons part part' _ _ first _ ih =>
      have same : (part.judge session).1 = (part'.judge session).1 :=
        judge_congr (fun bearers => bearers.name) respects rfl rfl (plan_congr first)
          (ownRows_congr first)
      rw [judgeEach] at ih ⊢
      rw [List.map_cons, ih, same]
      rfl

/-- The outcome of a part in its place, and all that is reported in it. -/
theorem outcome_of_split (session : Session σ) (front back : List Part) (part : Part) :
    let before := (judgeAll session front).2
    let outcome := (part.judge before).1
    (judgeAll session (front ++ part :: back)).1[front.length]? = some outcome ∧
      outcome.diagnostics = (part.raised before.extensions).filterMap session.policy.apply := by
  intro before outcome
  constructor
  · have place : front.length = (judgeAll session front).1.length :=
      (length_judgeAll session front).symm
    simp [judgeAll_append, judgeAll_cons, place, before, outcome]
  · have policy : before.policy = session.policy := judgeAll_policy session front
    rw [← policy]
    exact congrArg Outcome.diagnostics (judge_outcome before part)

end Part

/-- An extension that makes a variable of the linker from each of its attributes. -/
def noteTaker : Extension Unit :=
  { namespaceUri := "urn:notes"
    onAttribute := fun state _ attr =>
      (.ofRows [.linkVariable attr.name.localName attr.value attr.nameSpan], state) }

/-- An element without attributes and children. -/
def bareElement (uri localName : String) : Element :=
  { name := ⟨some uri, localName, none⟩
    nameSpan := default
    attributes := []
    declarations := []
    children := .empty
    span := default }

/-- A note. -/
def ownerNote : Attribute := ⟨⟨some "urn:notes", "Owner", none⟩, default, "me", default⟩

/-- A host element with a note and child elements. -/
def notedBundle (children : List Element) : Element :=
  { bareElement hostNamespace "Bundle" with
    attributes := [ownerNote]
    children := .ofElements children }

/-- A noted bundle has two parts, its note and its one child. -/
theorem Part.ofHost_notedBundle {child : Element}
    (outside : isHostMarkup child.name.namespaceUri = false) :
    ofHost (notedBundle [child]) =
      [.foreignAttribute (notedBundle [child]) ownerNote,
        .ofMarkup (notedBundle [child]) child] := by
  have children : (notedBundle [child]).childElements = [child] := rfl
  have made : ofChild (notedBundle [child]) child = [.ofMarkup (notedBundle [child]) child] := by
    simp [ofChild, outside]
  rw [ofHost_eq, children, List.flatMap_singleton, made]
  rfl

theorem Without.child_notedBundle (child : Element)
    (outside : isHostMarkup child.name.namespaceUri = false) :
    Without (.ofMarkup (notedBundle [child]) child) (notedBundle [child]) (notedBundle []) :=
  .child (show (notedBundle [child]).childElements = [] ++ child :: [] from rfl)
    (show (Children.ofElements []).childElements = [] ++ [] from rfl) outside

theorem noteTaker_respects : noteTaker.Respects Element.SameBearer := by
  constructor
  · intro left right bearers before after attr
    rfl
  · intro left right bearers before after element
    simp only [noteTaker, Message.unsupportedExtensionElement, bearers.name]

/-- An extension that tells for each of its attributes which children the element with it has. -/
def childLister : Extension Unit :=
  { namespaceUri := "urn:notes"
    onAttribute := fun state bearer attr =>
      (.ofRows [.linkVariable attr.name.localName
        (String.intercalate " " (bearer.childElements.map Element.localName)) attr.nameSpan],
        state) }

theorem childLister_respects : childLister.Respects Eq := by
  constructor
  · rintro left _ rfl before after attr
    rfl
  · rintro left _ rfl before after element
    rfl

namespace Session

/--
A compiled document is one outcome for each part on a visited element, in the order of the walk.  An
error anywhere in a part, as the policy leaves it, takes the rows of that part away.  If extensions
answer from what they are given alone, every part is judged as if there were no others.  Where a
part is replaced by another, all others stay the same parts on the same bearers, and they come to
the same outcomes unless an extension looks at the other parts on the bearer it is given.
-/
theorem compile_isolates_parts (session : Session σ) (document : Document) :
    let parts := Part.ofHost document.root
    let outcomes := (Part.judgeAll session parts).1
    ((session.compile document).1 = .ofOutcomes outcomes ∧ outcomes.length = parts.length ∧
      ∀ part, part ∈ parts ↔ ∃ host, Visited document.root host ∧ part.IsOn host) ∧
    (∀ front part back, parts = front ++ part :: back →
      let before := (Part.judgeAll session front).2
      let outcome := (part.judge before).1
      outcomes[front.length]? = some outcome ∧
        outcome.diagnostics = (part.raised before.extensions).filterMap session.policy.apply ∧
        (Diagnostic.anyError outcome.diagnostics = true → outcome.rows = [])) ∧
    (session.extensions.Respects Eq → outcomes = Part.judgeEach session parts) ∧
    (∀ old new rest changed span, Without old document.root rest → Without new changed rest →
      ∃ front back front' back', parts = front ++ old :: back ∧
        Part.ofHost changed = front' ++ new :: back' ∧
        List.Forall₂ Part.SameAs (front ++ back) (front' ++ back') ∧
        (session.extensions.Respects Element.SameBearer →
          Part.judgeEach session (front ++ back) = Part.judgeEach session (front' ++ back') ∧
          (session.compile document).1 =
            .ofOutcomes (Part.judgeEach session (front ++ old :: back)) ∧
          (session.compile ⟨changed, span⟩).1 =
            .ofOutcomes (Part.judgeEach session (front' ++ new :: back')))) := by
  intro parts outcomes
  refine ⟨⟨?_, ?_, ?_⟩, ?_, ?_, ?_⟩
  · exact congrArg Prod.fst (compile_eq session document)
  · exact Part.length_judgeAll session parts
  · exact fun part => Part.mem_ofHost
  · rintro front part back split before outcome
    obtain ⟨place, diagnostics⟩ := Part.outcome_of_split session front back part
    refine ⟨?_, diagnostics, outcome.rows_eq_nil⟩
    rw [← place, ← split]
  · exact fun respects => Part.judgeAll_eq_judgeEach respects parts
  · intro old new rest changed span without without'
    obtain ⟨front, back, front', back', split, split', others⟩ :=
      (Part.exceeds_of_without without).others (Part.exceeds_of_without without')
    refine ⟨front, back, front', back', split, split', others, ?_⟩
    intro respects
    refine ⟨Part.judgeEach_congr respects others, ?_, ?_⟩
    · rw [compile_eq, Part.judgeAll_eq_judgeEach respects.of_sameBearer, split]
    · rw [compile_eq, Part.judgeAll_eq_judgeEach respects.of_sameBearer, split']

/-- An unknown element of the extension, an error, gives way to a foreign one; the note stays. -/
theorem compile_isolates_parts_notedBundle :
    let session := start {} ⟨[⟨noteTaker, ()⟩]⟩
    let unknown := bareElement ownNamespace "Unknown"
    let foreign := bareElement "urn:other" "Thing"
    let bundle := notedBundle [unknown]
    let changed := notedBundle [foreign]
    let note := Part.foreignAttribute bundle ownerNote
    Part.ofHost bundle = [note] ++ .ownElement bundle unknown :: [] ∧
    (Diagnostic.anyError ((Part.ownElement bundle unknown).judge
        (Part.judgeAll session [note]).2).1.diagnostics = true →
      ((Part.ownElement bundle unknown).judge (Part.judgeAll session [note]).2).1.rows = []) ∧
    session.extensions.Respects Element.SameBearer ∧
    Without (.ownElement bundle unknown) bundle (notedBundle []) ∧
    Without (.foreignElement changed foreign) changed (notedBundle []) ∧
    ∃ front back front' back', Part.ofHost bundle = front ++ .ownElement bundle unknown :: back ∧
      Part.ofHost changed = front' ++ .foreignElement changed foreign :: back' ∧
      Part.judgeEach session (front ++ back) = Part.judgeEach session (front' ++ back') ∧
      (session.compile ⟨bundle, default⟩).1 =
        .ofOutcomes (Part.judgeEach session (front ++ .ownElement bundle unknown :: back)) ∧
      (session.compile ⟨changed, default⟩).1 = .ofOutcomes
        (Part.judgeEach session (front' ++ .foreignElement changed foreign :: back')) := by
  intro session unknown foreign bundle changed note
  have respects : session.extensions.Respects Element.SameBearer := by
    intro loaded among
    obtain rfl := List.mem_singleton.mp among
    exact noteTaker_respects
  have parts : Part.ofHost bundle = [note] ++ .ownElement bundle unknown :: [] :=
    Part.ofHost_notedBundle (by decide)
  have without : Without (.ownElement bundle unknown) bundle (notedBundle []) :=
    .child_notedBundle unknown (by decide)
  have without' : Without (.foreignElement changed foreign) changed (notedBundle []) :=
    .child_notedBundle foreign (by decide)
  obtain ⟨_, rows, _, replaced⟩ := compile_isolates_parts session ⟨bundle, default⟩
  obtain ⟨front, back, front', back', split, split', _, outcomes⟩ :=
    replaced _ _ _ _ default without without'
  exact ⟨parts, (rows [note] _ [] parts).2.2, respects, without, without',
    front, back, front', back', split, split', outcomes respects⟩

/--
An extension that answers from what it is given alone is given the bearer with all its parts.  The
note stays the same part on the same bearer where a foreign element takes the place of an unknown
one, yet it comes to another outcome.  In a text a longer part makes its bearer longer as well, and
from there the rows of other parts come.
-/
theorem compile_isolates_parts_childLister :
    let session := start {} ⟨[⟨childLister, ()⟩]⟩
    let unknown := bareElement ownNamespace "Unknown"
    let foreign := bareElement "urn:other" "Thing"
    let bundle := notedBundle [unknown]
    let changed := notedBundle [foreign]
    let note := Part.foreignAttribute bundle ownerNote
    let note' := Part.foreignAttribute changed ownerNote
    let written (child : String) := ("<Variable Name='V' xmlns:bal='" ++ ownNamespace ++
      "' bal:Overridable='yes'>" ++ child ++ "</Variable>").toList
    let bare : Session Unit := start {} .empty
    (session.extensions.Respects Eq ∧
      Without (.ownElement bundle unknown) bundle (notedBundle []) ∧
      Without (.foreignElement changed foreign) changed (notedBundle []) ∧
      Part.ofHost bundle = [note, .ownElement bundle unknown] ∧
      Part.ofHost changed = [note', .foreignElement changed foreign] ∧ note.SameAs note' ∧
      Part.judgeEach session [note] = [.ofRows [.linkVariable "Owner" "Unknown" default]] ∧
      Part.judgeEach session [note'] = [.ofRows [.linkVariable "Owner" "Thing" default]] ∧
      (session.compile ⟨bundle, default⟩).1.rows = [.linkVariable "Owner" "Unknown" default] ∧
      (session.compile ⟨changed, default⟩).1.rows = [.linkVariable "Owner" "Thing" default]) ∧
    ∃ short long, Document.read default (written "<bal:A/>") = .ok short ∧
      Document.read default (written "<bal:Ab/>") = .ok long ∧
      (bare.compile short).1.rows = [.ofTexts .overridable ["V"] short.root.span] ∧
      (bare.compile long).1.rows = [.ofTexts .overridable ["V"] long.root.span] ∧
      short.root.span.stop + 1 = long.root.span.stop := by
  intro session unknown foreign bundle changed note note' written bare
  have respects : session.extensions.Respects Eq := by
    intro loaded among
    obtain rfl := List.mem_singleton.mp among
    exact childLister_respects
  have parts : Part.ofHost bundle = [note, .ownElement bundle unknown] :=
    Part.ofHost_notedBundle (by decide)
  have parts' : Part.ofHost changed = [note', .foreignElement changed foreign] :=
    Part.ofHost_notedBundle (by decide)
  have bearers : bundle.SameBearer changed := ⟨rfl, rfl, rfl, rfl, rfl⟩
  have rows : (session.compile ⟨bundle, default⟩).1.rows =
      [.linkVariable "Owner" "Unknown" default] := by
    rw [compile_eq, parts]
    decide +kernel
  have rows' : (session.compile ⟨changed, default⟩).1.rows =
      [.linkVariable "Owner" "Thing" default] := by
    rw [compile_eq, parts']
    decide +kernel
  refine ⟨⟨respects, .child_notedBundle unknown (by decide),
    .child_notedBundle foreign (by decide), parts, parts', .foreignAttribute bearers ownerNote,
    by decide +kernel, by decide +kernel, rows, rows'⟩, ?_⟩
  let view (document : Document) : List Row × SourceSpan :=
    ((bare.compile document).1.rows, document.root.span)
  let extent (stop : Nat) : SourceSpan := ⟨default, ⟨⟨0, 0, 0⟩, ⟨stop, 0, stop⟩⟩⟩
  have facts : (Document.read default (written "<bal:A/>")).toOption.map view =
      some ([.ofTexts .overridable ["V"] (extent 113)], extent 113) := by decide +kernel
  have facts' : (Document.read default (written "<bal:Ab/>")).toOption.map view =
      some ([.ofTexts .overridable ["V"] (extent 114)], extent 114) := by decide +kernel
  obtain ⟨short, reads, seen⟩ := Document.exists_of_map_read facts
  obtain ⟨long, reads', seen'⟩ := Document.exists_of_map_read facts'
  obtain ⟨owned, place⟩ := Prod.mk.inj seen
  obtain ⟨owned', place'⟩ := Prod.mk.inj seen'
  refine ⟨short, long, reads, reads', ?_, ?_, ?_⟩
  · exact place ▸ owned
  · exact place' ▸ owned'
  · rw [place, place']
    rfl

end Session
end BundleMarkup
