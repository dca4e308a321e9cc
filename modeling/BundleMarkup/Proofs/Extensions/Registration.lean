import BundleMarkup.Proofs.Extensions.Entries
import BundleMarkup.Proofs.Judging.Traces

/-!
# Registration

The first extension offered for a namespace that is not reserved takes it, and later offers change
nothing.  So the order in which namespaces are taken is no matter: nothing that the table can be
asked tells it, nor does any compiled document.  An extension whose namespace does not occur in a
document does not influence what the document is compiled to.
-/

namespace BundleMarkup

variable {σ : Type}

namespace Extensions

variable {extensions : Extensions σ}

/-- A namespace is taken if it has an entry. -/
theorem mem_namespaces_iff {uri : String} :
    uri ∈ extensions.namespaces ↔ (extensions.find? uri).isSome = true := by
  simp [namespaces, find?]

theorem contains_eq (extensions : Extensions σ) (uri : String) :
    extensions.contains uri = (extensions.find? uri).isSome := by
  rw [Bool.eq_iff_iff, ← mem_namespaces_iff, contains, List.contains_iff_mem]

/-- An extension is registered exactly if its namespace is neither reserved nor taken. -/
theorem register_eq (extensions : Extensions σ) (extension : Extension σ) (state : σ) :
    extensions.register extension state =
      if isReservedNamespace extension.namespaceUri then .error (.reserved extension.namespaceUri)
      else if (extensions.find? extension.namespaceUri).isSome then
        .error (.taken extension.namespaceUri)
      else .ok ⟨extensions.loaded ++ [⟨extension, state⟩]⟩ := by
  rw [register, contains_eq]

end Extensions

/-- An extension with the state that it is to start from. -/
structure Offer (σ : Type) where
  extension : Extension σ
  state : σ

namespace Offer

/-- The namespace that an offer is for. -/
def namespaceUri (offer : Offer σ) : String := offer.extension.namespaceUri

/-- The entry that an offer becomes if it is accepted. -/
def entry (offer : Offer σ) : Loaded σ := ⟨offer.extension, offer.state⟩

end Offer

namespace Extensions

/-- Register what is offered, if that is possible. -/
def offer (extensions : Extensions σ) (offer : Offer σ) : Extensions σ :=
  match extensions.register offer.extension offer.state with
  | .ok later => later
  | .error _ => extensions

/-- Register what is offered, one after another. -/
def offerAll (extensions : Extensions σ) (offers : List (Offer σ)) : Extensions σ :=
  offers.foldl offer extensions

variable {extensions : Extensions σ}

theorem offer_eq (extensions : Extensions σ) (offered : Offer σ) :
    extensions.offer offered =
      if isReservedNamespace offered.namespaceUri ||
          (extensions.find? offered.namespaceUri).isSome then extensions
      else ⟨extensions.loaded ++ [offered.entry]⟩ := by
  rw [offer, register_eq, ← Offer.namespaceUri]
  cases isReservedNamespace offered.namespaceUri with
  | true => rfl
  | false => cases extensions.find? offered.namespaceUri <;> rfl

/-- An offer is accepted where nothing is registered yet, unless the namespace is reserved. -/
theorem find?_offer (extensions : Extensions σ) (offered : Offer σ) (uri : String) :
    (extensions.offer offered).find? uri =
      (extensions.find? uri).or
        (if isReservedNamespace uri = false ∧ offered.namespaceUri = uri then some offered.entry
        else none) := by
  have last : (⟨extensions.loaded ++ [offered.entry]⟩ : Extensions σ).find? uri =
      (extensions.find? uri).or
        (if offered.namespaceUri = uri then some offered.entry else none) := by
    rw [find?, List.find?_append, ← find?, List.find?_singleton]
    simp only [decide_eq_true_eq]
    rfl
  rw [offer_eq]
  by_cases own : offered.namespaceUri = uri
  · obtain rfl := own
    cases reserved : isReservedNamespace offered.namespaceUri with
    | true => simp
    | false => cases taken : extensions.find? offered.namespaceUri <;> simp_all
  · split <;> simp [own, last]

/-- To each namespace that is free and not reserved goes the first extension that is offered. -/
theorem find?_offerAll (extensions : Extensions σ) (offers : List (Offer σ)) (uri : String) :
    (extensions.offerAll offers).find? uri =
      (extensions.find? uri).or
        (if isReservedNamespace uri then none
        else (offers.find? (·.namespaceUri = uri)).map Offer.entry) := by
  induction offers generalizing extensions with
  | nil => simp [offerAll]
  | cons first rest ih =>
      rw [offerAll, List.foldl_cons, ← offerAll, ih, find?_offer, Option.or_assoc]
      congr 1
      by_cases own : first.namespaceUri = uri
      · cases isReservedNamespace uri <;> simp [own]
      · simp [own]

theorem IsRegistry.offer (registry : extensions.IsRegistry) (offered : Offer σ) :
    (extensions.offer offered).IsRegistry := by
  unfold Extensions.offer
  split
  · rename_i registers
    exact registry.register registers
  · exact registry

theorem IsRegistry.offerAll (registry : extensions.IsRegistry) (offers : List (Offer σ)) :
    (extensions.offerAll offers).IsRegistry := by
  induction offers generalizing extensions with
  | nil => exact registry
  | cons first rest ih => exact ih (registry.offer first)

/-- Texts are sorted alike however they were ordered. -/
theorem mergeSort_eq_of_perm {texts texts' : List String} (perm : texts.Perm texts') :
    texts.mergeSort (fun left right => decide (left ≤ right)) =
      texts'.mergeSort fun left right => decide (left ≤ right) := by
  have sorted (list : List String) :
      (list.mergeSort fun left right => decide (left ≤ right)).Pairwise (· ≤ ·) := by
    refine (List.pairwise_mergeSort ?_ ?_ list).imp of_decide_eq_true
    · intro first second third before after
      exact decide_eq_true (String.le_trans (of_decide_eq_true before) (of_decide_eq_true after))
    · intro first second
      simpa using String.le_total first second
  refine List.Perm.eq_of_pairwise (fun _ _ _ _ => String.le_antisymm) (sorted _) (sorted _) ?_
  exact (List.mergeSort_perm _ _).trans (perm.trans (List.mergeSort_perm _ _).symm)

/-- Registries that tell their entries alike, whatever their order. -/
structure SameEntries (left right : Extensions σ) : Prop where
  isRegistry : left.IsRegistry
  isRegistry' : right.IsRegistry
  find?_eq : ∀ uri, left.find? uri = right.find? uri

namespace SameEntries

variable {left right : Extensions σ} (same : SameEntries left right)

include same

theorem perm_namespaces : left.namespaces.Perm right.namespaces := by
  refine (List.perm_ext_iff_of_nodup same.isRegistry.distinct same.isRegistry'.distinct).mpr ?_
  intro uri
  rw [mem_namespaces_iff, mem_namespaces_iff, same.find?_eq]

theorem size_eq : left.size = right.size := by
  simpa [size, namespaces] using same.perm_namespaces.length_eq

theorem render_eq : left.render = right.render := by
  unfold render
  rw [mergeSort_eq_of_perm same.perm_namespaces]

theorem perform (step : Step) :
    (left.perform step).1 = (right.perform step).1 ∧
      SameEntries (left.perform step).2 (right.perform step).2 := by
  have agree : AgreeOn (fun _ => True) left right := fun uri _ => same.find?_eq uri
  have concerned : ∀ call, step.call? = some call → True := fun _ _ => trivial
  obtain ⟨outcome, still⟩ := agree.perform concerned
  exact ⟨outcome, same.isRegistry.performAll [step], same.isRegistry'.performAll [step],
    fun uri => still uri trivial⟩

theorem offer (offered : Offer σ) : SameEntries (left.offer offered) (right.offer offered) := by
  refine ⟨same.isRegistry.offer offered, same.isRegistry'.offer offered, fun uri => ?_⟩
  rw [find?_offer, find?_offer, same.find?_eq]

end SameEntries

end Extensions

/-- What a registry may be asked for. -/
inductive Request (σ : Type)
  | register (offer : Offer σ)
  | call (call : Call)
  | contains (uri : String)
  | size
  | render

/-- What a registry answers. -/
inductive Answer
  | registered
  | refused (error : RegistrationError)
  | judged (outcome : Outcome)
  | contained (isContained : Bool)
  | counted (number : Nat)
  | rendered (text : String)

namespace Extensions

/-- Answer a request. -/
def respond (extensions : Extensions σ) : Request σ → Answer × Extensions σ
  | .register offer =>
      match extensions.register offer.extension offer.state with
      | .ok later => (.registered, later)
      | .error error => (.refused error, extensions)
  | .call call =>
      let (outcome, extensions) := extensions.perform call.step
      (.judged outcome, extensions)
  | .contains uri => (.contained (extensions.contains uri), extensions)
  | .size => (.counted extensions.size, extensions)
  | .render => (.rendered extensions.render, extensions)

/-- A registration is refused for a namespace that is reserved or taken; else it is made. -/
theorem respond_register (extensions : Extensions σ) (offered : Offer σ) :
    extensions.respond (.register offered) =
      (if isReservedNamespace offered.namespaceUri then
          .refused (.reserved offered.namespaceUri)
        else if (extensions.find? offered.namespaceUri).isSome then
          .refused (.taken offered.namespaceUri)
        else .registered, extensions.offer offered) := by
  rw [respond, offer, register_eq, ← Offer.namespaceUri]
  cases isReservedNamespace offered.namespaceUri with
  | true => rfl
  | false => cases extensions.find? offered.namespaceUri <;> rfl

theorem respond_register_refused {extensions : Extensions σ} {offered : Offer σ}
    {error : RegistrationError}
    (refused : (extensions.respond (.register offered)).1 = .refused error) :
    (extensions.respond (.register offered)).2 = extensions := by
  rw [respond] at refused ⊢
  cases registers : extensions.register offered.extension offered.state with
  | ok later =>
      rw [registers] at refused
      cases refused
  | error error => rfl

/-- Answer requests, one after another. -/
def respondAll (extensions : Extensions σ) : List (Request σ) → List Answer × Extensions σ
  | [] => ([], extensions)
  | request :: rest =>
      let (answer, extensions) := extensions.respond request
      let (later, extensions) := respondAll extensions rest
      (answer :: later, extensions)

theorem respondAll_cons (extensions : Extensions σ) (request : Request σ)
    (rest : List (Request σ)) :
    extensions.respondAll (request :: rest) =
      ((extensions.respond request).1 :: ((extensions.respond request).2.respondAll rest).1,
        ((extensions.respond request).2.respondAll rest).2) := rfl

/-- Registries with the same entries answer alike and go on having the same entries. -/
theorem SameEntries.respond {left right : Extensions σ} (same : SameEntries left right)
    (request : Request σ) :
    (left.respond request).1 = (right.respond request).1 ∧
      SameEntries (left.respond request).2 (right.respond request).2 := by
  cases request with
  | register offered =>
      rw [respond_register, respond_register, same.find?_eq]
      exact ⟨rfl, same.offer offered⟩
  | call call =>
      obtain ⟨outcome, still⟩ := same.perform call.step
      exact ⟨congrArg Answer.judged outcome, still⟩
  | contains uri =>
      refine ⟨?_, same⟩
      rw [Extensions.respond, Extensions.respond, contains_eq, contains_eq, same.find?_eq]
  | size => exact ⟨congrArg Answer.counted same.size_eq, same⟩
  | render => exact ⟨congrArg Answer.rendered same.render_eq, same⟩

theorem SameEntries.respondAll {left right : Extensions σ} (same : SameEntries left right)
    (requests : List (Request σ)) :
    (left.respondAll requests).1 = (right.respondAll requests).1 := by
  induction requests generalizing left right with
  | nil => rfl
  | cons request rest ih =>
      obtain ⟨answer, still⟩ := same.respond request
      rw [respondAll_cons, respondAll_cons, answer, ih still]

/-- Offers for different namespaces may change places. -/
theorem SameEntries.of_filter_eq {extensions : Extensions σ} (registry : extensions.IsRegistry)
    {offers offers' : List (Offer σ)}
    (reordered : ∀ uri, offers.filter (·.namespaceUri = uri) =
      offers'.filter (·.namespaceUri = uri)) :
    SameEntries (extensions.offerAll offers) (extensions.offerAll offers') := by
  refine ⟨registry.offerAll offers, registry.offerAll offers', fun uri => ?_⟩
  rw [find?_offerAll, find?_offerAll, ← List.head?_filter, ← List.head?_filter, reordered uri]

end Extensions

/-- Whether some element of a document or an attribute of one is in a namespace. -/
def Document.Mentions (document : Document) (uri : String) : Prop :=
  ∃ element ∈ document.root.inOrder, element.name.namespaceUri = uri ∨
    ∃ attr ∈ element.attributes, attr.name.namespaceUri = uri

/-- What is handed over of a part stands in the host element or inside it. -/
theorem Part.IsOn.exists_of_call {host : Element} {part : Part} (stands : IsOn host part)
    {step : Step} (among : step ∈ part.plan) {call : Call} (makes : step.call? = some call) :
    ∃ element, host.Within element ∧ (element.name.namespaceUri = call.uri ∨
      ∃ attr ∈ element.attributes, attr.name.namespaceUri = call.uri) := by
  cases stands with
  | @foreignAttribute attr inside _ =>
      obtain rfl := List.mem_singleton.mp among
      obtain rfl := Option.some.inj makes
      exact ⟨host, .self, .inr ⟨attr, inside, rfl⟩⟩
  | ownAttributes _ =>
      obtain ⟨diagnostic, _, rfl⟩ := List.mem_map.mp among
      cases makes
  | foreignElement inside _ =>
      obtain rfl := List.mem_singleton.mp among
      obtain rfl := Option.some.inj makes
      exact ⟨_, .child .self inside, .inl rfl⟩
  | @ownElement child inside _ =>
      cases routed : ElementKind.route? host.localName child.localName with
      | none =>
          simp only [plan, routed] at among
          obtain rfl := List.mem_singleton.mp among
          cases makes
      | some kind =>
          simp only [plan, routed] at among
          obtain ⟨_, rfl, _⟩ | ⟨attr, member, _, rfl⟩ | ⟨inner, member, rfl⟩ :=
            Validator.mem_plan among
          · cases makes
          · obtain rfl := Option.some.inj makes
            exact ⟨child, .child .self inside, .inr ⟨attr, member, rfl⟩⟩
          · unfold Validator.childStep at makes
            split at makes
            · cases makes
            · obtain rfl := Option.some.inj makes
              exact ⟨inner, .child (.child .self inside) member, .inl rfl⟩

/-- A document mentions the namespaces of all that it hands over. -/
theorem Document.mentions_of_mem_handed {document : Document} {call : Call}
    (among : call ∈ document.handed) : document.Mentions call.uri := by
  obtain ⟨step, planned, makes⟩ := List.mem_filterMap.mp among
  obtain ⟨part, listed, planned⟩ := List.mem_flatMap.mp planned
  obtain ⟨host, visited, stands⟩ := Part.mem_ofHost.mp listed
  obtain ⟨element, inside, named⟩ := stands.exists_of_call planned makes
  exact ⟨element, Element.mem_inOrder.mpr (visited.within.trans inside), named⟩

/-- An extension whose namespace a document does not mention has no part in compiling it. -/
theorem Session.compile_offer (session : Session σ) (offered : Offer σ) {document : Document}
    (absent : ¬ document.Mentions offered.namespaceUri) :
    ({ session with extensions := session.extensions.offer offered }.compile document).1 =
      (session.compile document).1 := by
  have agree : (session.extensions.offer offered).AgreeOn (· ≠ offered.namespaceUri)
      session.extensions := by
    intro uri other
    rw [Extensions.find?_offer, if_neg fun accepted => other accepted.2.symm, Option.or_none]
  have concerned : ∀ call ∈ document.handed, call.uri ≠ offered.namespaceUri :=
    fun call among same => absent (same ▸ document.mentions_of_mem_handed among)
  let offering := { session with extensions := session.extensions.offer offered }
  have policies : offering.policy = session.policy := rfl
  exact (compile_agree policies agree concerned).1

theorem isReservedNamespace_eq_false {uri : String} :
    isReservedNamespace uri = false ↔ uri ∉ ["", ownNamespace, hostNamespace] := by
  simp [isReservedNamespace, and_assoc]

namespace Extensions

/-- From the start, the namespaces that are taken are those that were offered for, unless they are
reserved, and each has the first extension that was offered for it. -/
theorem namespaces_offerAll (offers : List (Offer σ)) :
    let accepted := (empty : Extensions σ).offerAll offers
    accepted.namespaces.Nodup ∧ ∀ uri,
      (uri ∈ accepted.namespaces ↔
        uri ∉ ["", ownNamespace, hostNamespace] ∧ uri ∈ offers.map Offer.namespaceUri) ∧
      (uri ∈ accepted.namespaces → ∃ first,
        offers.find? (·.namespaceUri = uri) = some first ∧
          accepted.find? uri = some first.entry) := by
  intro accepted
  refine ⟨(isRegistry_empty.offerAll offers).distinct, fun uri => ?_⟩
  have entry : accepted.find? uri =
      if isReservedNamespace uri then none
      else (offers.find? (·.namespaceUri = uri)).map Offer.entry :=
    find?_offerAll empty offers uri
  rw [mem_namespaces_iff, entry, ← isReservedNamespace_eq_false]
  cases isReservedNamespace uri with
  | true => simp
  | false =>
      cases found : offers.find? (·.namespaceUri = uri) with
      | none => simpa using found
      | some first =>
          have among := List.mem_of_find?_eq_some found
          have named : first.namespaceUri = uri := by simpa using List.find?_some found
          have offered : uri ∈ offers.map Offer.namespaceUri :=
            List.mem_map.mpr ⟨first, among, named⟩
          simp [offered]

/--
Registration is first come, first served: exactly the namespaces that are offered and not reserved
are taken, each by the first extension offered for it.  A registration that is refused changes
nothing, and the order of registrations for different namespaces is told by no later answer.  What
extensions answer and become is a matter of the calls of their own namespaces, and one that a
document does not mention has no part in compiling it.
-/
theorem offerAll_firstCome (offers : List (Offer σ)) {extensions : Extensions σ}
    (registry : extensions.IsRegistry) :
    let accepted := (empty : Extensions σ).offerAll offers
    accepted.namespaces.Nodup ∧
      (∀ uri,
        (uri ∈ accepted.namespaces ↔
          uri ∉ ["", ownNamespace, hostNamespace] ∧ uri ∈ offers.map Offer.namespaceUri) ∧
        (uri ∈ accepted.namespaces → ∃ first,
          offers.find? (·.namespaceUri = uri) = some first ∧
            accepted.find? uri = some first.entry)) ∧
      (∀ (offered : Offer σ) error,
        (extensions.respond (.register offered)).1 = .refused error →
          (extensions.respond (.register offered)).2 = extensions) ∧
      (∀ offers' : List (Offer σ),
        (∀ uri, offers.filter (·.namespaceUri = uri) = offers'.filter (·.namespaceUri = uri)) →
          (∀ requests, ((extensions.offerAll offers).respondAll requests).1 =
            ((extensions.offerAll offers').respondAll requests).1) ∧
          ∀ (session : Session σ) document,
            ({ session with extensions := extensions.offerAll offers }.compile document).1 =
              ({ session with extensions := extensions.offerAll offers' }.compile document).1) ∧
      (∀ calls uri,
        let performed := extensions.performAll (calls.map Call.step)
        let alone := Call.serveAll (extensions.find? uri) (calls.filter (·.uri = uri))
        Call.outcomesIn uri calls performed.1 = alone.1 ∧ performed.2.find? uri = alone.2) ∧
      ∀ (session : Session σ) (offered : Offer σ) (document : Document),
        ¬ document.Mentions offered.namespaceUri →
          ({ session with extensions := session.extensions.offer offered }.compile document).1 =
            (session.compile document).1 := by
  obtain ⟨distinct, taken⟩ := namespaces_offerAll offers
  refine ⟨distinct, taken, fun offered error refused => respond_register_refused refused,
    fun offers' reordered => ?_, extensions.performAll_calls,
    fun session offered document absent => session.compile_offer offered absent⟩
  have same := SameEntries.of_filter_eq registry reordered
  refine ⟨fun requests => same.respondAll requests, fun session document => ?_⟩
  have agree : AgreeOn (fun _ => True) (extensions.offerAll offers)
      (extensions.offerAll offers') := fun uri _ => same.find?_eq uri
  let left := { session with extensions := extensions.offerAll offers }
  let right := { session with extensions := extensions.offerAll offers' }
  have policies : left.policy = right.policy := rfl
  exact (Session.compile_agree policies agree fun _ _ => trivial).1

/-- Two extensions may be registered in either order around an offer that is refused. -/
theorem offerAll_firstCome_notes :
    let offer (uri : String) : Offer Unit := ⟨{ noteTaker with namespaceUri := uri }, ()⟩
    let offers := [offer "urn:notes", offer "", offer "urn:other"]
    let offers' := [offer "urn:other", offer "urn:notes", offer ""]
    let accepted := (empty : Extensions Unit).offerAll offers
    let document : Document := ⟨notedBundle [], default⟩
    let session : Session Unit := .start {} ((empty : Extensions Unit).offerAll [offer "urn:notes"])
    (empty : Extensions Unit).IsRegistry ∧
      "urn:notes" ∈ accepted.namespaces ∧ "" ∉ accepted.namespaces ∧
      (accepted.respondAll [.size, .render]).1 =
        (((empty : Extensions Unit).offerAll offers').respondAll [.size, .render]).1 ∧
      ¬ document.Mentions "urn:other" ∧
      ({ session with extensions := session.extensions.offer (offer "urn:other") }.compile
          document).1 = (session.compile document).1 := by
  intro offer offers offers' accepted document session
  have registry : (empty : Extensions Unit).IsRegistry := isRegistry_empty
  obtain ⟨-, taken, -, orders, -, apart⟩ := offerAll_firstCome offers registry
  have reordered (uri : String) :
      offers.filter (·.namespaceUri = uri) = offers'.filter (·.namespaceUri = uri) := by
    have named (own : String) : (offer own).namespaceUri = own := rfl
    by_cases other : "urn:other" = uri
    · simp [offers, offers', named, ← other]
    · simp [offers, offers', List.filter_cons, named, other]
  have absent : ¬ document.Mentions "urn:other" := by
    have alone : document.root.inOrder = [notedBundle []] := by
      rw [Element.inOrder_eq]
      rfl
    rw [Document.Mentions, alone]
    simp [notedBundle, bareElement, ownerNote, Name.namespaceUri, hostNamespace]
  refine ⟨registry, (taken "urn:notes").1.mpr ⟨by decide, by decide⟩, ?_,
    (orders offers' reordered).1 _, absent, apart session (offer "urn:other") document absent⟩
  exact fun among => ((taken "").1.mp among).1 (by decide)

end Extensions
end BundleMarkup
