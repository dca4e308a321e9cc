import BundleMarkup.Proofs.Markup.AttributePlaces
import BundleMarkup.Proofs.Markup.WrittenNames

/-!
# Scopes of declarations

Names are resolved as if bindings were handed down from the root: each element extends those that
it is given by its own declarations and hands them to its children, and to nothing else.  A name
whose qualifier is not bound there is an error, and the first one is what is reported.
-/

namespace BundleMarkup

namespace Bindings

/-- The namespace of a binding: one with the empty text gives none. -/
def uriOf (text : String) : Option String := if text = "" then none else some text

/-- The namespace that bindings give to a name by its qualifier, if that is bound. -/
def namespace? (bindings : Bindings) : Bearer → Option String → Option (Option String)
  | .attr, none => some none
  | .element, none => some ((bindings none).bind uriOf)
  | _, some qualifier =>
      if qualifier = "xml" then some (some xmlNamespace)
      else (bindings (some qualifier)).map uriOf

/-- The bindings inside open elements, innermost first. -/
def within : List Opening → Bindings
  | [] => outside
  | innermost :: outer => (within outer).extend innermost.tag.declarations

theorem within_eq (around : List Opening) :
    within around = ofFrames (around.map (·.tag.declarations)) := by
  induction around with
  | nil => rfl
  | cons innermost outer ih => rw [within, ih, extend_ofFrames, List.map_cons]

theorem uriOf_ne_empty (text : String) : uriOf text ≠ some "" := by
  unfold uriOf
  split
  · exact nofun
  · rename_i nonempty
    exact fun same => nonempty (Option.some.inj same)

/-- No namespace that is given is the empty text. -/
theorem ne_empty_of_namespace? {bindings : Bindings} {bearer : Bearer} {qualifier : Option String}
    {uri : Option String} (given : bindings.namespace? bearer qualifier = some uri) :
    uri ≠ some "" := by
  cases qualifier with
  | none =>
      cases bearer with
      | attr =>
          obtain rfl := Option.some.inj given
          exact nofun
      | element =>
          obtain rfl := Option.some.inj given
          intro empty
          obtain ⟨text, _, found⟩ := Option.bind_eq_some_iff.mp empty
          exact uriOf_ne_empty text found
  | some qualifier =>
      simp only [namespace?] at given
      split at given
      · obtain rfl := Option.some.inj given
        decide
      · obtain ⟨text, _, rfl⟩ := Option.map_eq_some_iff.mp given
        exact uriOf_ne_empty text

theorem ite_isEmpty_eq_uriOf (text : String) :
    (if text.isEmpty then .ok none else .ok (some text) : Except String (Option String)) =
      .ok (uriOf text) := by
  by_cases empty : text = "" <;> simp [uriOf, empty]

/-- Searching the declarations of the elements around comes to what the bindings give. -/
theorem resolve_eq (frames : List (List Declaration)) (bearer : Bearer)
    (qualifier : Option String) :
    Binding.resolve frames bearer qualifier =
      match (ofFrames frames).namespace? bearer qualifier with
      | some uri => .ok uri
      | none => .error (qualifier.getD "") := by
  cases qualifier with
  | none =>
      cases bearer with
      | attr => rfl
      | element =>
          cases found : Binding.declaration? frames none with
          | none => simp [Binding.resolve, namespace?, ofFrames, found]
          | some declaration =>
              have ordinary : (none : Option String) ≠ some "xml" := by decide
              rw [resolve_of_declaration? (.inl rfl) ordinary found, ite_isEmpty_eq_uriOf]
              simp [namespace?, ofFrames, found]
  | some qualifier =>
      by_cases reserved : qualifier = "xml"
      · subst reserved
        cases bearer <;> rfl
      · have ordinary : some qualifier ≠ some "xml" := fun same =>
          reserved (Option.some.inj same)
        cases found : Binding.declaration? frames (some qualifier) with
        | none => cases bearer <;> simp [Binding.resolve, namespace?, ofFrames, found, reserved]
        | some declaration =>
            have qualified := Option.some_ne_none qualifier
            rw [resolve_of_declaration? (.inr qualified) ordinary found, ite_isEmpty_eq_uriOf]
            cases bearer <;> simp [namespace?, ofFrames, found, reserved]

theorem resolve_eq_ok {frames : List (List Declaration)} {bearer : Bearer}
    {qualifier uri : Option String} :
    Binding.resolve frames bearer qualifier = .ok uri ↔
      (ofFrames frames).namespace? bearer qualifier = some uri := by
  rw [resolve_eq]
  cases (ofFrames frames).namespace? bearer qualifier <;> simp

theorem resolve_of_unbound {frames : List (List Declaration)} {bearer : Bearer}
    {unbound : String} (none : (ofFrames frames).namespace? bearer (some unbound) = none) :
    Binding.resolve frames bearer (some unbound) = .error unbound := by
  rw [resolve_eq, none]
  rfl

end Bindings

namespace RawAttribute

/--
Attributes are declarations and attributes proper, in order: a declaration is one whose name says
so.  The values of both can be decoded.
-/
inductive AreParted : List RawAttribute → List Declaration → List RawAttribute → Prop
  | nil : AreParted [] [] []
  | declaration {raw : RawAttribute} {declaration : Declaration} {raws proper : List RawAttribute}
      {declarations : List Declaration} (key : raw.key = declaration.key)
      (decodes : Reference.decode raw.value = .ok declaration.uri.toList)
      (others : AreParted raws declarations proper) :
      AreParted (raw :: raws) (declaration :: declarations) proper
  | attr {raw : RawAttribute} {value : List Char} {raws proper : List RawAttribute}
      {declarations : List Declaration}
      (key : ∀ declaration : Declaration, raw.key ≠ declaration.key)
      (decodes : Reference.decode raw.value = .ok value)
      (others : AreParted raws declarations proper) :
      AreParted (raw :: raws) declarations (raw :: proper)

end RawAttribute

namespace TagItem

/-- A name makes a declaration, or the item is an attribute. -/
theorem ofPlace_cases (origin : Origin) (base : Nat) (key : List Char) (value : String)
    (place : AttributePlace) :
    (∃ qualifier, key = Declaration.key ⟨qualifier, value⟩ ∧
      ofPlace origin base key value place = .declaration ⟨qualifier, value⟩) ∨
    ((∀ declaration : Declaration, key ≠ declaration.key) ∧
      ofPlace origin base key value place = .attr
        { qualifier := (Binding.splitName key).1
          localName := (Binding.splitName key).2
          nameSpan := origin.span (base + place.nameStart) (base + place.nameStop)
          value
          valueSpan := origin.span (base + place.valueStart) (base + place.valueStop) }) := by
  have whole : (Name.written ⟨none, (Binding.splitName key).2, (Binding.splitName key).1⟩).toList =
      key := by
    rw [Binding.written_splitName, String.toList_ofList]
  unfold ofPlace
  split
  · rename_i split
    rw [split] at whole
    exact .inl ⟨none, whole.symm, rfl⟩
  · rename_i localName split
    rw [split] at whole
    refine .inl ⟨some localName, ?_, rfl⟩
    rw [← whole]
    simp [Name.written, Declaration.key]
  · rename_i unqualified qualified split
    refine .inr ⟨?_, by rw [split]⟩
    rintro ⟨qualifier, uri⟩ rfl
    rw [Declaration.splitName_key] at split
    cases qualifier with
    | none =>
        obtain ⟨rfl, rfl⟩ := Prod.mk.inj split
        exact unqualified rfl rfl
    | some qualifier =>
        obtain ⟨rfl, rfl⟩ := Prod.mk.inj split
        exact qualified rfl

/-- The declarations among the items of a tag are those written in it. -/
theorem exists_areParted_of_ofAttributes {origin : Origin} {start cursor : Nat}
    {content : List Char} {raws : List RawAttribute} {items : List TagItem}
    (taken : ofAttributes origin start content cursor raws = .ok items) :
    ∃ proper, RawAttribute.AreParted raws (items.filterMap declaration?) proper := by
  induction raws generalizing cursor items with
  | nil =>
      obtain rfl := Except.ok.inj taken
      exact ⟨[], .nil⟩
  | cons raw raws ih =>
      obtain ⟨value, rest, decodes, run, rfl⟩ := ofAttributes_cons_eq_ok.mp taken
      obtain ⟨proper, parted⟩ := ih run
      obtain ⟨qualifier, key, same⟩ | ⟨key, same⟩ := ofPlace_cases origin (start + 1)
        raw.key (String.ofList value) (AttributePlace.find content cursor raw.key)
      · rw [same]
        exact ⟨proper, .declaration key (by rw [decodes, String.toList_ofList]) parted⟩
      · rw [same]
        exact ⟨raw :: proper, .attr key decodes parted⟩

end TagItem

/-- A name in a tag, by what its namespace depends on, and its place. -/
structure Mention where
  bearer : Bearer
  qualifier : Option String
  span : SourceSpan
  deriving DecidableEq, Repr

/-- The name of an attribute, written in the tag at an offset. -/
def RawAttribute.mention (origin : Origin) (start : Nat) (raw : RawAttribute) : Mention :=
  ⟨.attr, (Binding.splitName raw.key).1, origin.span (start + 1 + raw.keyStart)
    (start + 1 + raw.keyStart + Text.byteLength raw.key)⟩

def UnresolvedAttribute.mention (item : UnresolvedAttribute) : Mention :=
  ⟨.attr, item.qualifier, item.nameSpan⟩

/-- The names in a tag in order: its own and those of its attributes proper. -/
def TagContent.mentions (origin : Origin) (start : Nat) (content : List Char)
    (proper : List RawAttribute) : List Mention :=
  ⟨.element, (Binding.splitName (nameOf content)).1,
      origin.span (start + 1) (start + 1 + Text.byteLength (nameOf content))⟩ ::
    proper.map (RawAttribute.mention origin start)

theorem AttributePlace.IsFound.nameStop {content : List Char} {cursor : Nat} {raw : RawAttribute}
    {place : AttributePlace} (isFound : IsFound content cursor raw place) :
    place.nameStop = raw.keyStart + Text.byteLength raw.key := by
  obtain ⟨_, _, _, _, size⟩ := Text.slice?_eq_some_iff.mp isFound.name
  have := isFound.ordered
  have := isFound.start
  omega

/-- The items of a tag are its declarations and the names that are to be resolved. -/
theorem TagItem.exists_of_areParted (origin : Origin) (start : Nat) {content : List Char}
    {raws proper : List RawAttribute} {declarations : List Declaration}
    (parted : RawAttribute.AreParted raws declarations proper) {cursor : Nat}
    (areFound : AttributePlace.AreFound content cursor raws) :
    ∃ items, ofAttributes origin start content cursor raws = .ok items ∧
      items.filterMap declaration? = declarations ∧
      (items.filterMap attribute?).map UnresolvedAttribute.mention =
        proper.map (RawAttribute.mention origin start) := by
  induction parted generalizing cursor with
  | nil => exact ⟨[], rfl, rfl, rfl⟩
  | @declaration raw declaration raws proper declarations key decodes others ih =>
      cases areFound with
      | cons isFound later =>
          obtain ⟨items, taken, declared, named⟩ := ih later
          have item : ofPlace origin (start + 1) raw.key (String.ofList declaration.uri.toList)
              (AttributePlace.find content cursor raw.key) = .declaration declaration :=
            eq_of_reads_declaration ⟨origin, start + 1, _, by rw [key]; rfl⟩
          refine ⟨.declaration declaration :: items, ?_, ?_, named⟩
          · exact ofAttributes_cons_eq_ok.mpr ⟨_, items, decodes, taken, by rw [item]⟩
          · simp [declaration?, declared]
  | @attr raw value raws proper declarations key decodes others ih =>
      cases areFound with
      | cons isFound later =>
          obtain ⟨items, taken, declared, named⟩ := ih later
          obtain ⟨qualifier, same, _⟩ | ⟨_, item⟩ := ofPlace_cases origin (start + 1)
            raw.key (String.ofList value) (AttributePlace.find content cursor raw.key)
          · exact absurd same (key _)
          · have nameStop : _ = raw.keyStart + Text.byteLength raw.key := isFound.nameStop
            refine ⟨ofPlace origin (start + 1) raw.key (String.ofList value)
              (AttributePlace.find content cursor raw.key) :: items, ?_, ?_, ?_⟩
            · exact ofAttributes_cons_eq_ok.mpr ⟨value, items, decodes, taken, rfl⟩
            · rw [item]
              exact declared
            · simp [item, attribute?, UnresolvedAttribute.mention, RawAttribute.mention, named,
                isFound.start, nameStop, Nat.add_assoc]

namespace ElementTag

variable {origin : Origin} {outer : List (List Declaration)} {start : Nat} {content : List Char}
  {declarations : List Declaration} {proper : List RawAttribute}

theorem resolveName_of_unbound {frames : List (List Declaration)} {bearer : Bearer}
    {unbound : String} (none : (Bindings.ofFrames frames).namespace? bearer (some unbound) = none)
    (localName : String) (span : SourceSpan) :
    resolveName frames bearer (some unbound) localName span =
      .error (.unboundQualifier unbound (some span)) := by
  rw [resolveName, Bindings.resolve_of_unbound none]

theorem exists_resolveName_of_bound {frames : List (List Declaration)} {bearer : Bearer}
    {qualifier : Option String}
    (bound : ((Bindings.ofFrames frames).namespace? bearer qualifier).isSome)
    (localName : String) (span : SourceSpan) :
    ∃ name, resolveName frames bearer qualifier localName span = .ok name := by
  obtain ⟨uri, given⟩ := Option.isSome_iff_exists.mp bound
  exact ⟨_, resolveName_eq_ok.mpr ⟨uri, Bindings.resolve_eq_ok.mpr given, rfl⟩⟩

/-- Attributes are resolved up to the first one that cannot be. -/
theorem mapM_resolveAttribute_of_unbound {frames : List (List Declaration)}
    {items : List UnresolvedAttribute} {bound later : List Mention} {unbound : String}
    {span : SourceSpan}
    (mentions : items.map UnresolvedAttribute.mention =
      bound ++ ⟨.attr, some unbound, span⟩ :: later)
    (resolved : ∀ mention ∈ bound,
      ((Bindings.ofFrames frames).namespace? mention.bearer mention.qualifier).isSome)
    (none : (Bindings.ofFrames frames).namespace? .attr (some unbound) = none) :
    items.mapM (resolveAttribute frames) = .error (.unboundQualifier unbound (some span)) := by
  induction bound generalizing items with
  | nil =>
      obtain ⟨item, rest, rfl, first, _⟩ := List.map_eq_cons_iff.mp mentions
      obtain ⟨_, qualifier, rfl⟩ := Mention.mk.inj first
      have fails := resolveName_of_unbound none item.localName item.nameSpan
      rw [List.mapM_cons, resolveAttribute, qualifier, fails]
      rfl
  | cons mention bound ih =>
      obtain ⟨item, rest, rfl, rfl, others⟩ := List.map_eq_cons_iff.mp mentions
      obtain ⟨name, first⟩ := exists_resolveName_of_bound (resolved _ List.mem_cons_self)
        item.localName item.nameSpan
      have run := ih others fun mention among => resolved mention (List.mem_cons_of_mem _ among)
      have first : resolveName frames .attr item.qualifier _ _ = _ := first
      rw [List.mapM_cons, resolveAttribute, first, run]
      rfl

/-- A tag fails at the first of its names whose qualifier is not bound. -/
theorem read_of_unbound (faultless : (TagContent.ofContent content).fault = none)
    (parted : RawAttribute.AreParted (TagContent.ofContent content).attributes declarations proper)
    {bound later : List Mention} {bearer : Bearer} {unbound : String} {span : SourceSpan}
    (mentions : TagContent.mentions origin start content proper =
      bound ++ ⟨bearer, some unbound, span⟩ :: later)
    (resolved : ∀ mention ∈ bound, ((Bindings.ofFrames (declarations :: outer)).namespace?
      mention.bearer mention.qualifier).isSome)
    (none : (Bindings.ofFrames (declarations :: outer)).namespace? bearer (some unbound) = none) :
    read origin outer start content = .error (.unboundQualifier unbound (some span)) := by
  obtain ⟨items, taken, declared, named⟩ := TagItem.exists_of_areParted origin start parted
    (AttributePlace.areFound_of_faultless faultless)
  rw [TagContent.mentions, ← named] at mentions
  have name : (TagContent.ofContent content).name = TagContent.nameOf content := rfl
  simp only [read, bind, Except.bind, name, taken, faultless, declared]
  cases bound with
  | nil =>
      obtain ⟨first, _⟩ := List.cons.inj mentions
      obtain ⟨rfl, qualifier, rfl⟩ := Mention.mk.inj first
      rw [qualifier, resolveName_of_unbound none]
  | cons mention bound =>
      obtain ⟨rfl, others⟩ := List.cons.inj mentions
      obtain ⟨resolvedName, first⟩ := exists_resolveName_of_bound (resolved _ List.mem_cons_self)
        (Binding.splitName (TagContent.nameOf content)).2
        (origin.span (start + 1) (start + 1 + Text.byteLength (TagContent.nameOf content)))
      have attributeBears : bearer = .attr := by
        have among : (⟨bearer, some unbound, span⟩ : Mention) ∈
            (items.filterMap TagItem.attribute?).map UnresolvedAttribute.mention := by
          simp [others]
        obtain ⟨item, _, same⟩ := List.mem_map.mp among
        exact (Mention.mk.inj same).1.symm
      subst attributeBears
      simp only [first, mapM_resolveAttribute_of_unbound others
        (fun mention among => resolved mention (List.mem_cons_of_mem _ among)) none]

end ElementTag

/-- Inside bindings, the names of an element and of all elements in it are in given namespaces. -/
inductive Element.IsScoped : Bindings → Element → Prop
  | intro {bindings : Bindings} {element : Element}
      (name : (bindings.extend element.declarations).namespace? .element element.name.qualifier =
        some element.name.uri)
      (attributes : ∀ attr ∈ element.attributes,
        (bindings.extend element.declarations).namespace? .attr attr.name.qualifier =
          some attr.name.uri)
      (inside : ∀ child ∈ element.childElements,
        IsScoped (bindings.extend element.declarations) child) :
      IsScoped bindings element

/-- What is first wrong with lexemes is a name whose qualifier is not bound at its place. -/
inductive Lexeme.StopAtUnbound (origin : Origin) : List Lexeme → String → SourceSpan → Prop
  | intro {before after : List Lexeme} {events : List Event} {lexeme : Lexeme}
      {content : List Char} {declarations : List Declaration} {proper : List RawAttribute}
      {bound later : List Mention} {bearer : Bearer} {unbound : String} {span : SourceSpan}
      (are : AreEvents origin [] before events)
      (single : (Event.completed origin [] events).length ≤ 1)
      (opens : lexeme.token.elementContent? = some content)
      (faultless : (TagContent.ofContent content).fault = none)
      (parted : RawAttribute.AreParted (TagContent.ofContent content).attributes declarations
        proper)
      (mentions : TagContent.mentions origin lexeme.start content proper =
        bound ++ ⟨bearer, some unbound, span⟩ :: later)
      (resolved : ∀ mention ∈ bound,
        (((Bindings.within (Event.unclosed [] events)).extend declarations).namespace?
          mention.bearer mention.qualifier).isSome)
      (unresolved : ((Bindings.within (Event.unclosed [] events)).extend declarations).namespace?
        bearer (some unbound) = none) :
      StopAtUnbound origin (before ++ lexeme :: after) unbound span

theorem ElementTag.IsRead.namespaces {origin : Origin} {outer : List (List Declaration)}
    {start : Nat} {content : List Char} {items : List TagItem} {tag : ElementTag}
    (isRead : IsRead origin outer start content items tag) :
    (Bindings.ofFrames (tag.declarations :: outer)).namespace? .element tag.name.qualifier =
        some tag.name.uri ∧
      ∀ attr ∈ tag.attributes,
        (Bindings.ofFrames (tag.declarations :: outer)).namespace? .attr attr.name.qualifier =
          some attr.name.uri := by
  constructor
  · obtain ⟨uri, resolves, named⟩ := resolveName_eq_ok.mp isRead.name
    rw [named]
    exact Bindings.resolve_eq_ok.mp resolves
  · have both : List.Forall₂ (fun attr item =>
        (Bindings.ofFrames (tag.declarations :: outer)).namespace? .attr attr.name.qualifier =
          some attr.name.uri ∧ resolveAttribute (tag.declarations :: outer) item = .ok attr)
        tag.attributes (items.filterMap TagItem.attribute?) := by
      refine isRead.attributes.flip.imp fun attr item resolves => ⟨?_, resolves⟩
      obtain ⟨uri, given, rfl⟩ := resolveAttribute_eq_ok.mp resolves
      exact Bindings.resolve_eq_ok.mp given
    exact ((List.forall₂_and_left ..).mp both).1

theorem ElementTag.IsRead.exists_areParted {origin : Origin} {outer : List (List Declaration)}
    {start : Nat} {content : List Char} {items : List TagItem} {tag : ElementTag}
    (isRead : IsRead origin outer start content items tag) :
    ∃ proper, RawAttribute.AreParted (TagContent.ofContent content).attributes tag.declarations
      proper := by
  rw [isRead.declarations]
  exact TagItem.exists_areParted_of_ofAttributes isRead.taken

/-- An element that is read is scoped by the declarations of the elements around. -/
theorem Piece.IsRead.isScoped {origin : Origin} {outer : List (List Declaration)} {piece : Piece}
    (isRead : piece.IsRead origin outer) {element : Element}
    (node : piece.node = some (.element element)) :
    element.IsScoped (Bindings.ofFrames outer) := by
  induction isRead generalizing element with
  | text decodes => cases node
  | characterData => cases node
  | comment => cases node
  | instruction => cases node
  | doctype => cases node
  | emptyTag reads =>
      obtain rfl := Node.element.inj (Option.some.inj node)
      obtain ⟨items, isRead⟩ := ElementTag.exists_items_of_read reads
      obtain ⟨name, attributes⟩ := isRead.namespaces
      rw [← Bindings.extend_ofFrames] at name attributes
      exact .intro name attributes nofun
  | @tags outer content _ _ _ _ _ tag pieces reads inside same ih =>
      obtain rfl := Node.element.inj (Option.some.inj node)
      obtain ⟨items, isRead⟩ := ElementTag.exists_items_of_read reads
      obtain ⟨name, attributes⟩ := isRead.namespaces
      rw [← Bindings.extend_ofFrames] at name attributes
      refine .intro name attributes fun child among => ?_
      have among : child ∈ (pieces.filterMap Piece.node).filterMap Node.element? := by
        rwa [← Children.childElements_ofNodes]
      rw [List.filterMap_filterMap] at among
      obtain ⟨piece, member, found⟩ := mem_filterMap_element?.mp among
      have isScoped := ih piece member found
      rwa [← Bindings.extend_ofFrames] at isScoped

/-- An element is read from a tag at its start. -/
theorem Piece.IsRead.exists_tag {origin : Origin} {outer : List (List Declaration)}
    {part : List Lexeme} {element : Element}
    (isRead : IsRead origin outer ⟨part, some (.element element)⟩) :
    ∃ lexeme ∈ part, ∃ content, lexeme.start = element.span.start ∧
      lexeme.token.elementContent? = some content ∧
        ElementTag.read origin outer lexeme.start content = .ok element.tag := by
  cases isRead with
  | emptyTag reads =>
      exact ⟨_, List.mem_cons_self, _, (Origin.start_span ..).symm, rfl, reads⟩
  | tags reads inside same =>
      exact ⟨_, List.mem_cons_self, _, (Origin.start_span ..).symm, rfl, reads⟩

/-- In a scoped element every element and every attribute has a namespace or none. -/
theorem Element.IsScoped.ne_empty {bindings : Bindings} {root element : Element}
    (isScoped : root.IsScoped bindings) (within : root.Within element) :
    element.name.uri ≠ some "" ∧ ∀ attr ∈ element.attributes, attr.name.uri ≠ some "" := by
  have inside : ∃ around, element.IsScoped around := by
    induction within with
    | self => exact ⟨bindings, isScoped⟩
    | child _ among ih =>
        obtain ⟨around, name, attributes, inside⟩ := ih
        exact ⟨_, inside _ among⟩
  obtain ⟨around, name, attributes, _⟩ := inside
  exact ⟨Bindings.ne_empty_of_namespace? name,
    fun attr among => Bindings.ne_empty_of_namespace? (attributes attr among)⟩

namespace Construction

/-- A tag with a name whose qualifier is not bound ends a construction. -/
theorem step_of_unbound {origin : Origin} {state : Construction} {lexeme : Lexeme}
    {content : List Char} (opens : lexeme.token.elementContent? = some content)
    {error : MarkupError}
    (fails : ElementTag.read origin state.frames lexeme.start content = .error error) :
    step origin state lexeme = .error error := by
  obtain ⟨token, start, stop⟩ := lexeme
  cases token <;> cases opens
  all_goals
    simp only [step, fails]
    rfl

theorem foldlM_step_of_stopAtUnbound {origin : Origin} {lexemes : List Lexeme} {unbound : String}
    {span : SourceSpan} (stops : Lexeme.StopAtUnbound origin lexemes unbound span) :
    lexemes.foldlM (step origin) .initial = .error (.unboundQualifier unbound (some span)) := by
  obtain @⟨_, _, events, _, _, _, _, _, _, _, _, _, are, single, opens, faultless, parted,
    mentions, resolved, unresolved⟩ := stops
  refine foldlM_step_of_fails are single fun state around => ?_
  have frames : state.frames = (Event.unclosed [] events).map (·.tag.declarations) := by
    rw [frames_eq, around]
  rw [Bindings.within_eq, ← frames, Bindings.extend_ofFrames] at resolved unresolved
  exact step_of_unbound opens
    (ElementTag.read_of_unbound faultless parted mentions resolved unresolved)

end Construction

namespace Document

variable (file : FileId) (input : List Char)

/--
The names of a document that is read are in the namespaces that the declarations around give them,
which are those written in the tags; and a text in which the first thing wrong is a name whose
qualifier is not bound there is refused for that qualifier.
-/
theorem read_isScoped :
    (∀ document, read file input = .ok document →
      document.root.IsScoped .outside ∧
        ∀ element, document.root.Within element →
          (element.name.uri ≠ some "" ∧ ∀ attr ∈ element.attributes, attr.name.uri ≠ some "") ∧
          ∃ lexeme ∈ (Scan.ofText input).lexemes, ∃ content proper,
            lexeme.start = element.span.start ∧ lexeme.token.elementContent? = some content ∧
              RawAttribute.AreParted (TagContent.ofContent content).attributes
                element.declarations proper) ∧
    ∀ unbound span,
      Lexeme.StopAtUnbound ⟨file, .ofText input⟩ (Scan.ofText input).lexemes unbound span →
        read file input = .error (.unboundQualifier unbound (some span)) := by
  constructor
  · intro document reads
    obtain ⟨pieces, _, outside, only⟩ := exists_pieces_of_read reads
    have isScoped : document.root.IsScoped .outside := by
      have among : document.root ∈ pieces.filterMap Piece.element? := by simp [only]
      obtain ⟨piece, member, node⟩ := Piece.mem_filterMap_element?.mp among
      exact (outside piece member).isScoped node
    refine ⟨isScoped, fun element within => ⟨isScoped.ne_empty within, ?_⟩⟩
    obtain ⟨frames, before, part, after, lexemes, isRead⟩ := exists_stretch_of_within reads within
    obtain ⟨lexeme, among, content, start, opens, tag⟩ := isRead.exists_tag
    obtain ⟨items, tagIsRead⟩ := ElementTag.exists_items_of_read tag
    obtain ⟨proper, parted⟩ := tagIsRead.exists_areParted
    exact ⟨lexeme, by simp [lexemes, among], content, proper, start, opens, parted⟩
  · intro unbound span stops
    rw [read, rootOfScan, Construction.foldlM_step_of_stopAtUnbound stops]
    rfl

/-- A declaration does not reach the elements beside its own. -/
theorem read_isScoped_beside :
    let taken := "<x:a xmlns:x='urn:1' y='' x:y=''><b xmlns:x='urn:2'/><x:c x:y=''/></x:a>".toList
    let refused := "<a><b xmlns:x='urn:2'/><x:c/></a>".toList
    let origin : Origin := ⟨default, .ofText refused⟩
    (∃ document, read default taken = .ok document ∧
      document.root.attributes.map (·.name.uri) = [none, some "urn:1"] ∧
      document.root.childElements.map (·.name.uri) = [none, some "urn:1"] ∧
      document.root.IsScoped .outside) ∧
    Lexeme.StopAtUnbound origin (Scan.ofText refused).lexemes "x" (origin.span 24 27) ∧
      read default refused = .error (.unboundQualifier "x" (some (origin.span 24 27))) := by
  intro taken refused origin
  constructor
  · have facts : (read default taken).toOption.map (fun document =>
        (document.root.attributes.map (·.name.uri),
          document.root.childElements.map (·.name.uri))) =
          some ([none, some "urn:1"], [none, some "urn:1"]) := by
      decide +kernel
    obtain ⟨document, reads, seen⟩ := exists_of_map_read facts
    obtain ⟨attributes, children⟩ := Prod.mk.inj seen
    exact ⟨document, reads, attributes, children,
      ((read_isScoped default taken).1 document reads).1⟩
  · let field := "b xmlns:x='urn:2'".toList
    have lexemes : (Scan.ofText refused).lexemes =
        [⟨.startTag ['a'], 0, 3⟩, ⟨.emptyTag field, 3, 23⟩] ++
          ⟨.emptyTag ['x', ':', 'c'], 23, 29⟩ :: [⟨.endTag ['a'], 29, 33⟩] := by
      decide +kernel
    have bare := @ElementTag.read_bare origin [] 0 ['a'] (List.all_eq_true.mp rfl) (by decide) rfl
    obtain ⟨tag, reads⟩ : ∃ tag, ElementTag.read origin [[]] 3 field = .ok tag := by
      have facts : (ElementTag.read origin [[]] 3 field).toOption.isSome := by decide +kernel
      cases reads : ElementTag.read origin [[]] 3 field with
      | error error =>
          rw [reads] at facts
          cases facts
      | ok tag => exact ⟨tag, rfl⟩
    have parted : RawAttribute.AreParted (TagContent.ofContent ['x', ':', 'c']).attributes
        [] [] := by
      rw [show (TagContent.ofContent ['x', ':', 'c']).attributes = [] by decide +kernel]
      exact .nil
    have mentions : TagContent.mentions origin 23 ['x', ':', 'c'] [] =
        [] ++ ⟨.element, some "x", origin.span 24 27⟩ :: [] := by
      decide +kernel
    have stops : Lexeme.StopAtUnbound origin (Scan.ofText refused).lexemes "x"
        (origin.span 24 27) := by
      rw [lexemes]
      exact .intro (.cons (.startTag bare) (.cons (.emptyTag reads) (.nil _)))
        (Nat.zero_le 1) rfl (by decide +kernel) parted mentions (List.forall_mem_nil _) rfl
    exact ⟨stops, (read_isScoped default refused).2 _ _ stops⟩

end Document
end BundleMarkup
