import BundleMarkup.Proofs.Markup.WrittenTag

/-!
# Written names

Written names are taken apart again at their colons and resolved among the declarations of the
elements around, so that reading the inside of a written start tag gives its name, its declarations
and its attributes.
-/

namespace BundleMarkup

namespace Name

theorem colon_not_mem_of_isPlain {text : List Char} (plain : isPlain text = true) :
    ':' ∉ text := by
  intro among
  cases text with
  | nil => cases among
  | cons first rest =>
      simp only [isPlain, Bool.and_eq_true, List.all_eq_true] at plain
      obtain ⟨letter, later⟩ := plain
      cases among with
      | head => exact absurd letter (by decide)
      | tail _ inside => exact absurd (later ':' inside) (by decide)

/-- A written name is taken apart into what it was made from. -/
theorem splitName_written {name : Name} (localName : isPlain name.localName.toList = true)
    (qualifier : isFreeQualifier name.qualifier = true) :
    Binding.splitName name.written.toList = (name.qualifier, name.localName) := by
  obtain ⟨uri, text, found⟩ := name
  cases found with
  | none =>
      have split := Binding.splitName_of_not_mem (colon_not_mem_of_isPlain localName)
      rwa [String.ofList_toList] at split
  | some before =>
      obtain ⟨plain, _⟩ := of_isFreeQualifier qualifier
      have split := Binding.splitName_append (colon_not_mem_of_isPlain plain) text.toList
      rw [String.ofList_toList, String.ofList_toList] at split
      rw [← split, written]
      simp

end Name

theorem Declaration.splitName_key (declaration : Declaration) :
    Binding.splitName declaration.key =
      match declaration.qualifier with
      | none => (none, "xmlns")
      | some qualifier => (some "xmlns", qualifier) := by
  unfold key
  cases declaration.qualifier with
  | none => rfl
  | some qualifier =>
      have keyword : ':' ∉ ['x', 'm', 'l', 'n', 's'] := by decide
      have split := Binding.splitName_append keyword qualifier.toList
      rwa [String.ofList_toList] at split

namespace Bindings

/-- The bindings inside elements that make declarations, innermost first. -/
def ofFrames (frames : List (List Declaration)) : Bindings :=
  fun qualifier => (Binding.declaration? frames qualifier).map Declaration.uri

/-- Declarations extend the bindings of the elements around. -/
theorem extend_ofFrames (outer : List (List Declaration)) (declarations : List Declaration) :
    (ofFrames outer).extend declarations = ofFrames (declarations :: outer) := by
  induction declarations using List.reverseRecOn with
  | nil => rfl
  | append_singleton front last ih =>
      rw [extend] at ih ⊢
      rw [List.foldl_append, ih]
      funext qualifier
      by_cases same : qualifier = last.qualifier
      · simp [declare, ofFrames, Binding.declaration?, same]
      · simp [declare, ofFrames, Binding.declaration?, same, Ne.symm same]

theorem resolve_of_declaration? {frames : List (List Declaration)} {bearer : Bearer}
    {qualifier : Option String} {declaration : Declaration}
    (asked : bearer = .element ∨ qualifier ≠ none) (ordinary : qualifier ≠ some "xml")
    (found : Binding.declaration? frames qualifier = some declaration) :
    Binding.resolve frames bearer qualifier =
      if declaration.uri.isEmpty then .ok none else .ok (some declaration.uri) := by
  have bears : (qualifier.isNone && decide (bearer = .attr)) = false := by
    cases asked with
    | inl element => simp [element]
    | inr qualified =>
        simp [Option.isNone_eq_false_iff.mpr (Option.isSome_iff_ne_none.mpr qualified)]
  simp only [Binding.resolve, bears, ordinary, found, if_false, Bool.false_eq_true]

/-- A qualifier is resolved to the namespace that the bindings give. -/
theorem resolve_of_gives {frames : List (List Declaration)} {bearer : Bearer} {name : Name}
    (given : (ofFrames frames).Gives bearer name)
    (free : Name.isFreeQualifier name.qualifier = true) :
    Binding.resolve frames bearer name.qualifier = .ok name.uri := by
  have ordinary : name.qualifier ≠ some "xml" := by
    intro reserved
    rw [reserved] at free
    exact absurd free (by decide)
  cases given with
  | unqualified localName => rfl
  | noDefault localName unbound =>
      have none : Binding.declaration? frames none = none := Option.map_eq_none_iff.mp unbound
      simp [Binding.resolve, none]
  | bound localName asked binds nonempty =>
      obtain ⟨declaration, found, rfl⟩ := Option.map_eq_some_iff.mp binds
      rw [resolve_of_declaration? asked ordinary found]
      simp [nonempty]
  | unset localName asked binds =>
      obtain ⟨declaration, found, empty⟩ := Option.map_eq_some_iff.mp binds
      rw [resolve_of_declaration? asked ordinary found]
      simp [empty]

end Bindings

/-- The key of an attribute is taken apart into its name, which is not that of a declaration. -/
structure Attribute.IsApart (attr : Attribute) : Prop where
  /-- The key is taken apart. -/
  split : Binding.splitName attr.field.key = (attr.name.qualifier, attr.name.localName)
  /-- It does not declare the default namespace. -/
  unqualified : (attr.name.qualifier, attr.name.localName) ≠ (none, "xmlns")
  /-- It does not declare a qualifier. -/
  qualified : attr.name.qualifier ≠ some "xmlns"

namespace TagContent.IsWritable

variable {bindings : Bindings} {name : Name} {declarations : List Declaration}
  {attributes : List Attribute}

theorem isKey_name (writable : IsWritable bindings name declarations attributes) :
    Name.IsKey name.written.toList :=
  Name.isKey_written writable.name.localName writable.name.qualifier

theorem isKey_fields (writable : IsWritable bindings name declarations attributes) :
    ∀ field ∈ declarations.map Declaration.field ++ attributes.map Attribute.field,
      Name.IsKey field.key := by
  intro field among
  cases List.mem_append.mp among with
  | inl declared =>
      obtain ⟨declaration, inside, rfl⟩ := List.mem_map.mp declared
      exact Declaration.isKey_key (writable.declared declaration inside)
  | inr named =>
      obtain ⟨attr, inside, rfl⟩ := List.mem_map.mp named
      have own := writable.named attr inside
      exact Name.isKey_written own.localName own.qualifier

theorem isApart (writable : IsWritable bindings name declarations attributes)
    {attr : Attribute} (among : attr ∈ attributes) : attr.IsApart := by
  have own := writable.named attr among
  refine ⟨Name.splitName_written own.localName own.qualifier, ?_, ?_⟩
  · intro keyword
    obtain ⟨unqualified, same⟩ := Prod.mk.inj keyword
    have written : attr.name.written = "xmlns" := by simp [Name.written, unqualified, same]
    exact writable.undeclared attr among written
  · intro keyword
    have free := own.qualifier
    rw [keyword] at free
    exact absurd free (by decide)

/-- No key is written twice, neither for the same nor for different purposes. -/
theorem nodup_keys (writable : IsWritable bindings name declarations attributes) :
    ((declarations.map Declaration.field ++ attributes.map Attribute.field).map
      Field.key).Nodup := by
  have declared : (declarations.map Declaration.key).Nodup := by
    have injective : ∀ {one other : Declaration}, one.key = other.key →
        one.qualifier = other.qualifier := by
      intro one other same
      have split := congrArg Binding.splitName same
      rw [Declaration.splitName_key, Declaration.splitName_key] at split
      cases found : one.qualifier <;> cases found' : other.qualifier <;> simp_all
    have once := writable.declaredOnce
    rw [List.Nodup, List.pairwise_map] at once ⊢
    exact once.imp fun different same => different (injective same)
  have named : (attributes.map fun attr => attr.name.written.toList).Nodup := by
    have once := writable.namedOnce
    rw [List.Nodup, List.pairwise_map] at once ⊢
    exact once.imp fun different same => different (String.toList_inj.mp same)
  rw [List.map_append, List.map_map, List.map_map]
  refine List.nodup_append.mpr ⟨declared, named, ?_⟩
  rintro key isDeclared _ isNamed rfl
  obtain ⟨declaration, _, rfl⟩ := List.mem_map.mp isDeclared
  obtain ⟨attr, inside, same⟩ := List.mem_map.mp isNamed
  obtain ⟨split, unqualified, qualified⟩ := writable.isApart inside
  have both : Binding.splitName declaration.key = (attr.name.qualifier, attr.name.localName) :=
    (congrArg Binding.splitName same).symm.trans split
  rw [Declaration.splitName_key] at both
  cases found : declaration.qualifier with
  | none =>
      rw [found] at both
      exact unqualified both.symm
  | some qualifier =>
      rw [found] at both
      exact qualified (congrArg Prod.fst both).symm

end TagContent.IsWritable

namespace TagItem

/-- An item is what a field is read as, at whatever places. -/
def Reads (field : Field) (item : TagItem) : Prop :=
  ∃ origin base place, item = ofPlace origin base field.key (String.ofList field.value) place

/-- An attribute before its name is resolved, at whatever places. -/
structure Names (attr : Attribute) (item : UnresolvedAttribute) : Prop where
  qualifier : item.qualifier = attr.name.qualifier
  localName : item.localName = attr.name.localName
  value : item.value = attr.value

/-- The values of attributes that write fields are decoded. -/
theorem ofAttributes_of_writes (origin : Origin) (start : Nat) (content : List Char)
    (cursor : Nat) {fields : List Field} {attributes : List RawAttribute}
    (writes : List.Forall₂ RawAttribute.Writes fields attributes) :
    ∃ items, List.Forall₂ Reads fields items ∧
      ofAttributes origin start content cursor attributes = .ok items := by
  induction writes generalizing cursor with
  | nil => exact ⟨[], .nil, rfl⟩
  | @cons field raw fields attributes first later ih =>
      have decoded : Reference.decode raw.value = .ok field.value := by
        rw [first.value]
        exact Reference.decode_escape field.value
      let place := AttributePlace.find content cursor raw.key
      obtain ⟨items, reads, rest⟩ := ih place.valueStop
      refine ⟨ofPlace origin (start + 1) raw.key (String.ofList field.value) place :: items,
        .cons ⟨origin, start + 1, place, by rw [first.key]⟩ reads, ?_⟩
      simp only [ofAttributes, decoded, place, rest]
      rfl

theorem eq_of_reads_declaration {declaration : Declaration} {item : TagItem}
    (reads : Reads declaration.field item) : item = .declaration declaration := by
  obtain ⟨origin, base, place, rfl⟩ := reads
  obtain ⟨qualifier, uri⟩ := declaration
  have split := Declaration.splitName_key ⟨qualifier, uri⟩
  cases qualifier with
  | none => simp only [ofPlace, Declaration.field, split, String.ofList_toList]
  | some qualifier => simp only [ofPlace, Declaration.field, split, String.ofList_toList]

theorem eq_of_reads_attribute {attr : Attribute} {item : TagItem} (apart : attr.IsApart)
    (reads : Reads attr.field item) :
    ∃ unresolved, item = .attr unresolved ∧ Names attr unresolved := by
  obtain ⟨origin, base, place, rfl⟩ := reads
  unfold ofPlace
  rw [apart.split]
  split
  · rename_i keyword
    exact absurd keyword apart.unqualified
  · rename_i keyword
    exact absurd (congrArg Prod.fst keyword) apart.qualified
  · rename_i same
    obtain ⟨rfl, rfl⟩ := Prod.mk.inj same
    exact ⟨_, rfl, rfl, rfl, String.ofList_toList⟩

theorem filterMap_of_reads_attributes {attributes : List Attribute} {items : List TagItem}
    (apart : ∀ attr ∈ attributes, attr.IsApart)
    (reads : List.Forall₂ Reads (attributes.map Attribute.field) items) :
    items.filterMap declaration? = [] ∧
      List.Forall₂ Names attributes (items.filterMap attribute?) := by
  induction attributes generalizing items with
  | nil =>
      cases reads
      exact ⟨rfl, .nil⟩
  | cons attr attributes ih =>
      obtain - | ⟨first, later⟩ := reads
      obtain ⟨unresolved, rfl, names⟩ := eq_of_reads_attribute (apart attr List.mem_cons_self) first
      obtain ⟨none, rest⟩ := ih (fun attr among => apart attr (List.mem_cons_of_mem _ among)) later
      exact ⟨none, .cons names rest⟩

/-- The fields of a start tag are read as its declarations and its attributes. -/
theorem filterMap_of_reads {declarations : List Declaration} {attributes : List Attribute}
    {items : List TagItem} (apart : ∀ attr ∈ attributes, attr.IsApart)
    (reads : List.Forall₂ Reads
      (declarations.map Declaration.field ++ attributes.map Attribute.field) items) :
    items.filterMap declaration? = declarations ∧
      List.Forall₂ Names attributes (items.filterMap attribute?) := by
  induction declarations generalizing items with
  | nil => exact filterMap_of_reads_attributes apart reads
  | cons declaration declarations ih =>
      obtain - | ⟨first, later⟩ := reads
      obtain rfl := eq_of_reads_declaration first
      obtain ⟨declared, named⟩ := ih later
      exact ⟨congrArg (declaration :: ·) declared, named⟩

end TagItem

namespace ElementTag

/-- Attributes whose names are given by the bindings are resolved, up to their places. -/
theorem mapM_resolveAttribute {frames : List (List Declaration)} {attributes : List Attribute}
    {items : List UnresolvedAttribute}
    (named : ∀ attr ∈ attributes, attr.name.IsWritable (.ofFrames frames) .attr)
    (names : List.Forall₂ TagItem.Names attributes items) :
    ∃ resolved, items.mapM (resolveAttribute frames) = .ok resolved ∧
      resolved.map Attribute.withoutPlaces = attributes.map Attribute.withoutPlaces := by
  induction names with
  | nil => exact ⟨[], rfl, rfl⟩
  | @cons attr item attributes items first later ih =>
      obtain ⟨rest, resolves, same⟩ :=
        ih fun attr among => named attr (List.mem_cons_of_mem _ among)
      have own := named attr List.mem_cons_self
      have uri := Bindings.resolve_of_gives own.given own.qualifier
      refine ⟨⟨attr.name, item.nameSpan, attr.value, item.valueSpan⟩ :: rest, ?_, ?_⟩
      · have resolved : resolveAttribute frames item =
            .ok ⟨attr.name, item.nameSpan, attr.value, item.valueSpan⟩ := by
          simp only [resolveAttribute, resolveName, first.qualifier, first.localName, first.value,
            uri]
          rfl
        rw [List.mapM_cons, resolved, resolves]
        rfl
      · rw [List.map_cons, same]
        rfl

/-- Reading the inside of a written start tag gives the tag, up to places. -/
theorem read_write (origin : Origin) {outer : List (List Declaration)} (start : Nat) {name : Name}
    {declarations : List Declaration} {attributes : List Attribute}
    (writable : TagContent.IsWritable (.ofFrames outer) name declarations attributes) :
    ∃ tag, read origin outer start (TagContent.write name declarations attributes) = .ok tag ∧
      tag.name = name ∧ tag.declarations = declarations ∧
      tag.attributes.map Attribute.withoutPlaces = attributes.map Attribute.withoutPlaces := by
  have nameWritable := writable.name
  have named := writable.named
  rw [Bindings.extend_ofFrames] at nameWritable named
  obtain ⟨raw, writes, content⟩ := TagContent.ofContent_write writable.isKey_name
    writable.isKey_fields writable.nodup_keys
  obtain ⟨items, reads, decodes⟩ := TagItem.ofAttributes_of_writes origin start
    (TagContent.write name declarations attributes) (Text.byteLength name.written.toList) writes
  obtain ⟨declared, names⟩ := TagItem.filterMap_of_reads (fun _ => writable.isApart) reads
  obtain ⟨resolved, resolves, same⟩ := mapM_resolveAttribute named names
  have split := Name.splitName_written nameWritable.localName nameWritable.qualifier
  have uri := Bindings.resolve_of_gives nameWritable.given nameWritable.qualifier
  have inside : TagContent.ofContent (TagContent.write name declarations attributes) =
      ⟨name.written.toList, raw, none⟩ := content
  simp only [read, inside, decodes, bind, Except.bind, declared, resolveName, split, uri, resolves]
  exact ⟨_, rfl, rfl, rfl, same⟩

end ElementTag
end BundleMarkup
