import BundleMarkup.Markup.Document
import Mathlib.Data.List.Forall2

/-!
# Reading tags

What a tag that can be read comes to, part by part: its attributes have no mistake, they are its
declarations and its attributes proper, and every name in it is resolved among its own declarations
and those of the elements around.
-/

namespace BundleMarkup

/-- A list is gone through without an error if every one of its members gives a result. -/
theorem forall₂_of_mapM_eq_ok {α β ε : Type} {act : α → Except ε β} {list : List α}
    {results : List β} (run : list.mapM act = .ok results) :
    List.Forall₂ (fun member result => act member = .ok result) list results := by
  induction list generalizing results with
  | nil =>
      obtain rfl := Except.ok.inj run
      exact .nil
  | cons member rest ih =>
      rw [List.mapM_cons] at run
      cases first : act member with
      | error fault =>
          rw [first] at run
          cases run
      | ok result =>
          cases later : rest.mapM act with
          | error fault =>
              rw [first, later] at run
              cases run
          | ok others =>
              rw [first, later] at run
              obtain rfl := Except.ok.inj run
              exact .cons first (ih later)

/-- A name is written as what it was taken apart from. -/
theorem Binding.written_splitName (uri : Option String) (written : List Char) :
    Name.written ⟨uri, (splitName written).2, (splitName written).1⟩ =
      String.ofList written := by
  have whole := List.takeWhile_append_dropWhile (p := (· ≠ ':')) (l := written)
  unfold splitName
  split
  · rfl
  · rename_i mark localName found
    obtain rfl : mark = ':' := by simpa using Text.not_accepts_of_dropWhile found
    rw [found] at whole
    apply String.toList_inj.mp
    simp only [Name.written, String.toList_append, String.toList_ofList]
    simpa using whole

/-- The first attribute of a tag makes an item if its value can be decoded. -/
theorem TagItem.ofAttributes_cons_eq_ok {origin : Origin} {start cursor : Nat}
    {content : List Char} {raw : RawAttribute} {rest : List RawAttribute} {items : List TagItem} :
    ofAttributes origin start content cursor (raw :: rest) = .ok items ↔
      ∃ value later, Reference.decode raw.value = .ok value ∧
        ofAttributes origin start content (AttributePlace.find content cursor raw.key).valueStop
          rest = .ok later ∧
        items = ofPlace origin (start + 1) raw.key (String.ofList value)
          (AttributePlace.find content cursor raw.key) :: later := by
  simp only [ofAttributes, bind, Except.bind, pure, Except.pure]
  cases Reference.decode raw.value with
  | error fault => simp
  | ok value =>
      cases ofAttributes origin start content
          (AttributePlace.find content cursor raw.key).valueStop rest with
      | error error => simp
      | ok later => simp [eq_comm]

namespace ElementTag

theorem resolveName_eq_ok {frames : List (List Declaration)} {bearer : Bearer}
    {qualifier : Option String} {localName : String} {span : SourceSpan} {name : Name} :
    resolveName frames bearer qualifier localName span = .ok name ↔
      ∃ uri, Binding.resolve frames bearer qualifier = .ok uri ∧
        name = ⟨uri, localName, qualifier⟩ := by
  unfold resolveName
  cases Binding.resolve frames bearer qualifier with
  | ok uri => simp [eq_comm]
  | error unbound => simp

theorem resolveAttribute_eq_ok {frames : List (List Declaration)} {item : UnresolvedAttribute}
    {attr : Attribute} :
    resolveAttribute frames item = .ok attr ↔
      ∃ uri, Binding.resolve frames .attr item.qualifier = .ok uri ∧
        attr = ⟨⟨uri, item.localName, item.qualifier⟩, item.nameSpan, item.value,
          item.valueSpan⟩ := by
  unfold resolveAttribute resolveName
  cases Binding.resolve frames .attr item.qualifier with
  | ok uri => simp [bind, Except.bind, pure, Except.pure, eq_comm]
  | error unbound => simp [bind, Except.bind]

/-- A tag is read from the inside at an offset, whose attributes are the given items. -/
structure IsRead (origin : Origin) (outer : List (List Declaration)) (start : Nat)
    (content : List Char) (items : List TagItem) (tag : ElementTag) : Prop where
  /-- No attribute has a mistake. -/
  faultless : (TagContent.ofContent content).fault = none
  /-- The attributes are the items. -/
  taken : TagItem.ofAttributes origin start content
    (Text.byteLength (TagContent.nameOf content)) (TagContent.ofContent content).attributes =
      .ok items
  declarations : tag.declarations = items.filterMap TagItem.declaration?
  /-- The name is at the start of the inside. -/
  nameSpan : tag.nameSpan =
    origin.span (start + 1) (start + 1 + Text.byteLength (TagContent.nameOf content))
  /-- The name is resolved. -/
  name : resolveName (tag.declarations :: outer) .element
    (Binding.splitName (TagContent.nameOf content)).1
    (Binding.splitName (TagContent.nameOf content)).2 tag.nameSpan = .ok tag.name
  /-- The names of the attributes are resolved. -/
  attributes : List.Forall₂
    (fun item attr => resolveAttribute (tag.declarations :: outer) item = .ok attr)
    (items.filterMap TagItem.attribute?) tag.attributes

theorem exists_items_of_read {origin : Origin} {outer : List (List Declaration)} {start : Nat}
    {content : List Char} {tag : ElementTag} (reads : read origin outer start content = .ok tag) :
    ∃ items, IsRead origin outer start content items tag := by
  simp only [read, bind, Except.bind] at reads
  split at reads
  · cases reads
  · rename_i items found
    split at reads
    · cases reads
    · rename_i faultless
      split at reads
      · cases reads
      · rename_i name resolves
        split at reads
        · cases reads
        · rename_i attributes run
          obtain rfl := Except.ok.inj reads
          exact ⟨items, faultless, found, rfl, rfl, resolves, forall₂_of_mapM_eq_ok run⟩

end ElementTag
end BundleMarkup
