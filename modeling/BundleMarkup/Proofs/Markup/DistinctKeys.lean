import BundleMarkup.Proofs.Markup.AttributePlaces
import Mathlib.Data.List.Nodup

/-!
# Keys of attributes

A tag whose attributes have no mistake has no two that are written alike, so the attributes of an
element of a document are told apart by their written names.  Names that are written differently may
still stand for the same: that is a matter of what their qualifiers are bound to.
-/

namespace BundleMarkup

namespace RawAttribute

/-- An attribute that is taken is written unlike those seen before it. -/
theorem key_notMem_of_take {position stop : Nat} {seen : List RawAttribute} {first : Char}
    {others rest : List Char} {raw : RawAttribute}
    (taken : take position seen first others = .ok (raw, stop, rest)) :
    raw.key ∉ seen.map key := by
  simp only [take, bind, Except.bind] at taken
  split at taken
  · cases taken
  · split at taken
    · cases taken
    · rename_i unseen
      split at taken
      · cases taken
      · simp only [pure, Except.pure, Except.ok.injEq, Prod.mk.injEq] at taken
        obtain ⟨rfl, _, _⟩ := taken
        intro among
        obtain ⟨other, member, same⟩ := List.mem_map.mp among
        exact List.find?_eq_none.mp unseen other member (beq_iff_eq.mpr same)

/-- Attributes read after others that are told apart by their keys are told apart with them. -/
theorem nodup_keys_of_readFrom {position : Nat} {seen raws : List RawAttribute}
    {input : List Char} {fault : Option AttributeFault}
    (reads : readFrom position seen input = (raws, fault)) (apart : (seen.map key).Nodup) :
    ((seen ++ raws).map key).Nodup := by
  fun_induction readFrom position seen input generalizing raws fault with
  | case1 position seen input ended =>
      obtain ⟨rfl, _⟩ := Prod.mk.inj reads
      rwa [List.append_nil]
  | case2 position seen input first others found failure failed =>
      obtain ⟨rfl, _⟩ := Prod.mk.inj reads
      rwa [List.append_nil]
  | case3 position seen input first others found raw stop rest taken later failure recursion ih =>
      obtain ⟨rfl, rfl⟩ := Prod.mk.inj reads
      have further : ((seen ++ [raw]).map key).Nodup := by
        rw [List.map_append, List.map_singleton, List.nodup_middle, List.append_nil]
        exact List.nodup_cons.mpr ⟨key_notMem_of_take taken, apart⟩
      rw [List.append_cons]
      exact ih recursion further

end RawAttribute

theorem TagContent.nodup_keys (content : List Char) :
    ((ofContent content).attributes.map RawAttribute.key).Nodup := by
  have whole := RawAttribute.nodup_keys_of_readFrom
    (Prod.eta (RawAttribute.readFrom (Text.byteLength (nameOf content)) []
      (content.dropWhile isName))).symm List.nodup_nil
  rwa [List.nil_append] at whole

/-- The name of an attribute as it is written. -/
def UnresolvedAttribute.written (item : UnresolvedAttribute) : String :=
  Name.written ⟨none, item.localName, item.qualifier⟩

/-- The attributes proper of a tag are written as some of those that were read, in order. -/
theorem TagItem.sublist_of_ofAttributes {origin : Origin} {start cursor : Nat}
    {content : List Char} {raws : List RawAttribute} {items : List TagItem}
    (taken : ofAttributes origin start content cursor raws = .ok items) :
    ((items.filterMap attribute?).map UnresolvedAttribute.written).Sublist
      (raws.map fun raw => String.ofList raw.key) := by
  induction raws generalizing cursor items with
  | nil =>
      obtain rfl := Except.ok.inj taken
      exact .slnil
  | cons raw raws ih =>
      obtain ⟨value, later, _, run, rfl⟩ := ofAttributes_cons_eq_ok.mp taken
      rw [List.filterMap_cons, List.map_cons]
      split
      · exact (ih run).cons _
      · rename_i item found
        obtain rfl := eq_of_attribute?_ofPlace found
        rw [List.map_cons, UnresolvedAttribute.written, Binding.written_splitName]
        exact (ih run).cons_cons _

theorem ElementTag.nodup_written_of_read {origin : Origin} {outer : List (List Declaration)}
    {start : Nat} {content : List Char} {tag : ElementTag}
    (reads : read origin outer start content = .ok tag) :
    (tag.attributes.map (·.name.written)).Nodup := by
  obtain ⟨items, isRead⟩ := exists_items_of_read reads
  have keys : ((TagContent.ofContent content).attributes.map fun raw =>
      String.ofList raw.key).Nodup := by
    have injective : Function.Injective String.ofList := fun _ _ => String.ofList_inj.mp
    have distinct := (TagContent.nodup_keys content).map injective
    rwa [List.map_map] at distinct
  have written := congrArg (List.map UnresolvedAttribute.written) isRead.map_unresolved
  rw [List.map_map] at written
  exact List.Nodup.sublist (written ▸ TagItem.sublist_of_ofAttributes isRead.taken) keys

/-- No two attributes of an element of a document are written alike. -/
theorem Document.nodup_written_of_within {file : FileId} {input : List Char} {document : Document}
    {element : Element} (reads : read file input = .ok document)
    (within : document.root.Within element) :
    (element.attributes.map (·.name.written)).Nodup := by
  obtain ⟨_, _, _, _, _, _, tag, _⟩ := exists_written_of_within reads within
  exact ElementTag.nodup_written_of_read tag

end BundleMarkup
