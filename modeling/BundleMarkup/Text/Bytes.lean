/-!
# Byte offsets into text

Locations count the bytes of the UTF-8 form of a text.  This file measures a run of characters in
bytes and cuts a text at a byte offset; a cut that falls inside a character does not exist.
-/

namespace BundleMarkup
namespace Text

/-- Number of bytes that a run of characters takes in UTF-8. -/
def byteLength : List Char → Nat
  | [] => 0
  | char :: rest => char.utf8Size + byteLength rest

/-- The characters that fill exactly the first `count` bytes, if a character ends there. -/
def takeBytes? : Nat → List Char → Option (List Char)
  | 0, _ => some []
  | _ + 1, [] => none
  | count + 1, char :: rest =>
      if char.utf8Size ≤ count + 1 then
        (takeBytes? (count + 1 - char.utf8Size) rest).map (char :: ·)
      else
        none

/-- The characters that remain after the first `count` bytes, if a character ends there. -/
def dropBytes? : Nat → List Char → Option (List Char)
  | 0, text => some text
  | _ + 1, [] => none
  | count + 1, char :: rest =>
      if char.utf8Size ≤ count + 1 then dropBytes? (count + 1 - char.utf8Size) rest else none

/-- The characters between two byte offsets, if both fall on character boundaries. -/
def slice? (text : List Char) (start stop : Nat) : Option (List Char) :=
  (dropBytes? start text).bind (takeBytes? (stop - start))

@[simp]
theorem byteLength_nil : byteLength [] = 0 := rfl

@[simp]
theorem byteLength_cons (char : Char) (rest : List Char) :
    byteLength (char :: rest) = char.utf8Size + byteLength rest := rfl

@[simp]
theorem byteLength_append (front back : List Char) :
    byteLength (front ++ back) = byteLength front + byteLength back := by
  induction front with
  | nil => simp
  | cons char rest ih => simp [ih, Nat.add_assoc]

theorem dropBytes?_append (front rest : List Char) :
    dropBytes? (byteLength front) (front ++ rest) = some rest := by
  induction front with
  | nil => rw [byteLength_nil, List.nil_append, dropBytes?]
  | cons char front ih =>
      obtain ⟨size, positive⟩ : ∃ size, char.utf8Size = size + 1 :=
        Nat.exists_eq_add_one.mpr char.utf8Size_pos
      have count : byteLength (char :: front) = size + byteLength front + 1 := by
        rw [byteLength_cons, positive]
        omega
      rw [count, List.cons_append, dropBytes?, if_pos (by omega), positive, ← ih]
      congr 1
      omega

theorem takeBytes?_append (front rest : List Char) :
    takeBytes? (byteLength front) (front ++ rest) = some front := by
  induction front with
  | nil => rw [byteLength_nil, takeBytes?]
  | cons char front ih =>
      obtain ⟨size, positive⟩ : ∃ size, char.utf8Size = size + 1 :=
        Nat.exists_eq_add_one.mpr char.utf8Size_pos
      have count : byteLength (char :: front) = size + byteLength front + 1 := by
        rw [byteLength_cons, positive]
        omega
      have left : size + byteLength front + 1 - char.utf8Size = byteLength front := by omega
      rw [count, List.cons_append, takeBytes?, if_pos (by omega), left, ih, Option.map_some]

theorem eq_append_of_dropBytes? {count : Nat} {text rest : List Char}
    (dropped : dropBytes? count text = some rest) :
    ∃ front, text = front ++ rest ∧ byteLength front = count := by
  induction text generalizing count with
  | nil =>
      cases count with
      | zero => exact ⟨[], by simpa [dropBytes?] using dropped, rfl⟩
      | succ count => simp [dropBytes?] at dropped
  | cons char text ih =>
      cases count with
      | zero => exact ⟨[], by simpa [dropBytes?] using dropped, rfl⟩
      | succ count =>
          rw [dropBytes?] at dropped
          split at dropped
          · obtain ⟨front, rfl, size⟩ := ih dropped
            exact ⟨char :: front, rfl, by rw [byteLength_cons, size]; omega⟩
          · cases dropped

theorem eq_append_of_takeBytes? {count : Nat} {text front : List Char}
    (taken : takeBytes? count text = some front) :
    (∃ rest, text = front ++ rest) ∧ byteLength front = count := by
  induction text generalizing count front with
  | nil =>
      cases count with
      | zero =>
          obtain rfl : [] = front := by simpa [takeBytes?] using taken
          exact ⟨⟨[], rfl⟩, rfl⟩
      | succ count => simp [takeBytes?] at taken
  | cons char text ih =>
      cases count with
      | zero =>
          obtain rfl : [] = front := by simpa [takeBytes?] using taken
          exact ⟨⟨_, rfl⟩, rfl⟩
      | succ count =>
          rw [takeBytes?] at taken
          split at taken
          · obtain ⟨later, takes, rfl⟩ := Option.map_eq_some_iff.mp taken
            obtain ⟨⟨rest, rfl⟩, size⟩ := ih takes
            exact ⟨⟨rest, rfl⟩, by rw [byteLength_cons, size]; omega⟩
          · cases taken

theorem eq_nil_of_byteLength {text : List Char} (empty : byteLength text = 0) : text = [] := by
  cases text with
  | nil => rfl
  | cons char rest =>
      have := char.utf8Size_pos
      rw [byteLength_cons] at empty
      omega

/-- Of two cuts the one that takes fewer bytes is the start of the other. -/
theorem prefix_of_takeBytes? {text before through : List Char} {start stop : Nat}
    (taken : takeBytes? start text = some before)
    (further : takeBytes? stop text = some through) (ordered : start ≤ stop) :
    before <+: through := by
  obtain ⟨⟨rest, rfl⟩, rfl⟩ := eq_append_of_takeBytes? taken
  obtain ⟨⟨back, whole⟩, rfl⟩ := eq_append_of_takeBytes? further
  rcases List.append_eq_append_iff.mp whole with ⟨part, same, -⟩ | ⟨part, rfl, -⟩
  · exact ⟨part, same.symm⟩
  · rw [byteLength_append] at ordered
    obtain rfl : part = [] := eq_nil_of_byteLength (by omega)
    exact ⟨[], by simp⟩

/-- A slice stands in the text at its place. -/
theorem slice?_eq_some_iff {text part : List Char} {start stop : Nat} :
    slice? text start stop = some part ↔
      ∃ front back, text = front ++ part ++ back ∧ byteLength front = start ∧
        byteLength part = stop - start := by
  constructor
  · intro sliced
    obtain ⟨rest, dropped, taken⟩ := Option.bind_eq_some_iff.mp sliced
    obtain ⟨front, rfl, before⟩ := eq_append_of_dropBytes? dropped
    obtain ⟨⟨back, rfl⟩, size⟩ := eq_append_of_takeBytes? taken
    exact ⟨front, back, (List.append_assoc ..).symm, before, size⟩
  · rintro ⟨front, back, rfl, rfl, size⟩
    rw [slice?, List.append_assoc, dropBytes?_append, Option.bind_some, ← size,
      takeBytes?_append]

theorem slice?_append (front part back : List Char) :
    slice? (front ++ part ++ back) (byteLength front) (byteLength front + byteLength part) =
      some part :=
  slice?_eq_some_iff.mpr ⟨front, back, rfl, rfl, (Nat.add_sub_cancel_left ..).symm⟩

/-- A slice of a part of a text is one of the text. -/
theorem slice?_between {inner part : List Char} {start stop : Nat}
    (sliced : slice? inner start stop = some part) (front back : List Char) :
    slice? (front ++ inner ++ back) (byteLength front + start) (byteLength front + stop) =
      some part := by
  obtain ⟨before, after, rfl, rfl, size⟩ := slice?_eq_some_iff.mp sliced
  exact slice?_eq_some_iff.mpr
    ⟨front ++ before, after ++ back, by simp, byteLength_append front before, by omega⟩

theorem lt_of_slice? {text part : List Char} {start stop : Nat}
    (sliced : slice? text start stop = some part) (nonempty : part ≠ []) : start < stop := by
  obtain ⟨_, _, _, _, size⟩ := slice?_eq_some_iff.mp sliced
  obtain ⟨char, rest, rfl⟩ := List.exists_cons_of_ne_nil nonempty
  have := char.utf8Size_pos
  rw [byteLength_cons] at size
  omega

theorem stop_le_of_slice? {text part : List Char} {start stop : Nat}
    (sliced : slice? text start stop = some part) (ordered : start ≤ stop) :
    stop ≤ byteLength text := by
  obtain ⟨front, back, rfl, rfl, size⟩ := slice?_eq_some_iff.mp sliced
  rw [byteLength_append, byteLength_append]
  omega

end Text
end BundleMarkup
