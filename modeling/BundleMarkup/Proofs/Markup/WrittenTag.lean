import BundleMarkup.Proofs.Markup.Writing
import Mathlib.Data.List.Forall2

/-!
# Written tags

What is written comes apart again: escaped text is decoded, the token of a written tag ends at its
own bracket although values may hold brackets, and the inside of a written start tag is its name and
its fields.
-/

namespace BundleMarkup

namespace Reference

theorem resolve_of_nameOf? {char : Char} {name : List Char} (named : nameOf? char = some name)
    (offset : Nat) : resolve offset name = .ok char := by
  unfold nameOf? at named
  repeat' split at named
  all_goals cases named
  all_goals subst char
  all_goals rfl

theorem isAlpha_of_nameOf? {char : Char} {name : List Char} (named : nameOf? char = some name) :
    ∀ char ∈ name, char.isAlpha = true := by
  unfold nameOf? at named
  repeat' split at named
  all_goals cases named
  all_goals exact List.all_eq_true.mp rfl

theorem isInside_of_isAlpha {char : Char} (letter : char.isAlpha = true) :
    isInside char = true := by
  have other (mark : Char) (unlike : mark.isAlpha = false) : char ≠ mark := by
    rintro rfl
    rw [letter] at unlike
    cases unlike
  simp [isInside, other '&' rfl, other ';' rfl]

theorem decodeFrom_escapeChar (size offset : Nat) (char : Char) (rest : List Char) :
    ∃ next, decodeFrom size offset (escapeChar char ++ rest) =
      (decodeFrom size next rest).map (char :: ·) := by
  unfold escapeChar
  cases named : nameOf? char with
  | none =>
      have other : char ≠ '&' := fun same => by simp [same, nameOf?] at named
      refine ⟨offset + char.utf8Size, ?_⟩
      rw [List.singleton_append, decodeFrom, if_neg other]
      rfl
  | some name =>
      have inside : ∀ char ∈ name, isInside char = true := fun char among =>
        isInside_of_isAlpha (isAlpha_of_nameOf? named char among)
      refine ⟨offset + 2 + Text.byteLength name, ?_⟩
      have front := Text.takeWhile_run ';' inside rfl rest
      have back := Text.dropWhile_run ';' inside rfl rest
      rw [List.cons_append, List.append_assoc, List.singleton_append, decodeFrom]
      simp only [if_true, front]
      split
      · rename_i after
        rw [back] at after
        cases after
        rw [resolve_of_nameOf? named]
        rfl
      · rename_i other
        exact absurd back (other _)

theorem decodeFrom_escape (size offset : Nat) (text : List Char) :
    decodeFrom size offset (escape text) = .ok text := by
  induction text generalizing offset with
  | nil => rw [escape, List.flatMap_nil, decodeFrom]
  | cons char rest ih =>
      obtain ⟨next, decodes⟩ := decodeFrom_escapeChar size offset char (escape rest)
      rw [escape, List.flatMap_cons]
      rw [escape] at decodes ih
      rw [decodes, ih]
      rfl

/-- Decoding undoes escaping. -/
theorem decode_escape (text : List Char) : decode (escape text) = .ok text :=
  decodeFrom_escape _ 0 text

theorem escape_ne_nil {text : List Char} (nonempty : text ≠ []) : escape text ≠ [] := by
  obtain ⟨char, rest, rfl⟩ := List.exists_cons_of_ne_nil nonempty
  rw [escape, List.flatMap_cons, escapeChar]
  cases nameOf? char <;> simp

/-- What is written is no bracket and no quote. -/
theorem not_mem_escape {mark : Char} (among : mark ∈ ['<', '>', '"', '\'']) (text : List Char) :
    mark ∉ escape text := by
  intro written
  obtain ⟨char, _, part⟩ := List.mem_flatMap.mp written
  have special : mark.isAlpha = false ∧ mark ≠ '&' ∧ mark ≠ ';' ∧ nameOf? mark ≠ none := by
    simp only [List.mem_cons, List.not_mem_nil, or_false] at among
    obtain rfl | rfl | rfl | rfl := among <;> decide
  obtain ⟨other, ampersand, semicolon, named⟩ := special
  unfold escapeChar at part
  cases own : nameOf? char with
  | none =>
      obtain rfl : mark = char := by simpa [own] using part
      exact named own
  | some name =>
      have inside : mark ∈ name := by simpa [own, ampersand, semicolon] using part
      rw [isAlpha_of_nameOf? own mark inside] at other
      cases other

end Reference

namespace Name

/-- Whether a character may stand in a written name. -/
def isWritten (char : Char) : Bool := continues char || char = ':'

/-- A text is a written name of a tag or a field. -/
structure IsKey (key : List Char) : Prop where
  nonempty : key ≠ []
  /-- It holds nothing but characters of names and colons. -/
  written : ∀ char ∈ key, isWritten char = true

/-- A written name holds no character that has another meaning in tags. -/
theorem IsKey.ne {key : List Char} (isKey : IsKey key) {char : Char} (among : char ∈ key)
    (mark : Char) (other : isWritten mark = false) : char ≠ mark := by
  rintro rfl
  rw [isKey.written char among] at other
  cases other

theorem IsKey.isSpace {key : List Char} (isKey : IsKey key) {char : Char} (among : char ∈ key) :
    Token.isSpace char = false := by
  simp [Token.isSpace, isKey.ne among ' ' rfl, isKey.ne among '\t' rfl,
    isKey.ne among '\r' rfl, isKey.ne among '\n' rfl]

theorem isWritten_of_isPlain {text : List Char} (plain : isPlain text = true) :
    ∀ char ∈ text, isWritten char = true := by
  cases text with
  | nil => cases plain
  | cons first rest =>
      simp only [isPlain, Bool.and_eq_true, List.all_eq_true] at plain
      obtain ⟨letter, later⟩ := plain
      intro char among
      cases among with
      | head => simp [isWritten, continues, letter]
      | tail _ inside => simp [isWritten, later char inside]

theorem isKey_of_isPlain {text : List Char} (plain : isPlain text = true) : IsKey text where
  nonempty := by
    rintro rfl
    cases plain
  written := isWritten_of_isPlain plain

theorem of_isFreeQualifier {qualifier : String}
    (free : isFreeQualifier (some qualifier) = true) :
    isPlain qualifier.toList = true ∧ qualifier ≠ "xml" ∧ qualifier ≠ "xmlns" := by
  simpa [isFreeQualifier, and_assoc] using free

/-- A plain name is a key, and so are two with a colon between them. -/
theorem isKey_written {name : Name} (localName : isPlain name.localName.toList = true)
    (qualifier : isFreeQualifier name.qualifier = true) : IsKey name.written.toList := by
  unfold written
  cases found : name.qualifier with
  | none => exact isKey_of_isPlain localName
  | some text =>
      rw [found] at qualifier
      obtain ⟨plain, _⟩ := of_isFreeQualifier qualifier
      refine ⟨by simp, ?_⟩
      intro char among
      simp only [String.toList_append, List.mem_append] at among
      obtain (before | colon) | after := among
      · exact isWritten_of_isPlain plain char before
      · obtain rfl : char = ':' := by simpa using colon
        rfl
      · exact isWritten_of_isPlain localName char after

end Name

theorem Declaration.isKey_key {declaration : Declaration}
    (free : Name.isFreeQualifier declaration.qualifier = true) : Name.IsKey declaration.key := by
  have keyword : ∀ char ∈ ['x', 'm', 'l', 'n', 's', ':'], Name.isWritten char = true :=
    List.all_eq_true.mp rfl
  unfold key
  cases found : declaration.qualifier with
  | none => exact ⟨by simp, List.all_eq_true.mp rfl⟩
  | some text =>
      rw [found] at free
      obtain ⟨plain, _⟩ := Name.of_isFreeQualifier free
      refine ⟨by simp, ?_⟩
      intro char among
      cases List.mem_append.mp among with
      | inl before => exact keyword char before
      | inr after => exact Name.isWritten_of_isPlain plain char after

namespace Token

/-- Searching the end of a tag passes over what holds no bracket and no quote. -/
theorem breakTag_append {part : List Char}
    (clean : ∀ char ∈ part, char ≠ '>' ∧ char ≠ '"' ∧ char ≠ '\'') (rest : List Char) :
    breakTag none (part ++ rest) =
      (breakTag none rest).map fun (front, after) => (part ++ front, after) := by
  induction part with
  | nil => simp
  | cons char part ih =>
      obtain ⟨bracket, double, single⟩ := clean char List.mem_cons_self
      have later := ih fun char among => clean char (List.mem_cons_of_mem _ among)
      simp only [List.cons_append, breakTag, bracket, double, single, or_self, if_false, later,
        Option.map_map]
      rfl

/-- Inside quotes the search passes over everything up to the closing quote. -/
theorem breakTag_quoted {value : List Char} (unquoted : '"' ∉ value) (rest : List Char) :
    breakTag (some '"') (value ++ '"' :: rest) =
      (breakTag none rest).map fun (front, after) => (value ++ '"' :: front, after) := by
  induction value with
  | nil => simp [breakTag]
  | cons char value ih =>
      obtain ⟨other, unquoted⟩ := not_or.mp (List.mem_cons.not.mp unquoted)
      have later := ih unquoted
      simp only [List.cons_append, breakTag, Ne.symm other, if_false, later, Option.map_map]
      rfl

theorem breakTag_key {key : List Char} (isKey : Name.IsKey key) (rest : List Char) :
    breakTag none (key ++ rest) =
      (breakTag none rest).map fun (front, after) => (key ++ front, after) := by
  apply breakTag_append
  intro char among
  exact ⟨isKey.ne among '>' rfl, isKey.ne among '"' rfl, isKey.ne among '\'' rfl⟩

theorem breakTag_field {field : Field} (isKey : Name.IsKey field.key) (rest : List Char) :
    breakTag none (field.write ++ rest) =
      (breakTag none rest).map fun (front, after) => (field.write ++ front, after) := by
  have value := breakTag_quoted (Reference.not_mem_escape (by decide) field.value) rest
  have key := breakTag_key isKey ('=' :: '"' :: (Reference.escape field.value ++ '"' :: rest))
  simp only [Field.write, List.cons_append, List.append_assoc, List.nil_append]
  simp [breakTag, key, value, Option.map_map, Function.comp_def]

theorem breakTag_fields {fields : List Field} (keys : ∀ field ∈ fields, Name.IsKey field.key)
    (rest : List Char) :
    breakTag none (fields.flatMap Field.write ++ '>' :: rest) =
      some (fields.flatMap Field.write, rest) := by
  induction fields with
  | nil => simp [breakTag]
  | cons field fields ih =>
      have later := ih fun field among => keys field (List.mem_cons_of_mem _ among)
      rw [List.flatMap_cons, List.append_assoc, breakTag_field (keys field List.mem_cons_self),
        later]
      rfl

theorem next_endTag {key : List Char} (isKey : Name.IsKey key) (rest : List Char) :
    next ('<' :: '/' :: (key ++ '>' :: rest)) = .ok (endTag key, rest) := by
  have found : breakTag none (key ++ '>' :: rest) = some (key, rest) := by
    rw [breakTag_key isKey]
    simp [breakTag]
  simp [next, nextMarkup, nextEndTag, found, orFault]

/-- The last character of what is inside a written start tag is no slash. -/
theorem getLast?_ne_slash {key : List Char} {fields : List Field} (isKey : Name.IsKey key) :
    (key ++ fields.flatMap Field.write).getLast? ≠ some '/' := by
  intro slash
  cases List.eq_nil_or_concat fields with
  | inl none =>
      rw [none, List.flatMap_nil, List.append_nil] at slash
      exact isKey.ne (List.mem_of_getLast? slash) '/' rfl rfl
  | inr some =>
      obtain ⟨front, last, rfl⟩ := some
      have written : key ++ (front.concat last).flatMap Field.write =
          (key ++ front.flatMap Field.write ++
            ' ' :: (last.key ++ '=' :: '"' :: Reference.escape last.value)).concat '"' := by
        simp [Field.write]
      rw [written, List.concat_eq_append, List.getLast?_concat] at slash
      cases slash

theorem next_startTag {key : List Char} {fields : List Field} (isKey : Name.IsKey key)
    (keys : ∀ field ∈ fields, Name.IsKey field.key) (rest : List Char) :
    next ('<' :: (key ++ fields.flatMap Field.write ++ '>' :: rest)) =
      .ok (startTag (key ++ fields.flatMap Field.write), rest) := by
  have found : breakTag none (key ++ fields.flatMap Field.write ++ '>' :: rest) =
      some (key ++ fields.flatMap Field.write, rest) := by
    rw [List.append_assoc, breakTag_key isKey, breakTag_fields keys]
    rfl
  have taken : nextTag (key ++ fields.flatMap Field.write ++ '>' :: rest) =
      .ok (startTag (key ++ fields.flatMap Field.write), rest) := by
    rw [nextTag, found, orFault, ofTag, if_neg (getLast?_ne_slash isKey)]
  obtain ⟨first, others, rfl⟩ := List.exists_cons_of_ne_nil isKey.nonempty
  have other (mark : Char) (unwritten : Name.isWritten mark = false) : first ≠ mark :=
    isKey.ne List.mem_cons_self mark unwritten
  rw [next, if_pos rfl]
  simp only [List.cons_append] at taken ⊢
  rw [nextMarkup, if_neg (other '!' rfl), if_neg (other '/' rfl), if_neg (other '?' rfl), taken]

/-- The token of escaped text, which ends where a tag starts. -/
theorem next_text {text : List Char} (nonempty : text ≠ []) (rest : List Char) :
    next (Reference.escape text ++ '<' :: rest) =
      .ok (Token.text (Reference.escape text), '<' :: rest) := by
  have inside : ∀ char ∈ Reference.escape text, isText char = true :=
    Text.unlike_of_not_mem (Reference.not_mem_escape (by decide) text)
  have front := Text.takeWhile_run '<' inside rfl rest
  have back := Text.dropWhile_run '<' inside rfl rest
  obtain ⟨first, others, written⟩ := List.exists_cons_of_ne_nil (Reference.escape_ne_nil nonempty)
  have bracket : first ≠ '<' := of_decide_eq_true (inside first (by simp [written]))
  rw [written, List.cons_append] at front back ⊢
  rw [next, if_neg bracket, front, back]

end Token

namespace RawAttribute

/-- An attribute as it is written is that of a field. -/
structure Writes (field : Field) (raw : RawAttribute) : Prop where
  key : raw.key = field.key
  /-- The value is escaped. -/
  value : raw.value = Reference.escape field.value

theorem takeValue_quoted (position : Nat) {value : List Char} (unquoted : '"' ∉ value)
    (rest : List Char) :
    ∃ stop, takeValue position ('"' :: (value ++ '"' :: rest)) = .ok (value, stop, rest) := by
  have front := Text.takeWhile_run '"' (Text.unlike_of_not_mem unquoted) rfl rest
  have back := Text.dropWhile_run '"' (Text.unlike_of_not_mem unquoted) rfl rest
  have quote : ('"' :: (value ++ '"' :: rest)).dropWhile Token.isSpace =
      '"' :: (value ++ '"' :: rest) := rfl
  rw [takeValue, quote]
  simp only [isQuote, decide_true, Bool.true_or, if_true, front, back]
  exact ⟨_, rfl⟩

/-- A written field is taken off as it was, if no earlier one has its key. -/
theorem take_field (position : Nat) {seen : List RawAttribute} {field : Field} {first : Char}
    {others : List Char} (key : field.key = first :: others) (isKey : Name.IsKey field.key)
    (fresh : ∀ raw ∈ seen, raw.key ≠ field.key) (rest : List Char) :
    ∃ raw stop, Writes field raw ∧
      take position seen first
        (others ++ '=' :: '"' :: (Reference.escape field.value ++ '"' :: rest)) =
      .ok (raw, stop, rest) := by
  have inside : ∀ char ∈ others, RawAttribute.isKey char = true := by
    intro char among
    have among : char ∈ field.key := key ▸ List.mem_cons_of_mem first among
    simp [RawAttribute.isKey, isKey.isSpace among, isKey.ne among '=' rfl]
  have front := Text.takeWhile_run '=' inside rfl
  have back := Text.dropWhile_run '=' inside rfl
  have unseen : seen.find? (fun raw => raw.key == first :: others) = none := by
    rw [List.find?_eq_none]
    intro raw among same
    exact fresh raw among ((beq_iff_eq.mp same).trans key.symm)
  have equals (start : Nat) (after : List Char) :
      takeEquals start ('=' :: after) = .ok (start + 1, after) := rfl
  obtain ⟨stop, taken⟩ := takeValue_quoted
    (position + Text.byteLength (first :: others) + 1)
    (Reference.not_mem_escape (by decide) field.value) rest
  refine ⟨⟨first :: others, position, Reference.escape field.value⟩, stop, ⟨key.symm, rfl⟩, ?_⟩
  simp only [take, front, back, equals, bind, Except.bind, unseen, taken]
  rfl

/-- After a space, reading goes on with the attribute that can be taken. -/
theorem readFrom_of_take {position stop : Nat} {seen : List RawAttribute} {first : Char}
    {others rest : List Char} {attr : RawAttribute} (solid : Token.isSpace first = false)
    (taken : take (position + 1) seen first others = .ok (attr, stop, rest)) :
    readFrom position seen (' ' :: first :: others) =
      (attr :: (readFrom stop (seen ++ [attr]) rest).1,
        (readFrom stop (seen ++ [attr]) rest).2) := by
  have space : Token.isSpace ' ' = true := rfl
  have back : (' ' :: first :: others).dropWhile Token.isSpace = first :: others := by
    simp [space, solid]
  have front : (' ' :: first :: others).takeWhile Token.isSpace = [' '] := by
    simp [space, solid]
  rw [readFrom]
  split
  · rename_i none
    rw [back] at none
    cases none
  · rename_i start
    rw [back] at start
    cases start
    rw [front]
    split
    · rename_i failed
      rw [List.length_singleton, taken] at failed
      cases failed
    · rename_i found
      rw [List.length_singleton, taken] at found
      cases found
      rfl

/-- Written fields with different keys are read one after another. -/
theorem readFrom_fields (position : Nat) (seen : List RawAttribute) {fields : List Field}
    (keys : ∀ field ∈ fields, Name.IsKey field.key)
    (fresh : ∀ raw ∈ seen, ∀ field ∈ fields, raw.key ≠ field.key)
    (distinct : (fields.map Field.key).Nodup) :
    ∃ attributes, List.Forall₂ Writes fields attributes ∧
      readFrom position seen (fields.flatMap Field.write) = (attributes, none) := by
  induction fields generalizing position seen with
  | nil =>
      refine ⟨[], .nil, ?_⟩
      rw [List.flatMap_nil, readFrom]
      rfl
  | cons field fields ih =>
      have isKey := keys field List.mem_cons_self
      obtain ⟨first, others, key⟩ := List.exists_cons_of_ne_nil isKey.nonempty
      obtain ⟨alone, distinct⟩ := List.nodup_cons.mp distinct
      have unlike (other : Field) (inside : other ∈ fields) : field.key ≠ other.key :=
        (ne_of_mem_of_not_mem (List.mem_map_of_mem inside) alone).symm
      have solid : Token.isSpace first = false := isKey.isSpace (key ▸ List.mem_cons_self)
      have written : field.write ++ fields.flatMap Field.write = ' ' :: first :: (others ++ '=' ::
          '"' :: (Reference.escape field.value ++ '"' :: fields.flatMap Field.write)) := by
        simp [Field.write, key]
      obtain ⟨raw, stop, writes, taken⟩ := take_field (position + 1) key isKey
        (fun raw among => fresh raw among field List.mem_cons_self) (fields.flatMap Field.write)
      obtain ⟨later, rest, reads⟩ := ih stop (seen ++ [raw])
        (fun field among => keys field (List.mem_cons_of_mem _ among))
        (by
          intro other among field inside
          cases List.mem_append.mp among with
          | inl before => exact fresh other before field (List.mem_cons_of_mem _ inside)
          | inr last =>
              obtain rfl := List.mem_singleton.mp last
              exact writes.key ▸ unlike field inside)
        distinct
      refine ⟨raw :: later, .cons writes rest, ?_⟩
      rw [List.flatMap_cons, written, readFrom_of_take solid taken, reads]

end RawAttribute

namespace TagContent

theorem ofContent_write {key : List Char} {fields : List Field} (isKey : Name.IsKey key)
    (keys : ∀ field ∈ fields, Name.IsKey field.key)
    (distinct : (fields.map Field.key).Nodup) :
    ∃ attributes, List.Forall₂ RawAttribute.Writes fields attributes ∧
      ofContent (key ++ fields.flatMap Field.write) = ⟨key, attributes, none⟩ := by
  have inside : ∀ char ∈ key, isName char = true := by
    intro char among
    rw [isName, isKey.isSpace among]
    rfl
  have stops : (fields.flatMap Field.write).takeWhile isName = [] ∧
      (fields.flatMap Field.write).dropWhile isName = fields.flatMap Field.write := by
    cases fields with
    | nil => exact ⟨rfl, rfl⟩
    | cons field fields => exact ⟨rfl, rfl⟩
  have front : nameOf (key ++ fields.flatMap Field.write) = key := by
    rw [nameOf, List.takeWhile_append_of_pos inside, stops.1, List.append_nil]
  have back : (key ++ fields.flatMap Field.write).dropWhile isName =
      fields.flatMap Field.write := by
    rw [List.dropWhile_append_of_pos inside, stops.2]
  obtain ⟨attributes, writes, reads⟩ := RawAttribute.readFrom_fields
    (Text.byteLength key) [] keys (fun _ among => nomatch among) distinct
  refine ⟨attributes, writes, ?_⟩
  simp only [ofContent, front, back, reads]

end TagContent
end BundleMarkup
