import BundleMarkup.Proofs.Markup.Places

/-!
# Places of attributes

Attributes are read off the inside of a tag one after another, and their places are searched for
again from where the attribute before stops.  The search sees white space, then the name, so it
stops at the name that was read; what follows the name up to the closing quote is what was read too.
-/

namespace BundleMarkup

/-- White space takes as many bytes as characters. -/
theorem Token.byteLength_of_isSpace {gap : List Char}
    (spaces : ∀ char ∈ gap, isSpace char = true) : Text.byteLength gap = gap.length := by
  induction gap with
  | nil => rfl
  | cons char gap ih =>
      have space := spaces char (by simp)
      have single : char.utf8Size = 1 := by
        simp only [isSpace, Bool.or_eq_true, decide_eq_true_eq] at space
        obtain ((rfl | rfl) | rfl) | rfl := space <;> rfl
      rw [Text.byteLength_cons, ih fun other among => spaces other (by simp [among]), single,
        List.length_cons, Nat.add_comm]

/-- The white space of a written attribute and its quotes. -/
structure Spelling where
  /-- The white space before its name. -/
  lead : List Char
  /-- The white space between its name and its equals sign. -/
  before : List Char
  /-- The white space between its equals sign and its value. -/
  after : List Char
  quote : Char

namespace Spelling

/-- The characters of an attribute that is spelled so. -/
def write (spelling : Spelling) (raw : RawAttribute) : List Char :=
  spelling.lead ++ raw.key ++ (spelling.before ++ '=' :: spelling.after) ++
    spelling.quote :: (raw.value ++ [spelling.quote])

/-- The place of an attribute that is spelled so from an offset on. -/
def place (spelling : Spelling) (position : Nat) (raw : RawAttribute) : AttributePlace :=
  let nameStart := position + Text.byteLength spelling.lead
  let nameStop := nameStart + Text.byteLength raw.key
  let valueStart := nameStop + Text.byteLength (spelling.before ++ '=' :: spelling.after)
  ⟨nameStart, nameStop, valueStart,
    valueStart + Text.byteLength (spelling.quote :: (raw.value ++ [spelling.quote]))⟩

theorem valueStop_place (spelling : Spelling) (position : Nat) (raw : RawAttribute) :
    (spelling.place position raw).valueStop =
      position + Text.byteLength (spelling.write raw) := by
  simp only [place, write, Text.byteLength_append]
  omega

end Spelling

namespace RawAttribute

/-- An attribute can be spelled with given white space and quotes. -/
structure IsSpelled (spelling : Spelling) (raw : RawAttribute) : Prop where
  lead : ∀ char ∈ spelling.lead, Token.isSpace char = true
  before : ∀ char ∈ spelling.before, Token.isSpace char = true
  after : ∀ char ∈ spelling.after, Token.isSpace char = true
  /-- Its name does not start with white space. -/
  key : ∃ first others, raw.key = first :: others ∧ Token.isSpace first = false
  quote : isQuote spelling.quote = true
  /-- Its value does not hold its quote. -/
  value : spelling.quote ∉ raw.value

/-- From an offset on, attributes are spelled one after another, and white space after them. -/
inductive AreSpelled : Nat → List Char → List RawAttribute → Prop
  | nil {position : Nat} {gap : List Char} (spaces : ∀ char ∈ gap, Token.isSpace char = true) :
      AreSpelled position gap []
  | cons {position : Nat} {spelling : Spelling} {raw : RawAttribute} {rest : List Char}
      {later : List RawAttribute} (isSpelled : raw.IsSpelled spelling)
      (start : raw.keyStart = (spelling.place position raw).nameStart)
      (others : AreSpelled (spelling.place position raw).valueStop rest later) :
      AreSpelled position (spelling.write raw ++ rest) (raw :: later)

/-- A quote takes one byte and is passed over by no reader of white space. -/
theorem plain_of_isQuote {quote : Char} (isQuote : isQuote quote = true) :
    quote.utf8Size = 1 ∧ AttributePlace.isGap quote = false := by
  simp only [RawAttribute.isQuote, Bool.or_eq_true, decide_eq_true_eq] at isQuote
  rcases isQuote with rfl | rfl
  · exact ⟨rfl, rfl⟩
  · exact ⟨rfl, rfl⟩

section

variable {position stop : Nat} {input rest : List Char}

theorem exists_gap_of_takeEquals (taken : takeEquals position input = .ok (stop, rest)) :
    ∃ gap, (∀ char ∈ gap, Token.isSpace char = true) ∧ input = gap ++ '=' :: rest ∧
      stop = position + Text.byteLength (gap ++ ['=']) := by
  have whole := List.takeWhile_append_dropWhile (p := Token.isSpace) (l := input)
  have spaces : ∀ char ∈ input.takeWhile Token.isSpace, Token.isSpace char = true :=
    fun _ => List.mem_takeWhile_imp
  simp only [takeEquals] at taken
  split at taken
  · cases taken
  · rename_i char others found
    split at taken
    · rename_i same
      obtain ⟨rfl, rfl⟩ := Prod.mk.inj (Except.ok.inj taken)
      refine ⟨_, spaces, by rw [← same, ← found, whole], ?_⟩
      rw [Text.byteLength_append, Token.byteLength_of_isSpace spaces, Nat.add_assoc]
      rfl
    · cases taken

theorem exists_quote_of_takeValue {value : List Char}
    (taken : takeValue position input = .ok (value, stop, rest)) :
    ∃ gap quote, (∀ char ∈ gap, Token.isSpace char = true) ∧ isQuote quote = true ∧
      quote ∉ value ∧ input = gap ++ quote :: (value ++ quote :: rest) ∧
      stop = position + Text.byteLength (gap ++ quote :: (value ++ [quote])) := by
  have whole := List.takeWhile_append_dropWhile (p := Token.isSpace) (l := input)
  have spaces : ∀ char ∈ input.takeWhile Token.isSpace, Token.isSpace char = true :=
    fun _ => List.mem_takeWhile_imp
  simp only [takeValue] at taken
  split at taken
  · cases taken
  · rename_i quote inside opens
    split at taken
    · rename_i isQuote
      have cut := List.takeWhile_append_dropWhile (p := (· ≠ quote)) (l := inside)
      have free : quote ∉ inside.takeWhile (· ≠ quote) := fun among => by
        simpa using List.mem_takeWhile_imp among
      split at taken
      · cases taken
      · rename_i char others closes
        obtain rfl : char = quote := by simpa using Text.not_accepts_of_dropWhile closes
        simp only [Except.ok.injEq, Prod.mk.injEq] at taken
        obtain ⟨rfl, rfl, rfl⟩ := taken
        refine ⟨_, char, spaces, isQuote, free, by rw [← closes, cut, ← opens, whole], ?_⟩
        have single := (plain_of_isQuote isQuote).1
        simp only [Text.byteLength_append, Text.byteLength_cons, Text.byteLength_nil, single,
          Token.byteLength_of_isSpace spaces]
        omega
    · cases taken

/-- An attribute is taken off a text that starts with one spelling of it. -/
theorem exists_spelling_of_take {lead : List Char}
    (spaces : ∀ char ∈ lead, Token.isSpace char = true) {seen : List RawAttribute} {first : Char}
    (visible : Token.isSpace first = false) {others : List Char} {raw : RawAttribute}
    (taken : take (position + Text.byteLength lead) seen first others = .ok (raw, stop, rest)) :
    ∃ spelling : Spelling, raw.IsSpelled spelling ∧
      lead ++ first :: others = spelling.write raw ++ rest ∧
      raw.keyStart = (spelling.place position raw).nameStart ∧
      stop = (spelling.place position raw).valueStop := by
  have whole := List.takeWhile_append_dropWhile (p := isKey) (l := others)
  simp only [take, bind, Except.bind] at taken
  generalize others.takeWhile isKey = tail at taken whole
  split at taken
  · cases taken
  · rename_i equals
    obtain ⟨before, beforeSpaces, afterKey, atEquals⟩ := exists_gap_of_takeEquals equals
    split at taken
    · cases taken
    · split at taken
      · cases taken
      · rename_i value
        obtain ⟨after, quote, afterSpaces, isQuote, free, afterEquals, atStop⟩ :=
          exists_quote_of_takeValue value
        simp only [pure, Except.pure, Except.ok.injEq, Prod.mk.injEq] at taken
        obtain ⟨rfl, rfl, rfl⟩ := taken
        refine ⟨⟨lead, before, after, quote⟩,
          ⟨spaces, beforeSpaces, afterSpaces, ⟨first, _, rfl, visible⟩, isQuote, free⟩, ?_, rfl,
          ?_⟩
        · rw [← whole, afterKey, afterEquals]
          simp [Spelling.write]
        · rw [atStop, atEquals]
          simp only [Spelling.place, Text.byteLength_append, Text.byteLength_cons,
            Text.byteLength_nil]
          omega

/-- Attributes without a mistake are spelled one after another. -/
theorem areSpelled_of_readFrom {seen raws : List RawAttribute}
    (reads : readFrom position seen input = (raws, none)) : AreSpelled position input raws := by
  fun_induction readFrom position seen input generalizing raws with
  | case1 position seen input ended =>
      obtain ⟨rfl, _⟩ := Prod.mk.inj reads
      exact .nil (List.dropWhile_eq_nil_iff.mp ended)
  | case2 position seen input first others found fault failed => cases (Prod.mk.inj reads).2
  | case3 position seen input first others found raw stop rest taken later fault recursion ih =>
      obtain ⟨rfl, rfl⟩ := Prod.mk.inj reads
      have spaces : ∀ char ∈ input.takeWhile Token.isSpace, Token.isSpace char = true :=
        fun _ => List.mem_takeWhile_imp
      have visible := Text.not_accepts_of_dropWhile found
      rw [← Token.byteLength_of_isSpace spaces] at taken
      obtain ⟨spelling, isSpelled, written, start, rfl⟩ :=
        exists_spelling_of_take spaces visible taken
      rw [← found, List.takeWhile_append_dropWhile] at written
      rw [written]
      exact .cons isSpelled start (ih recursion)

end

end RawAttribute

namespace Token

theorem stripFront?_append (mark rest : List Char) :
    stripFront? mark (mark ++ rest) = some rest := by
  induction mark with
  | nil => rfl
  | cons char mark ih => rw [List.cons_append, stripFront?, if_pos rfl, ih]

/-- A mark is found behind characters that it does not start with. -/
theorem breakAt_append {gap : List Char} {first : Char} (free : first ∉ gap)
    (others rest : List Char) :
    breakAt (first :: others) (gap ++ (first :: others ++ rest)) = some (gap, rest) := by
  induction gap with
  | nil =>
      have starts := stripFront?_append (first :: others) rest
      rw [List.cons_append] at starts
      rw [List.nil_append, List.cons_append, breakAt, starts]
  | cons char gap ih =>
      have other : first ≠ char := fun same => free (same ▸ List.mem_cons_self)
      rw [List.cons_append, breakAt, stripFront?, if_neg other,
        ih fun among => free (List.mem_cons_of_mem _ among)]
      rfl

end Token

namespace AttributePlace

theorem skipGap_append (position : Nat) {gap : List Char}
    (spaces : ∀ char ∈ gap, Token.isSpace char = true) {stop : Char} (stops : isGap stop = false)
    (rest : List Char) :
    skipGap position (gap ++ stop :: rest) =
      (position + Text.byteLength gap, stop :: rest) := by
  have inside : ∀ char ∈ gap, isGap char = true := fun char among => by
    rw [isGap, spaces char among, Bool.true_or]
  rw [skipGap, Text.takeWhile_run stop inside stops, Text.dropWhile_run stop inside stops,
    Token.byteLength_of_isSpace spaces]

variable {spelling : Spelling} {raw : RawAttribute}

/-- The value of a spelled attribute is found behind its name. -/
theorem findValue_of_isSpelled (isSpelled : raw.IsSpelled spelling) (position : Nat)
    (rest : List Char) :
    findValue position (spelling.before ++ '=' :: spelling.after ++
        spelling.quote :: (raw.value ++ [spelling.quote]) ++ rest) =
      some (position + Text.byteLength (spelling.before ++ '=' :: spelling.after),
        position + Text.byteLength (spelling.before ++ '=' :: spelling.after) +
          Text.byteLength (spelling.quote :: (raw.value ++ [spelling.quote]))) := by
  obtain ⟨single, visible⟩ := RawAttribute.plain_of_isQuote isSpelled.quote
  have equals : '='.utf8Size = 1 := rfl
  have closes := Token.breakAt_append isSpelled.value [] rest
  simp only [findValue, List.append_assoc, List.cons_append, List.nil_append]
  rw [skipGap_append position isSpelled.before rfl]
  simp only [skipEquals, if_true]
  rw [skipGap_append _ isSpelled.after visible]
  simp only [List.cons_append, List.nil_append] at closes
  simp only [isSpelled.quote, if_true, closes, Text.byteLength_append, Text.byteLength_cons,
    Text.byteLength_nil, single, equals, Option.some.injEq, Prod.mk.injEq]
  omega

/--
The search for an attribute from a cursor passes over white space, comes to the name where it was
read, and behind an equals sign to its value.
-/
structure IsFound (content : List Char) (cursor : Nat) (raw : RawAttribute)
    (place : AttributePlace) : Prop where
  /-- A name and a value are found, and nothing but white space stands before them. -/
  search : ∃ lead after, (Text.dropBytes? cursor content).bind (Token.breakAt raw.key) =
    some (lead, after) ∧ (∀ char ∈ lead, Token.isSpace char = true) ∧
      findValue place.nameStop after = some (place.valueStart, place.valueStop)
  start : place.nameStart = raw.keyStart
  behind : cursor ≤ place.nameStart
  named : raw.key ≠ []
  name : Text.slice? content place.nameStart place.nameStop = some raw.key
  equals : ∃ before after, Text.slice? content place.nameStop place.valueStart =
    some (before ++ '=' :: after) ∧ ∀ char ∈ before ++ after, Token.isSpace char = true
  value : ∃ quote, RawAttribute.isQuote quote = true ∧ quote ∉ raw.value ∧
    Text.slice? content place.valueStart place.valueStop =
      some (quote :: (raw.value ++ [quote]))

variable (isSpelled : raw.IsSpelled spelling) (front rest : List Char)
include isSpelled

/-- The name of a spelled attribute is found behind the white space before it. -/
theorem breakAt_of_isSpelled :
    (Text.dropBytes? (Text.byteLength front) (front ++ (spelling.write raw ++ rest))).bind
        (Token.breakAt raw.key) =
      some (spelling.lead, spelling.before ++ '=' :: spelling.after ++
        spelling.quote :: (raw.value ++ [spelling.quote]) ++ rest) := by
  obtain ⟨first, others, key, visible⟩ := isSpelled.key
  have free : first ∉ spelling.lead := fun among => by
    rw [isSpelled.lead first among] at visible
    cases visible
  rw [Text.dropBytes?_append, Option.bind_some, key, ← Token.breakAt_append free others, ← key]
  simp [Spelling.write]

theorem find_of_isSpelled :
    find (front ++ (spelling.write raw ++ rest)) (Text.byteLength front) raw.key =
      spelling.place (Text.byteLength front) raw := by
  have value := findValue_of_isSpelled isSpelled
    (spelling.place (Text.byteLength front) raw).nameStop rest
  rw [find, breakAt_of_isSpelled isSpelled]
  simp only [Spelling.place] at value
  simp only [value, Option.getD_some, Spelling.place]

theorem isFound_of_isSpelled
    (start : raw.keyStart = (spelling.place (Text.byteLength front) raw).nameStart) :
    IsFound (front ++ (spelling.write raw ++ rest)) (Text.byteLength front) raw
      (spelling.place (Text.byteLength front) raw) where
  search := ⟨_, _, breakAt_of_isSpelled isSpelled front rest, isSpelled.lead,
    findValue_of_isSpelled isSpelled _ rest⟩
  start := start.symm
  behind := Nat.le_add_right ..
  named := by
    obtain ⟨first, others, key, _⟩ := isSpelled.key
    exact key ▸ List.cons_ne_nil first others
  name := by
    have cut := Text.slice?_append (front ++ spelling.lead) raw.key
      (spelling.before ++ '=' :: spelling.after ++
        spelling.quote :: (raw.value ++ [spelling.quote]) ++ rest)
    rw [Text.byteLength_append] at cut
    simpa [Spelling.write, Spelling.place] using cut
  equals := by
    have cut := Text.slice?_append (front ++ spelling.lead ++ raw.key)
      (spelling.before ++ '=' :: spelling.after)
      (spelling.quote :: (raw.value ++ [spelling.quote]) ++ rest)
    rw [Text.byteLength_append, Text.byteLength_append] at cut
    refine ⟨spelling.before, spelling.after, by simpa [Spelling.write, Spelling.place] using cut,
      fun char among => ?_⟩
    rcases List.mem_append.mp among with before | after
    · exact isSpelled.before char before
    · exact isSpelled.after char after
  value := by
    have cut := Text.slice?_append
      (front ++ spelling.lead ++ raw.key ++ (spelling.before ++ '=' :: spelling.after))
      (spelling.quote :: (raw.value ++ [spelling.quote])) rest
    rw [Text.byteLength_append, Text.byteLength_append, Text.byteLength_append] at cut
    exact ⟨spelling.quote, isSpelled.quote, isSpelled.value,
      by simpa [Spelling.write, Spelling.place] using cut⟩

omit isSpelled

/-- The parts of a place are in order, behind the cursor. -/
theorem IsFound.ordered {content : List Char} {cursor : Nat} {place : AttributePlace}
    (isFound : IsFound content cursor raw place) :
    cursor ≤ place.nameStart ∧ place.nameStart < place.nameStop ∧
      place.nameStop < place.valueStart ∧ place.valueStart < place.valueStop := by
  obtain ⟨before, after, equals, _⟩ := isFound.equals
  obtain ⟨quote, _, _, value⟩ := isFound.value
  exact ⟨isFound.behind, Text.lt_of_slice? isFound.name isFound.named,
    Text.lt_of_slice? equals (by simp), Text.lt_of_slice? value (by simp)⟩

/-- Attributes searched for one after another, each from where the one before stops, are found. -/
inductive AreFound (content : List Char) : Nat → List RawAttribute → Prop
  | nil (cursor : Nat) : AreFound content cursor []
  | cons {cursor : Nat} {raw : RawAttribute} {later : List RawAttribute}
      (isFound : IsFound content cursor raw (find content cursor raw.key))
      (others : AreFound content (find content cursor raw.key).valueStop later) :
      AreFound content cursor (raw :: later)

theorem areFound_of_areSpelled {position : Nat} {rest : List Char} {raws : List RawAttribute}
    (areSpelled : RawAttribute.AreSpelled position rest raws) {front : List Char}
    (size : position = Text.byteLength front) : AreFound (front ++ rest) position raws := by
  induction areSpelled generalizing front with
  | nil => exact .nil _
  | @cons _ spelling raw rest later isSpelled start others ih =>
      subst size
      have found := find_of_isSpelled isSpelled front rest
      have stop : (spelling.place (Text.byteLength front) raw).valueStop =
          Text.byteLength (front ++ spelling.write raw) := by
        rw [Spelling.valueStop_place, Text.byteLength_append]
      have behind := ih stop
      rw [List.append_assoc] at behind
      exact .cons (found ▸ isFound_of_isSpelled isSpelled front rest start) (found ▸ behind)

/-- In a tag whose attributes have no mistake every search succeeds. -/
theorem areFound_of_faultless {content : List Char}
    (faultless : (TagContent.ofContent content).fault = none) :
    AreFound content (Text.byteLength (TagContent.nameOf content))
      (TagContent.ofContent content).attributes := by
  have reads : RawAttribute.readFrom (Text.byteLength (TagContent.nameOf content)) []
      (content.dropWhile TagContent.isName) =
        ((TagContent.ofContent content).attributes, none) :=
    Prod.ext rfl faultless
  have found := areFound_of_areSpelled (RawAttribute.areSpelled_of_readFrom reads) rfl
  rwa [TagContent.nameOf, List.takeWhile_append_dropWhile] at found

end AttributePlace

namespace Attribute

/-- An attribute before its name was resolved. -/
def unresolved (attr : Attribute) : UnresolvedAttribute :=
  { qualifier := attr.name.qualifier
    localName := attr.name.localName
    nameSpan := attr.nameSpan
    value := attr.value
    valueSpan := attr.valueSpan }

/-- An attribute stands in a text where its spans are. -/
structure IsWritten (text : List Char) (attr : Attribute) : Prop where
  name : attr.nameSpan.cut? text = some attr.name.written.toList
  /-- Its value is decoded from what stands between two equal quotes. -/
  value : ∃ quote raw, RawAttribute.isQuote quote = true ∧ quote ∉ raw ∧
    attr.valueSpan.cut? text = some (quote :: (raw ++ [quote])) ∧
      Reference.decode raw = .ok attr.value.toList
  apart : attr.nameSpan.stop < attr.valueSpan.start

end Attribute

theorem ElementTag.IsRead.map_unresolved {origin : Origin} {outer : List (List Declaration)}
    {start : Nat} {content : List Char} {items : List TagItem} {tag : ElementTag}
    (isRead : IsRead origin outer start content items tag) :
    tag.attributes.map Attribute.unresolved = items.filterMap TagItem.attribute? := by
  have resolved := isRead.attributes
  generalize items.filterMap TagItem.attribute? = unresolved at resolved ⊢
  generalize tag.attributes = attributes at resolved ⊢
  induction resolved with
  | nil => rfl
  | cons resolves _ ih =>
      obtain ⟨uri, _, rfl⟩ := ElementTag.resolveAttribute_eq_ok.mp resolves
      rw [List.map_cons, ih]
      rfl

namespace TagItem

variable {origin : Origin} {content : List Char} {cursor : Nat} {item : UnresolvedAttribute}

theorem eq_of_attribute?_ofPlace {base : Nat} {key : List Char} {value : String}
    {place : AttributePlace}
    (found : (ofPlace origin base key value place).attribute? = some item) :
    item =
      { qualifier := (Binding.splitName key).1
        localName := (Binding.splitName key).2
        nameSpan := origin.span (base + place.nameStart) (base + place.nameStop)
        value
        valueSpan := origin.span (base + place.valueStart) (base + place.valueStop) } := by
  unfold ofPlace at found
  split at found
  · cases found
  · cases found
  · rename_i split
    obtain rfl := Option.some.inj found
    rw [split]

/-- What a search finds in a tag stands in the text around the tag. -/
theorem isWritten_of_ofPlace {raw : RawAttribute} {place : AttributePlace} {value : List Char}
    (isFound : place.IsFound content cursor raw) (decodes : Reference.decode raw.value = .ok value)
    {front : List Char} {attr : Attribute}
    (found : (ofPlace origin (Text.byteLength front) raw.key (String.ofList value)
      place).attribute? = some attr.unresolved) (back : List Char) :
    attr.IsWritten (front ++ content ++ back) := by
  obtain ⟨⟨uri, localName, qualifier⟩, nameSpan, text, valueSpan⟩ := attr
  obtain ⟨rfl, rfl, rfl, rfl, rfl⟩ :=
    UnresolvedAttribute.mk.inj (eq_of_attribute?_ofPlace found)
  constructor
  · rw [SourceSpan.cut?, Binding.written_splitName, String.toList_ofList, Origin.start_span,
      Origin.stop_span]
    exact Text.slice?_between isFound.name front back
  · obtain ⟨quote, isQuote, free, sliced⟩ := isFound.value
    refine ⟨quote, raw.value, isQuote, free, ?_, by rw [decodes, String.toList_ofList]⟩
    rw [SourceSpan.cut?, Origin.start_span, Origin.stop_span]
    exact Text.slice?_between sliced front back
  · have := isFound.ordered
    rw [Origin.start_span, Origin.stop_span]
    omega

/-- The attributes among the items of a tag stand in its text, one after another. -/
theorem areWritten_of_ofAttributes {start : Nat} {raws : List RawAttribute}
    (areFound : AttributePlace.AreFound content cursor raws) {items : List TagItem}
    (taken : ofAttributes origin start content cursor raws = .ok items) {front : List Char}
    (size : start + 1 = Text.byteLength front) (back : List Char) :
    (∀ item ∈ items.filterMap attribute?, start + 1 + cursor ≤ item.nameSpan.start ∧
      ∀ attr : Attribute, attr.unresolved = item → attr.IsWritten (front ++ content ++ back)) ∧
      (items.filterMap attribute?).Pairwise
        (fun item later => item.valueSpan.stop ≤ later.nameSpan.start) := by
  induction areFound generalizing items with
  | nil =>
      obtain rfl := Except.ok.inj taken
      exact ⟨nofun, .nil⟩
  | @cons cursor raw later isFound others ih =>
      obtain ⟨value, rest, decodes, run, rfl⟩ := ofAttributes_cons_eq_ok.mp taken
      obtain ⟨written, apart⟩ := ih run
      have ordered := isFound.ordered
      rw [size] at written ⊢
      rw [List.filterMap_cons]
      split
      · refine ⟨fun item among => ?_, apart⟩
        obtain ⟨bound, stands⟩ := written item among
        exact ⟨by omega, stands⟩
      · rename_i item found
        have places := eq_of_attribute?_ofPlace found
        constructor
        · intro other among
          rcases List.mem_cons.mp among with rfl | behind
          · refine ⟨?_, fun attr same => ?_⟩
            · rw [places, Origin.start_span]
              omega
            · rw [← same] at found
              exact isWritten_of_ofPlace isFound decodes found back
          · obtain ⟨bound, stands⟩ := written other behind
            exact ⟨by omega, stands⟩
        · refine List.pairwise_cons.mpr ⟨fun other behind => ?_, apart⟩
          have bound := (written other behind).1
          rw [places, Origin.stop_span]
          omega

end TagItem

/-- The inside of a tag that opens or makes an element. -/
def Token.elementContent? : Token → Option (List Char)
  | startTag content => some content
  | emptyTag content => some content
  | _ => none

theorem Construction.exists_step_of_mem {origin : Origin} {lexemes : List Lexeme}
    {state last : Construction} (run : lexemes.foldlM (step origin) state = .ok last)
    {lexeme : Lexeme} (among : lexeme ∈ lexemes) :
    ∃ before next, step origin before lexeme = .ok next := by
  induction lexemes generalizing state with
  | nil => cases among
  | cons first rest ih =>
      rw [List.foldlM_cons] at run
      cases steps : step origin state first with
      | error error =>
          rw [steps] at run
          cases run
      | ok next =>
          rw [steps] at run
          rcases List.mem_cons.mp among with rfl | later
          · exact ⟨state, next, steps⟩
          · exact ih run later

theorem Construction.faultless_of_step {origin : Origin} {state next : Construction}
    {lexeme : Lexeme} (steps : step origin state lexeme = .ok next) {content : List Char}
    (inside : lexeme.token.elementContent? = some content) :
    (TagContent.ofContent content).fault = none := by
  have opened : ∃ tag, ElementTag.read origin state.frames lexeme.start content = .ok tag := by
    obtain ⟨token, start, stop⟩ := lexeme
    cases token <;> cases inside
    all_goals
      simp only [step] at steps
      cases reads : ElementTag.read origin state.frames start content with
      | error error =>
          rw [reads] at steps
          cases steps
      | ok tag => exact ⟨tag, rfl⟩
  obtain ⟨tag, reads⟩ := opened
  obtain ⟨items, isRead⟩ := ElementTag.exists_items_of_read reads
  exact isRead.faultless

theorem Scan.withoutMark_of_head? {input : List Char}
    (unmarked : input.head? ≠ some byteOrderMark) : withoutMark input = input := by
  cases input with
  | nil => rfl
  | cons char rest => exact if_neg fun same => unmarked (congrArg some same)

namespace Document

variable {file : FileId} {input : List Char} {document : Document}

/--
In a text without a byte-order mark every attribute stands where its spans are, those of an element
one after another, and in every tag each search finds the attribute that was read.
-/
theorem isWritten_of_within (unmarked : input.head? ≠ some Scan.byteOrderMark)
    (reads : read file input = .ok document) :
    (∀ element, document.root.Within element →
      (∀ attr ∈ element.attributes, attr.IsWritten input) ∧
        element.attributes.Pairwise
          (fun attr later => attr.valueSpan.stop ≤ later.nameSpan.start)) ∧
      ∀ lexeme ∈ (Scan.ofText input).lexemes, ∀ content ∈ lexeme.token.elementContent?,
        AttributePlace.AreFound content (Text.byteLength (TagContent.nameOf content))
          (TagContent.ofContent content).attributes := by
  constructor
  · intro element within
    obtain ⟨front, content, inner, back, outer, text, tag, _⟩ :=
      exists_written_of_within reads within
    obtain ⟨items, isRead⟩ := ElementTag.exists_items_of_read tag
    rw [Scan.withoutMark_of_head? unmarked] at text
    have whole : input = front ++ ['<'] ++ content ++ (inner ++ ['>'] ++ back) := by simp [text]
    have size : Text.byteLength front + 1 = Text.byteLength (front ++ ['<']) := by
      rw [Text.byteLength_append]
      rfl
    obtain ⟨written, apart⟩ := TagItem.areWritten_of_ofAttributes
      (AttributePlace.areFound_of_faultless isRead.faultless) isRead.taken size
      (inner ++ ['>'] ++ back)
    have same : element.attributes.map Attribute.unresolved = _ := isRead.map_unresolved
    rw [← whole, ← same] at written
    rw [← same] at apart
    exact ⟨fun attr among => (written _ (List.mem_map_of_mem among)).2 attr rfl,
      List.pairwise_map.mp apart⟩
  · intro lexeme among content inside
    obtain ⟨last, run, _⟩ := exists_run_of_read reads
    obtain ⟨before, next, steps⟩ := Construction.exists_step_of_mem run among
    exact AttributePlace.areFound_of_faultless (Construction.faultless_of_step steps inside)

theorem isWritten_of_within_root :
    let input := "<a b =\"bb='>\" xmlns:b= 'b:c=\"\"' bb='&lt;b' b:c=\"\"\t/>".toList
    ∃ document, read default input = .ok document ∧
      document.root.attributes.map (·.name.written) = ["b", "bb", "b:c"] ∧
      (∀ attr ∈ document.root.attributes, attr.IsWritten input) ∧
      document.root.attributes.Pairwise
        (fun attr later => attr.valueSpan.stop ≤ later.nameSpan.start) := by
  intro input
  have facts : (read default input).toOption.map
      (fun document => document.root.attributes.map (·.name.written)) =
        some ["b", "bb", "b:c"] := by
    decide +kernel
  obtain ⟨document, reads, names⟩ := exists_of_map_read facts
  obtain ⟨written, apart⟩ :=
    (isWritten_of_within (by decide +kernel) reads).1 document.root .self
  exact ⟨document, reads, names, written, apart⟩

end Document
end BundleMarkup
