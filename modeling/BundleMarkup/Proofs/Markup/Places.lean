import BundleMarkup.Proofs.Markup.Derivation
import BundleMarkup.Proofs.Markup.TagReading

/-!
# Places of elements

The lexemes of a text stand in it one after another, so the stretch that an element is read from
stands there too, and the element's place and that of its name are found in it.  Offsets count the
bytes after the byte-order mark, if there is one.
-/

namespace BundleMarkup

/-- The characters that a span covers, if it starts and stops between characters. -/
def SourceSpan.cut? (span : SourceSpan) (text : List Char) : Option (List Char) :=
  Text.slice? text span.start span.stop

namespace Lexeme

/-- The characters that lexemes are made from. -/
def writtenAll (lexemes : List Lexeme) : List Char := lexemes.flatMap (·.token.written)

@[simp]
theorem writtenAll_nil : writtenAll [] = [] := rfl

@[simp]
theorem writtenAll_cons (first : Lexeme) (rest : List Lexeme) :
    writtenAll (first :: rest) = first.token.written ++ writtenAll rest := List.flatMap_cons

@[simp]
theorem writtenAll_append (front back : List Lexeme) :
    writtenAll (front ++ back) = writtenAll front ++ writtenAll back := List.flatMap_append

/-- From an offset on, each lexeme starts where the one before it stops. -/
inductive Follow : Nat → List Lexeme → Prop
  | nil (start : Nat) : Follow start []
  | cons {token : Token} {start : Nat} {rest : List Lexeme}
      (later : Follow (start + token.size) rest) :
      Follow start (⟨token, start, start + token.size⟩ :: rest)

theorem Follow.of_append {start : Nat} {front back : List Lexeme}
    (follow : Follow start (front ++ back)) :
    Follow start front ∧ Follow (start + Text.byteLength (writtenAll front)) back := by
  induction front generalizing start with
  | nil => exact ⟨.nil start, follow⟩
  | cons first rest ih =>
      cases follow with
      | cons later =>
          obtain ⟨inside, behind⟩ := ih later
          refine ⟨.cons inside, ?_⟩
          rwa [writtenAll_cons, Text.byteLength_append, ← Nat.add_assoc]

end Lexeme

/-- The lexemes of a text are written one after another, up to where no token can be taken. -/
theorem Scan.follow_ofTextFrom (start : Nat) (input : List Char) :
    Lexeme.Follow start (ofTextFrom start input).lexemes ∧
      ∃ rest, input = Lexeme.writtenAll (ofTextFrom start input).lexemes ++ rest := by
  fun_induction ofTextFrom start input with
  | case1 start => exact ⟨.nil start, [], rfl⟩
  | case2 start char others fault failed => exact ⟨.nil start, char :: others, rfl⟩
  | case3 start char others token rest taken stop later ih =>
      obtain ⟨follow, behind, written⟩ := ih
      refine ⟨.cons follow, behind, ?_⟩
      rw [Lexeme.writtenAll_cons, List.append_assoc, ← written]
      exact (Token.written_append_of_next taken).symm

theorem Scan.follow_ofText (input : List Char) :
    Lexeme.Follow 0 (ofText input).lexemes ∧
      ∃ rest, withoutMark input = Lexeme.writtenAll (ofText input).lexemes ++ rest :=
  follow_ofTextFrom 0 (withoutMark input)

/-- A stretch that an element is read from goes from the bracket of its tag to its last bracket. -/
theorem Piece.IsRead.written {origin : Origin} {outer : List (List Declaration)}
    {part : List Lexeme} {element : Element} {start : Nat}
    (isRead : IsRead origin outer ⟨part, some (.element element)⟩)
    (follow : Lexeme.Follow start part) :
    ∃ content inner, ElementTag.read origin outer start content = .ok element.tag ∧
      Lexeme.writtenAll part = '<' :: (content ++ inner ++ ['>']) ∧
      element.span = origin.span start (start + Text.byteLength (Lexeme.writtenAll part)) := by
  cases isRead with
  | @emptyTag _ content _ _ tag reads =>
      cases follow
      refine ⟨content, ['/'], reads, ?_, ?_⟩
      · simp [Token.written]
      · simp [ElementTag.element, Token.size]
  | @tags _ content name _ middle finish stop tag pieces reads inside same =>
      cases follow with
      | cons later =>
          cases later.of_append.2
          refine ⟨content,
            '>' :: (Lexeme.writtenAll (pieces.flatMap Piece.lexemes) ++ '<' :: '/' :: name),
            reads, ?_, ?_⟩
          · simp [Token.written]
          · simp [ElementTag.element, Token.size, Nat.add_assoc]

namespace Document

variable {file : FileId} {input : List Char} {document : Document} {element : Element}

/-- Every element of a document stands in the text at its place, and its tag is read there. -/
theorem exists_written_of_within (reads : read file input = .ok document)
    (within : document.root.Within element) :
    let origin : Origin := ⟨file, .ofText input⟩
    ∃ front content inner back outer,
      Scan.withoutMark input = front ++ ('<' :: (content ++ inner ++ ['>'])) ++ back ∧
      ElementTag.read origin outer (Text.byteLength front) content = .ok element.tag ∧
      element.span = origin.span (Text.byteLength front)
        (Text.byteLength front + Text.byteLength ('<' :: (content ++ inner ++ ['>']))) := by
  intro origin
  obtain ⟨outer, before, part, after, lexemes, isRead⟩ := exists_stretch_of_within reads within
  obtain ⟨follow, rest, text⟩ := Scan.follow_ofText input
  rw [lexemes] at follow text
  obtain ⟨content, inner, tag, written, span⟩ := isRead.written follow.of_append.1.of_append.2
  rw [Nat.zero_add] at tag span
  refine ⟨Lexeme.writtenAll before, content, inner, Lexeme.writtenAll after ++ rest, outer, ?_,
    tag, ?_⟩
  · rw [text, ← written]
    simp
  · rw [span, written]

/--
In the text after its byte-order mark, an element's name is what the span of the name covers, and
the span of the element covers what starts with a bracket and the name and stops with a bracket.
-/
theorem cut?_of_within (reads : read file input = .ok document)
    (within : document.root.Within element) :
    element.nameSpan.cut? (Scan.withoutMark input) = some element.name.written.toList ∧
      ∃ inside, element.span.cut? (Scan.withoutMark input) =
        some ('<' :: (element.name.written.toList ++ inside ++ ['>'])) := by
  obtain ⟨front, content, inner, back, outer, text, tag, span⟩ :=
    exists_written_of_within reads within
  obtain ⟨items, isRead⟩ := ElementTag.exists_items_of_read tag
  obtain ⟨uri, _, named⟩ := ElementTag.resolveName_eq_ok.mp isRead.name
  have written : element.name.written.toList = TagContent.nameOf content := by
    rw [show element.name = _ from named, Binding.written_splitName, String.toList_ofList]
  have nameSpan : element.nameSpan = _ := isRead.nameSpan
  obtain ⟨rest, whole⟩ : ∃ rest, content = TagContent.nameOf content ++ rest :=
    ⟨_, List.takeWhile_append_dropWhile.symm⟩
  rw [SourceSpan.cut?, SourceSpan.cut?, nameSpan, span, written, text]
  simp only [Origin.start_span, Origin.stop_span]
  generalize TagContent.nameOf content = name at whole ⊢
  subst whole
  constructor
  · have cut := Text.slice?_append (front ++ ['<']) name (rest ++ inner ++ ['>'] ++ back)
    have bracket : Text.byteLength ['<'] = 1 := rfl
    rw [Text.byteLength_append, bracket] at cut
    simpa using cut
  · exact ⟨rest ++ inner, by rw [Text.slice?_append]; simp⟩

theorem cut?_of_within_child :
    let input := "\ufeff<ä:a xmlns:ä='urn:a' > <ä:b/></ä:a >".toList
    ∃ document child, read default input = .ok document ∧ document.root.Within child ∧
      child.name.written = "ä:b" ∧
      child.nameSpan.cut? (Scan.withoutMark input) = some child.name.written.toList ∧
      ∃ inside, child.span.cut? (Scan.withoutMark input) =
        some ('<' :: (child.name.written.toList ++ inside ++ ['>'])) := by
  intro input
  have facts : (read default input).toOption.map
      (fun document => document.root.childElements.map (·.name.written)) = some ["ä:b"] := by
    decide +kernel
  obtain ⟨document, reads, names⟩ := exists_of_map_read facts
  obtain ⟨child, children, named⟩ := List.map_eq_singleton_iff.mp names
  have within : document.root.Within child := .child .self (by simp [children])
  obtain ⟨name, whole⟩ := cut?_of_within reads within
  exact ⟨document, child, reads, within, named, name, whole⟩

/-- A byte-order mark is not counted, so in the text itself its places miss what they are for. -/
theorem cut?_of_marked :
    let input := "\ufeff<a/>".toList
    ∃ document, read default input = .ok document ∧ document.root.name.written = "a" ∧
      document.root.nameSpan.cut? input = none ∧
      document.root.span.cut? input = some ['\ufeff', '<'] := by
  intro input
  have facts : (read default input).toOption.map (fun document =>
      (document.root.name.written, document.root.nameSpan.cut? input,
        document.root.span.cut? input)) = some ("a", none, some ['\ufeff', '<']) := by
    decide +kernel
  obtain ⟨document, reads, seen⟩ := exists_of_map_read facts
  obtain ⟨written, rest⟩ := Prod.mk.inj seen
  obtain ⟨name, whole⟩ := Prod.mk.inj rest
  exact ⟨document, reads, written, name, whole⟩

end Document
end BundleMarkup
