import BundleMarkup.Bundle.LaunchCondition
import BundleMarkup.Proofs.Markup.Places
import Mathlib.Data.List.DropRight
import Mathlib.Data.List.ReduceOption

/-!
# Text directly inside an element

Between the tags of an element its text may be cut up by comments, instructions, character data and
child elements.  What is read of it is the text as if it had never been cut, up to white space at
its ends; where there are child elements, white space between them is left out.
-/

namespace BundleMarkup

/-- The text that a lexeme is, with its references replaced. -/
def Lexeme.text? (lexeme : Lexeme) : Option String :=
  match lexeme.token with
  | .text raw => (Reference.decode raw).toOption.map String.ofList
  | .characterData content => some (String.ofList content)
  | _ => none

/-- The texts among lexemes, with nothing in the place of each element, and no texts of elements;
`depth` elements are open before. -/
def Lexeme.directly : Nat → List Lexeme → List (Option String)
  | _, [] => []
  | 0, lexeme :: rest =>
      match lexeme.token with
      | .startTag _ => none :: directly 1 rest
      | .emptyTag _ => none :: directly 0 rest
      | _ => lexeme.text?.toList.map some ++ directly 0 rest
  | depth + 1, lexeme :: rest =>
      match lexeme.token with
      | .startTag _ => directly (depth + 2) rest
      | .endTag _ => directly depth rest
      | _ => directly (depth + 1) rest

namespace Scan

/-- The lexemes that a span covers. -/
def covered (scan : Scan) (span : SourceSpan) : List Lexeme :=
  scan.lexemes.filter fun lexeme => span.start ≤ lexeme.start && lexeme.stop ≤ span.stop

/-- What stands directly between the tags of an element: texts, and nothing for each child. -/
def contentOf (scan : Scan) (element : Element) : List (Option String) :=
  Lexeme.directly 0 (scan.covered element.span).tail.dropLast

end Scan

namespace Piece

variable {origin : Origin} {outer : List (List Declaration)}

/-- Pieces that are passed over one by one are passed over together. -/
theorem directly_flatMap_of_passed {depth : Nat} {pieces : List Piece}
    (passed : ∀ piece ∈ pieces, ∀ rest,
      Lexeme.directly (depth + 1) (piece.lexemes ++ rest) = Lexeme.directly (depth + 1) rest)
    (rest : List Lexeme) :
    Lexeme.directly (depth + 1) (pieces.flatMap Piece.lexemes ++ rest) =
      Lexeme.directly (depth + 1) rest := by
  induction pieces with
  | nil => rfl
  | cons first others ih =>
      have later := ih fun piece among => passed piece (List.mem_cons_of_mem first among)
      rw [List.flatMap_cons, List.append_assoc, passed first List.mem_cons_self, later]

/-- A piece inside an open element is passed over. -/
theorem IsRead.directly_succ {piece : Piece} (isRead : piece.IsRead origin outer) (depth : Nat)
    (rest : List Lexeme) :
    Lexeme.directly (depth + 1) (piece.lexemes ++ rest) = Lexeme.directly (depth + 1) rest := by
  induction isRead generalizing depth rest with
  | text decodes => rfl
  | characterData => rfl
  | comment => rfl
  | instruction => rfl
  | doctype => rfl
  | emptyTag reads => rfl
  | @tags outer content name start middle finish stop tag pieces reads inside same ih =>
      have inner := directly_flatMap_of_passed (fun piece among => ih piece among (depth + 1))
        (⟨.endTag name, finish, stop⟩ :: rest)
      simpa [Lexeme.directly] using inner

/-- What a piece is outside all others: a text, a child or nothing. -/
theorem IsRead.directly_zero {piece : Piece} (isRead : piece.IsRead origin outer)
    (rest : List Lexeme) :
    Lexeme.directly 0 (piece.lexemes ++ rest) =
      piece.node.toList.map Node.text? ++ Lexeme.directly 0 rest := by
  cases isRead with
  | text decodes => simp [Lexeme.directly, Lexeme.text?, decodes, Except.toOption, Node.text?]
  | characterData => rfl
  | comment => rfl
  | instruction => rfl
  | doctype => rfl
  | emptyTag reads => rfl
  | @tags _ content name start middle finish stop tag pieces reads inside same =>
      have inner := directly_flatMap_of_passed
        (fun piece among rest => (inside piece among).directly_succ 0 rest)
        (⟨.endTag name, finish, stop⟩ :: rest)
      simpa [Lexeme.directly, Node.text?] using inner

/-- The pieces inside an element are its content. -/
theorem directly_flatMap {pieces : List Piece}
    (inside : ∀ piece ∈ pieces, piece.IsRead origin outer) :
    Lexeme.directly 0 (pieces.flatMap Piece.lexemes) =
      (pieces.filterMap Piece.node).map Node.text? := by
  induction pieces with
  | nil => rfl
  | cons first others ih =>
      have later := ih fun piece among => inside piece (List.mem_cons_of_mem first among)
      rw [List.flatMap_cons, (inside first List.mem_cons_self).directly_zero, later]
      cases node : first.node <;> simp [node]

/-- The content between the tags of a stretch is what the children of its element are made of. -/
theorem IsRead.exists_nodes {part : List Lexeme} {element : Element}
    (isRead : IsRead origin outer ⟨part, some (.element element)⟩) :
    ∃ nodes, element.children = .ofNodes nodes ∧
      Lexeme.directly 0 part.tail.dropLast = nodes.map Node.text? := by
  cases isRead with
  | emptyTag reads => exact ⟨[], rfl, rfl⟩
  | @tags _ content name start middle finish stop tag pieces reads inside same =>
      refine ⟨pieces.filterMap Piece.node, rfl, ?_⟩
      rw [List.tail_cons, List.dropLast_concat, directly_flatMap inside]

end Piece

theorem Scan.size_pos_of_mem {start : Nat} {input : List Char} {lexeme : Lexeme}
    (among : lexeme ∈ (ofTextFrom start input).lexemes) : 0 < lexeme.token.size := by
  fun_induction ofTextFrom start input with
  | case1 start => cases among
  | case2 start char others fault failed => cases among
  | case3 start char others token rest taken stop later ih =>
      rcases List.mem_cons.mp among with rfl | behind
      · have whole := Token.written_append_of_next taken
        have shorter := Token.length_lt_of_next taken (List.cons_ne_nil char others)
        rw [← whole, List.length_append] at shorter
        show 0 < Text.byteLength token.written
        cases written : token.written with
        | nil => simp [written] at shorter
        | cons first others =>
            have := first.utf8Size_pos
            rw [Text.byteLength_cons]
            omega
      · exact ih behind

namespace Lexeme

/-- Lexemes that follow one another lie between where they start and where they stop. -/
theorem Follow.bounds {start : Nat} {lexemes : List Lexeme} (follow : Follow start lexemes)
    {lexeme : Lexeme} (among : lexeme ∈ lexemes) :
    start ≤ lexeme.start ∧ lexeme.stop = lexeme.start + lexeme.token.size ∧
      lexeme.stop ≤ start + Text.byteLength (writtenAll lexemes) := by
  induction follow with
  | nil start => cases among
  | @cons token start rest later ih =>
      have size : Text.byteLength token.written = token.size := rfl
      rw [writtenAll_cons, Text.byteLength_append, size]
      rcases List.mem_cons.mp among with rfl | behind
      · refine ⟨Nat.le_refl start, rfl, ?_⟩
        show start + token.size ≤ _
        omega
      · obtain ⟨after, stops, before⟩ := ih behind
        exact ⟨by omega, stops, by omega⟩

/-- Of lexemes that follow one another, a span covers the stretch between its ends. -/
theorem Follow.filter_eq {start : Nat} {before part after : List Lexeme}
    (follow : Follow start (before ++ part ++ after))
    (sized : ∀ lexeme ∈ before ++ part ++ after, 0 < lexeme.token.size) :
    let first := start + Text.byteLength (writtenAll before)
    let last := first + Text.byteLength (writtenAll part)
    (before ++ part ++ after).filter (fun lexeme => first ≤ lexeme.start && lexeme.stop ≤ last) =
      part := by
  intro first last
  obtain ⟨front, behind⟩ := follow.of_append
  obtain ⟨ahead, inside⟩ := front.of_append
  rw [writtenAll_append, Text.byteLength_append, ← Nat.add_assoc] at behind
  have none_before : before.filter (fun lexeme => first ≤ lexeme.start && lexeme.stop ≤ last) =
      [] := by
    refine List.filter_eq_nil_iff.mpr fun lexeme among => ?_
    have size := sized lexeme (by simp [among])
    obtain ⟨_, stops, bound⟩ := ahead.bounds among
    simp only [Bool.and_eq_true, decide_eq_true_eq]
    omega
  have all_inside : part.filter (fun lexeme => first ≤ lexeme.start && lexeme.stop ≤ last) =
      part := by
    refine List.filter_eq_self.mpr fun lexeme among => ?_
    obtain ⟨starts, _, bound⟩ := inside.bounds among
    simp only [Bool.and_eq_true, decide_eq_true_eq]
    omega
  have none_after : after.filter (fun lexeme => first ≤ lexeme.start && lexeme.stop ≤ last) =
      [] := by
    refine List.filter_eq_nil_iff.mpr fun lexeme among => ?_
    have size := sized lexeme (by simp [among])
    obtain ⟨starts, stops, _⟩ := behind.bounds among
    simp only [Bool.and_eq_true, decide_eq_true_eq]
    omega
  rw [List.filter_append, List.filter_append, none_before, all_inside, none_after,
    List.nil_append, List.append_nil]

end Lexeme

namespace Document

variable {file : FileId} {input : List Char} {document : Document} {element : Element}

/-- The children of an element of a document are made of what stands between its tags. -/
theorem exists_nodes_of_within (reads : read file input = .ok document)
    (within : document.root.Within element) :
    ∃ nodes, element.children = .ofNodes nodes ∧
      (Scan.ofText input).contentOf element = nodes.map Node.text? := by
  obtain ⟨outer, before, part, after, lexemes, isRead⟩ := exists_stretch_of_within reads within
  obtain ⟨follow, _⟩ := Scan.follow_ofText input
  rw [lexemes] at follow
  have sized : ∀ lexeme ∈ before ++ part ++ after, 0 < lexeme.token.size := by
    rw [← lexemes]
    exact fun lexeme among => Scan.size_pos_of_mem among
  obtain ⟨_, _, _, _, span⟩ := isRead.written follow.of_append.1.of_append.2
  have covered : (Scan.ofText input).covered element.span = part := by
    rw [Scan.covered, span, lexemes, Origin.start_span, Origin.stop_span]
    exact follow.filter_eq sized
  rw [Scan.contentOf, covered]
  exact isRead.exists_nodes

end Document

namespace DirectText

/-- Whether a text consists of white space. -/
def isBlank (text : String) : Bool := Text.allBlank text.toList

/-- The stretches of texts that no child stands between, where the first begins with given texts. -/
def stretches (begun : List String) : List (Option String) → List (List String)
  | [] => [begun]
  | none :: rest => begun :: stretches [] rest
  | some text :: rest => stretches (begun ++ [text]) rest

/-- The texts of a content; where there are children, stretches of white space are left out. -/
def kept (content : List (Option String)) : List String :=
  if none ∈ content then
    ((stretches [] content).filter fun stretch => !stretch.all isBlank).flatten
  else
    content.reduceOption

/-- Whether texts of white space stand at the ends only; texts without a character do not count. -/
def isUnbroken (texts : List String) : Bool :=
  ((texts.dropWhile isBlank).rdropWhile isBlank).all fun text => text = "" || !isBlank text

theorem flatten_stretches (begun : List String) (content : List (Option String)) :
    (stretches begun content).flatten = begun ++ content.reduceOption := by
  fun_induction stretches begun content with
  | case1 begun => simp
  | case2 begun rest ih => simp [ih]
  | case3 begun text rest ih => simp [ih]

/-- Leaving out stretches of white space leaves out no text that says something. -/
theorem filter_kept (content : List (Option String)) :
    (kept content).filter (!isBlank ·) = content.reduceOption.filter (!isBlank ·) := by
  have filtered (list : List (List String)) :
      ((list.filter fun stretch => !stretch.all isBlank).flatten).filter (!isBlank ·) =
        list.flatten.filter (!isBlank ·) := by
    induction list with
    | nil => rfl
    | cons stretch rest ih =>
        rw [List.flatten_cons, List.filter_append, ← ih, List.filter_cons]
        cases blank : stretch.all isBlank with
        | false => simp
        | true =>
            have silent : stretch.filter (!isBlank ·) = [] := by
              simpa using blank
            simp [silent]
  unfold kept
  split
  · rw [filtered, flatten_stretches, List.nil_append]
  · rfl

theorem allBlank_join {texts : List String} (blank : ∀ text ∈ texts, isBlank text = true) :
    Text.allBlank (String.join texts).toList = true := by
  rw [String.toList_join, Text.allBlank, List.all_flatMap]
  exact List.all_eq_true.mpr blank

theorem join_filter {texts : List String}
    (said : ∀ text ∈ texts, (text = "" || !isBlank text) = true) :
    String.join (texts.filter (!isBlank ·)) = String.join texts := by
  induction texts with
  | nil => rfl
  | cons text rest ih =>
      have later := ih fun other among => said other (List.mem_cons_of_mem text among)
      rw [List.filter_cons, String.join_cons, ← later]
      cases blank : isBlank text with
      | false => simp
      | true =>
          have empty : text = "" := by simpa [blank] using said text List.mem_cons_self
          simp [empty]

/-- Of an unbroken text, blank pieces may be left out: they are at its ends or say nothing. -/
theorem trim_join_filter {texts : List String} (unbroken : isUnbroken texts = true) :
    Text.trim (String.join (texts.filter (!isBlank ·))).toList =
      Text.trim (String.join texts).toList := by
  let front := texts.takeWhile isBlank
  let middle := (texts.dropWhile isBlank).rdropWhile isBlank
  let back := (texts.dropWhile isBlank).rtakeWhile isBlank
  have split : texts = front ++ (middle ++ back) := by
    rw [List.rdropWhile_append_rtakeWhile, List.takeWhile_append_dropWhile]
  have front_blank : ∀ text ∈ front, isBlank text = true := fun _ => List.mem_takeWhile_imp
  have back_blank : ∀ text ∈ back, isBlank text = true := fun _ => List.mem_rtakeWhile_imp
  have silent {list : List String} (blank : ∀ text ∈ list, isBlank text = true) :
      list.filter (!isBlank ·) = [] := by
    simpa using blank
  have inner : String.join (middle.filter (!isBlank ·)) = String.join middle :=
    join_filter (List.all_eq_true.mp unbroken)
  rw [split, List.filter_append, List.filter_append, silent front_blank, silent back_blank,
    List.nil_append, List.append_nil, inner, String.join_append, String.join_append,
    String.toList_append, String.toList_append,
    Text.trim_append_of_allBlank_left (allBlank_join front_blank),
    Text.trim_append_of_allBlank_right (allBlank_join back_blank)]

end DirectText

namespace Children

/-- Where there are child elements, what is left of the text is what is not blank. -/
theorem innerText_ofNodes_of_any {nodes : List Node} (any : nodes.any Node.isElement = true) :
    (ofNodes nodes).innerText =
      String.join ((nodes.filterMap Node.text?).filter (!DirectText.isBlank ·)) := by
  have texts : (nodes.filter (!·.isBlank)).filterMap Node.text? =
      (nodes.filterMap Node.text?).filter (!DirectText.isBlank ·) := by
    rw [List.filterMap_filter, List.filter_filterMap]
    refine List.filterMap_congr fun node _ => ?_
    cases node with
    | element child => rfl
    | text content span => simp [Node.isBlank, Node.text?, DirectText.isBlank, Option.filter]
  unfold ofNodes
  rw [if_pos any, ← texts]
  simp only []
  split
  · rename_i all
    have silent : (nodes.filter (!·.isBlank)).filterMap Node.text? = [] := by
      refine List.filterMap_eq_nil_iff.mpr fun node among => ?_
      have is := List.all_eq_true.mp all node among
      cases node with
      | element child => rfl
      | text content span => cases is
    rw [silent]
    rfl
  · rfl

theorem innerText_ofNodes_of_not_any {nodes : List Node} (none : nodes.any Node.isElement = false) :
    (ofNodes nodes).innerText = String.join (nodes.filterMap Node.text?) := by
  unfold ofNodes
  rw [if_neg (by simp [none])]
  cases nodes <;> rfl

theorem count_none_map_text? (nodes : List Node) :
    (nodes.map Node.text?).count none = (ofNodes nodes).childElements.length := by
  rw [childElements_ofNodes]
  induction nodes with
  | nil => rfl
  | cons node rest ih =>
      cases node with
      | element child => simp [Node.text?, Node.element?, ih]
      | text content span => simp [Node.text?, Node.element?, List.filterMap_cons, ih]

theorem none_mem_map_text? (nodes : List Node) :
    none ∈ nodes.map Node.text? ↔ nodes.any Node.isElement = true := by
  rw [List.mem_map, List.any_eq_true]
  refine exists_congr fun node => and_congr_right fun _ => ?_
  cases node <;> simp [Node.text?, Node.isElement]

/-- The text of children is, up to white space at its ends, what is kept of their content. -/
theorem trim_innerText_ofNodes {nodes : List Node}
    (unbroken : none ∈ nodes.map Node.text? →
      DirectText.isUnbroken (DirectText.kept (nodes.map Node.text?)) = true) :
    Text.trim (ofNodes nodes).innerText.toList =
      Text.trim (String.join (DirectText.kept (nodes.map Node.text?))).toList := by
  have texts : (nodes.map Node.text?).reduceOption = nodes.filterMap Node.text? := by
    rw [List.reduceOption, List.filterMap_map]
    rfl
  by_cases child : none ∈ nodes.map Node.text?
  · have any := (none_mem_map_text? nodes).mp child
    rw [innerText_ofNodes_of_any any, ← texts, ← DirectText.filter_kept,
      DirectText.trim_join_filter (unbroken child)]
  · have any : nodes.any Node.isElement = false := by simpa [none_mem_map_text?] using child
    rw [innerText_ofNodes_of_not_any any, DirectText.kept, if_neg child, texts]

end Children

namespace Document

/--
The text of an element is, up to white space at its ends, the texts directly between its tags, in
order and joined; where there are child elements, stretches of white space between them are left
out.  So the expression of a condition is that of a condition with just this text.  Within a stretch
that says something, pieces of nothing but white space may stand at the ends of the whole only.
-/
theorem innerText_of_within {file : FileId} {input : List Char} {document : Document}
    (reads : read file input = .ok document) {element : Element}
    (within : document.root.Within element)
    (unbroken : none ∈ (Scan.ofText input).contentOf element →
      DirectText.isUnbroken (DirectText.kept ((Scan.ofText input).contentOf element)) = true) :
    let content := (Scan.ofText input).contentOf element
    let joined := String.join (DirectText.kept content)
    content.count none = element.childElements.length ∧
      Text.trim element.innerText.toList = Text.trim joined.toList ∧
      LaunchCondition.expression? element =
        LaunchCondition.expression? { element with children := .text joined element.span } := by
  intro content joined
  obtain ⟨nodes, children, same⟩ := exists_nodes_of_within reads within
  have text : Text.trim element.innerText.toList = Text.trim joined.toList := by
    rw [same] at unbroken
    rw [Element.innerText, children, Children.trim_innerText_ofNodes unbroken]
    simp only [joined, content, same]
  refine ⟨?_, text, LaunchCondition.expression?_congr text⟩
  rw [Element.childElements, children, ← Children.count_none_map_text?]
  simp only [content, same]

/-- A text cut up by a comment, a child with text of its own, white space and character data. -/
theorem innerText_of_within_cut :
    let input := ("<Condition>VersionNT <!-- at least -->&gt;=<n/> <n> x </n><![CDATA[ v6.0]]> " ++
      "<?stop?></Condition>").toList
    let content := [some "VersionNT ", some ">=", none, some " ", none, some " v6.0", some " "]
    ∃ document, read default input = .ok document ∧ document.root.Within document.root ∧
      (Scan.ofText input).contentOf document.root = content ∧
      (none ∈ content → DirectText.isUnbroken (DirectText.kept content) = true) ∧
      content.count none = document.root.childElements.length ∧
      LaunchCondition.expression? document.root = some "VersionNT >= v6.0" := by
  intro input content
  have facts : (read default input).toOption.map
      (fun document => (Scan.ofText input).contentOf document.root) = some content := by
    decide +kernel
  obtain ⟨document, reads, same⟩ := exists_of_map_read facts
  have unbroken : none ∈ content → DirectText.isUnbroken (DirectText.kept content) = true :=
    fun _ => by decide +kernel
  obtain ⟨count, text, _⟩ := innerText_of_within reads .self (same.symm ▸ unbroken)
  rw [same] at count text
  have joined : String.join (DirectText.kept content) = "VersionNT >= v6.0 " := by decide +kernel
  refine ⟨document, reads, .self, same, unbroken, count, ?_⟩
  rw [LaunchCondition.expression?, text, joined]
  decide +kernel

/-- White space between two children is not part of the text. -/
theorem innerText_of_blank_between :
    let input := "<Condition>A<n/> <n/>B</Condition>".toList
    ∃ document, read default input = .ok document ∧
      String.join ((Scan.ofText input).contentOf document.root).reduceOption = "A B" ∧
      document.root.innerText = "AB" ∧
      LaunchCondition.expression? document.root = some "AB" ∧
      LaunchCondition.expression? { document.root with children := .text "A B" default } =
        some "A B" := by
  intro input
  have facts : (read default input).toOption.map (fun document =>
      (String.join ((Scan.ofText input).contentOf document.root).reduceOption,
        document.root.innerText, LaunchCondition.expression? document.root,
        LaunchCondition.expression? { document.root with children := .text "A B" default })) =
      some ("A B", "AB", some "AB", some "A B") := by
    decide +kernel
  obtain ⟨document, reads, seen⟩ := exists_of_map_read facts
  simp only [Prod.mk.injEq] at seen
  exact ⟨document, reads, seen⟩

end Document
end BundleMarkup
