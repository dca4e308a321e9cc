import BundleMarkup.Proofs.Markup.Nesting

/-!
# Derivations

The lexemes of a document nest as its elements do.  An element is read from a stretch of lexemes
that goes from its start tag to its end tag, and the stretches of what stands inside it follow one
another in between.  A construction is compared with the lexemes read so far: each belongs to one
piece, complete or not, and the pieces are in order.
-/

namespace BundleMarkup

/-- The element that a tag makes with what stands behind it. -/
def ElementTag.element (tag : ElementTag) (children : Children) (span : SourceSpan) : Element :=
  { name := tag.name
    nameSpan := tag.nameSpan
    attributes := tag.attributes
    declarations := tag.declarations
    children
    span }

/-- A stretch of lexemes with the node that is read from it, if there is one. -/
structure Piece where
  lexemes : List Lexeme
  node : Option Node

namespace Piece

/-- The element of a piece, if it is one. -/
def element? (piece : Piece) : Option Element := piece.node.bind Node.element?

/-- A piece is read inside elements that make declarations, innermost first. -/
inductive IsRead (origin : Origin) : List (List Declaration) → Piece → Prop
  | text {outer : List (List Declaration)} {raw content : List Char} {start stop : Nat}
      (decodes : Reference.decode raw = .ok content) :
      IsRead origin outer
        ⟨[⟨.text raw, start, stop⟩],
          some (.text (String.ofList content) (origin.span start stop))⟩
  | characterData {outer : List (List Declaration)} {content : List Char} {start stop : Nat} :
      IsRead origin outer
        ⟨[⟨.characterData content, start, stop⟩],
          some (.text (String.ofList content) (origin.span start stop))⟩
  | comment {outer : List (List Declaration)} {content : List Char} {start stop : Nat} :
      IsRead origin outer ⟨[⟨.comment content, start, stop⟩], none⟩
  | instruction {outer : List (List Declaration)} {content : List Char} {start stop : Nat} :
      IsRead origin outer ⟨[⟨.instruction content, start, stop⟩], none⟩
  | doctype {outer : List (List Declaration)} {keyword content : List Char} {start stop : Nat} :
      IsRead origin outer ⟨[⟨.doctype keyword content, start, stop⟩], none⟩
  | emptyTag {outer : List (List Declaration)} {content : List Char} {start stop : Nat}
      {tag : ElementTag} (reads : ElementTag.read origin outer start content = .ok tag) :
      IsRead origin outer
        ⟨[⟨.emptyTag content, start, stop⟩],
          some (.element (tag.element .empty (origin.span start stop)))⟩
  /-- Between the tags of an element its pieces are read inside its declarations too. -/
  | tags {outer : List (List Declaration)} {content name : List Char}
      {start middle finish stop : Nat} {tag : ElementTag} {pieces : List Piece}
      (reads : ElementTag.read origin outer start content = .ok tag)
      (inside : ∀ piece ∈ pieces, IsRead origin (tag.declarations :: outer) piece)
      (same : tag.name.written = String.ofList (Construction.endName name)) :
      IsRead origin outer
        ⟨⟨.startTag content, start, middle⟩ ::
            (pieces.flatMap Piece.lexemes ++ [⟨.endTag name, finish, stop⟩]),
          some (.element
            (tag.element (.ofNodes (pieces.filterMap Piece.node)) (origin.span start stop)))⟩

theorem mem_filterMap_element? {pieces : List Piece} {element : Element} :
    element ∈ pieces.filterMap Piece.element? ↔
      ∃ piece ∈ pieces, piece.node = some (.element element) := by
  simp only [List.mem_filterMap, element?]
  refine exists_congr fun piece => and_congr_right fun _ => ?_
  cases found : piece.node with
  | none => simp
  | some node => cases node <;> simp [Node.element?]

/-- What a piece of an element's children is read from is a stretch of what the element is. -/
theorem IsRead.of_mem_childElements {origin : Origin} {outer : List (List Declaration)}
    {part : List Lexeme} {parent child : Element}
    (isRead : IsRead origin outer ⟨part, some (.element parent)⟩)
    (among : child ∈ parent.childElements) :
    ∃ before inner after, part = before ++ inner ++ after ∧
      IsRead origin (parent.declarations :: outer) ⟨inner, some (.element child)⟩ := by
  cases isRead with
  | emptyTag reads => cases among
  | @tags _ content name start middle finish stop tag pieces reads inside same =>
      have among : child ∈ (pieces.filterMap Piece.node).filterMap Node.element? := by
        rwa [← Children.childElements_ofNodes]
      rw [List.filterMap_filterMap] at among
      obtain ⟨⟨inner, node⟩, member, found⟩ := mem_filterMap_element?.mp among
      obtain rfl : node = some (.element child) := found
      obtain ⟨front, back, rfl⟩ := List.append_of_mem member
      refine ⟨⟨.startTag content, start, middle⟩ :: front.flatMap Piece.lexemes, inner,
        back.flatMap Piece.lexemes ++ [⟨.endTag name, finish, stop⟩], ?_, inside _ member⟩
      simp

end Piece

/-- An element is another one or stands inside it, at any depth. -/
inductive Element.Within (root : Element) : Element → Prop
  | self : Within root root
  | child {parent child : Element} (within : Within root parent)
      (among : child ∈ parent.childElements) : Within root child

/-- Every element inside one that is read is read from a stretch of its own. -/
theorem Piece.IsRead.of_within {origin : Origin} {outer : List (List Declaration)}
    {part : List Lexeme} {root element : Element}
    (isRead : IsRead origin outer ⟨part, some (.element root)⟩)
    (within : root.Within element) :
    ∃ frames before inner after, part = before ++ inner ++ after ∧
      IsRead origin frames ⟨inner, some (.element element)⟩ := by
  induction within with
  | self => exact ⟨outer, [], part, [], by simp, isRead⟩
  | child _ among ih =>
      obtain ⟨frames, before, inner, after, rfl, parent⟩ := ih
      obtain ⟨front, stretch, back, rfl, child⟩ := parent.of_mem_childElements among
      exact ⟨_, before ++ front, stretch, back ++ after, by simp, child⟩

namespace OpenElement

/-- An open element is read from its start tag and the pieces behind that. -/
inductive IsRead (origin : Origin) (outer : List (List Declaration)) :
    List Lexeme → OpenElement → Prop
  | intro {content : List Char} {start middle : Nat} {tag : ElementTag} {pieces : List Piece}
      (reads : ElementTag.read origin outer start content = .ok tag)
      (inside : ∀ piece ∈ pieces, piece.IsRead origin (tag.declarations :: outer)) :
      IsRead origin outer (⟨.startTag content, start, middle⟩ :: pieces.flatMap Piece.lexemes)
        { OpenElement.ofTag tag start with nodes := (pieces.filterMap Piece.node).reverse }

/-- Open elements, innermost first, are read from stretches that follow one another. -/
inductive AreRead (origin : Origin) : List Lexeme → List OpenElement → Prop
  | nil : AreRead origin [] []
  | cons {before part : List Lexeme} {outer : List OpenElement} {element : OpenElement}
      (around : AreRead origin before outer)
      (inside : element.IsRead origin (outer.map OpenElement.declarations) part) :
      AreRead origin (before ++ part) (element :: outer)

variable {origin : Origin} {outer : List (List Declaration)} {part : List Lexeme}
  {element : OpenElement}

/-- A piece that is read next belongs to the open element. -/
theorem IsRead.push (isRead : element.IsRead origin outer part) {piece : Piece}
    (reads : piece.IsRead origin (element.declarations :: outer)) :
    IsRead origin outer (part ++ piece.lexemes)
      { element with nodes := piece.node.toList ++ element.nodes } := by
  obtain @⟨content, start, middle, tag, pieces, read, inside⟩ := isRead
  have all : ∀ other ∈ pieces ++ [piece], other.IsRead origin (tag.declarations :: outer) := by
    intro other among
    rcases List.mem_append.mp among with before | last
    · exact inside other before
    · exact List.mem_singleton.mp last ▸ reads
  have pushed := @IsRead.intro origin outer content start middle tag _ read all
  cases node : piece.node <;> simpa [node, List.filterMap_append] using pushed

/-- With its end tag an open element is a piece. -/
theorem IsRead.close (isRead : element.IsRead origin outer part) {name : List Char}
    (same : element.name.written = String.ofList (Construction.endName name))
    (finish stop : Nat) :
    Piece.IsRead origin outer
      ⟨part ++ [⟨.endTag name, finish, stop⟩],
        some (.element (element.close origin stop))⟩ := by
  obtain @⟨content, start, middle, tag, pieces, read, inside⟩ := isRead
  have closed := @Piece.IsRead.tags origin outer content name start middle finish stop tag pieces
    read inside same
  simpa [OpenElement.close, ofTag, ElementTag.element] using closed

end OpenElement

namespace Construction

/--
A construction is read from lexemes: the pieces outside all elements, of which at most one is an
element itself, and after them the open elements.
-/
inductive IsRead (origin : Origin) : List Lexeme → Construction → Prop
  | intro {pieces : List Piece} {part : List Lexeme} {stack : List OpenElement}
      {root : Option Element} (outside : ∀ piece ∈ pieces, piece.IsRead origin [])
      (only : pieces.filterMap Piece.element? = root.toList)
      (opened : OpenElement.AreRead origin part stack) :
      IsRead origin (pieces.flatMap Piece.lexemes ++ part) ⟨stack, root⟩

variable {origin : Origin} {lexemes : List Lexeme} {state : Construction}

theorem isRead_initial (origin : Origin) : IsRead origin [] .initial :=
  @IsRead.intro origin [] [] [] none (List.forall_mem_nil _) rfl .nil

/-- A piece inside an open element belongs to the innermost one. -/
theorem IsRead.push {parent : OpenElement} {outer : List OpenElement} {root : Option Element}
    (isRead : IsRead origin lexemes ⟨parent :: outer, root⟩) {piece : Piece}
    (reads : piece.IsRead origin (frames ⟨parent :: outer, root⟩)) :
    IsRead origin (lexemes ++ piece.lexemes)
      ⟨{ parent with nodes := piece.node.toList ++ parent.nodes } :: outer, root⟩ := by
  obtain ⟨outside, only, opened⟩ := isRead
  obtain - | ⟨around, inside⟩ := opened
  rw [List.append_assoc, List.append_assoc]
  exact .intro outside only (.cons around (inside.push reads))

/-- A piece outside all elements comes last, and it may be the root. -/
theorem IsRead.add {root next : Option Element} (isRead : IsRead origin lexemes ⟨[], root⟩)
    {piece : Piece} (reads : piece.IsRead origin [])
    (only : next.toList = root.toList ++ piece.element?.toList) :
    IsRead origin (lexemes ++ piece.lexemes) ⟨[], next⟩ := by
  obtain @⟨pieces, _, _, _, outside, before, opened⟩ := isRead
  cases opened
  have all : ∀ other ∈ pieces ++ [piece], other.IsRead origin [] := by
    intro other among
    rcases List.mem_append.mp among with front | last
    · exact outside other front
    · exact List.mem_singleton.mp last ▸ reads
  have elements : (pieces ++ [piece]).filterMap Piece.element? = next.toList := by
    rw [only, List.filterMap_append, before]
    cases found : piece.element? <;> simp [found]
  simpa using IsRead.intro all elements .nil

/-- Without its innermost open element a construction is read from the lexemes before that. -/
theorem IsRead.pop {element : OpenElement} {outer : List OpenElement} {root : Option Element}
    (isRead : IsRead origin lexemes ⟨element :: outer, root⟩) :
    ∃ before part, lexemes = before ++ part ∧ IsRead origin before ⟨outer, root⟩ ∧
      element.IsRead origin (frames ⟨outer, root⟩) part := by
  obtain ⟨outside, only, opened⟩ := isRead
  obtain - | ⟨around, inside⟩ := opened
  exact ⟨_, _, (List.append_assoc ..).symm, .intro outside only around, inside⟩

theorem IsRead.attach (isRead : IsRead origin lexemes state) {part : List Lexeme}
    {element : Element}
    (reads : Piece.IsRead origin state.frames ⟨part, some (.element element)⟩)
    {next : Construction} (attaches : state.attach element = .ok next) :
    IsRead origin (lexemes ++ part) next := by
  obtain ⟨stack, root⟩ := state
  cases stack with
  | cons parent outer =>
      obtain rfl := Except.ok.inj attaches
      exact isRead.push reads
  | nil =>
      cases root with
      | some root => cases attaches
      | none =>
          obtain rfl := Except.ok.inj attaches
          exact isRead.add reads rfl

theorem IsRead.addText (isRead : IsRead origin lexemes state) {lexeme : Lexeme}
    {content : List Char} {span : SourceSpan}
    (reads : Piece.IsRead origin state.frames
      ⟨[lexeme], some (.text (String.ofList content) span)⟩) :
    IsRead origin (lexemes ++ [lexeme]) (state.addText content span) := by
  obtain ⟨stack, root⟩ := state
  cases stack with
  | cons parent outer => exact isRead.push reads
  | nil => exact isRead.add reads (List.append_nil _).symm

theorem IsRead.pass (isRead : IsRead origin lexemes state) {lexeme : Lexeme}
    (reads : Piece.IsRead origin state.frames ⟨[lexeme], none⟩) :
    IsRead origin (lexemes ++ [lexeme]) state := by
  obtain ⟨stack, root⟩ := state
  cases stack with
  | cons parent outer => exact isRead.push reads
  | nil => exact isRead.add reads (List.append_nil _).symm

theorem IsRead.close (isRead : IsRead origin lexemes state) {name : List Char}
    {start stop : Nat} {next : Construction}
    (closes : close origin state (String.ofList (endName name)) start stop = .ok next) :
    IsRead origin (lexemes ++ [⟨.endTag name, start, stop⟩]) next := by
  obtain ⟨stack, root⟩ := state
  cases stack with
  | nil => cases closes
  | cons element outer =>
      simp only [Construction.close] at closes
      split at closes
      · rename_i same
        obtain ⟨before, part, rfl, around, inside⟩ := isRead.pop
        rw [List.append_assoc]
        exact around.attach (inside.close same start stop) closes
      · cases closes

/-- A step reads one more lexeme. -/
theorem IsRead.step (isRead : IsRead origin lexemes state) {lexeme : Lexeme}
    {next : Construction} (steps : step origin state lexeme = .ok next) :
    IsRead origin (lexemes ++ [lexeme]) next := by
  obtain ⟨token, start, stop⟩ := lexeme
  cases token with
  | startTag content =>
      simp only [Construction.step] at steps
      cases reads : ElementTag.read origin state.frames start content with
      | error error =>
          rw [reads] at steps
          cases steps
      | ok tag =>
          rw [reads] at steps
          obtain rfl := Except.ok.inj steps
          obtain ⟨outside, only, opened⟩ := isRead
          have inside : (OpenElement.ofTag tag start).IsRead origin _
              [⟨.startTag content, start, stop⟩] :=
            @OpenElement.IsRead.intro origin _ content start stop tag [] reads
              (List.forall_mem_nil _)
          rw [List.append_assoc]
          exact .intro outside only (.cons opened inside)
  | emptyTag content =>
      simp only [Construction.step] at steps
      cases reads : ElementTag.read origin state.frames start content with
      | error error =>
          rw [reads] at steps
          cases steps
      | ok tag =>
          rw [reads] at steps
          exact isRead.attach (.emptyTag reads) steps
  | endTag name => exact isRead.close steps
  | text raw =>
      simp only [Construction.step] at steps
      split at steps
      · rename_i decodes
        obtain rfl := Except.ok.inj steps
        exact isRead.addText (.text decodes)
      · cases steps
  | characterData content =>
      obtain rfl := Except.ok.inj steps
      exact isRead.addText .characterData
  | comment content =>
      obtain rfl := Except.ok.inj steps
      exact isRead.pass .comment
  | instruction content =>
      obtain rfl := Except.ok.inj steps
      exact isRead.pass .instruction
  | doctype keyword content =>
      obtain rfl := Except.ok.inj steps
      exact isRead.pass .doctype

/-- A run reads all its lexemes. -/
theorem IsRead.foldlM_step (isRead : IsRead origin lexemes state) {later : List Lexeme}
    {last : Construction} (run : later.foldlM (Construction.step origin) state = .ok last) :
    IsRead origin (lexemes ++ later) last := by
  induction later generalizing lexemes state with
  | nil =>
      obtain rfl := Except.ok.inj run
      rwa [List.append_nil]
  | cons lexeme later ih =>
      rw [List.foldlM_cons] at run
      cases steps : Construction.step origin state lexeme with
      | error error =>
          rw [steps] at run
          cases run
      | ok next =>
          rw [steps] at run
          rw [List.append_cons]
          exact ih (isRead.step steps) run

end Construction

namespace Document

/-- The root of a document is what a construction over all lexemes of its text comes to. -/
theorem exists_run_of_read {file : FileId} {input : List Char} {document : Document}
    (reads : read file input = .ok document) :
    ∃ last, (Scan.ofText input).lexemes.foldlM (Construction.step ⟨file, .ofText input⟩)
      .initial = .ok last ∧ last.finish = .ok document.root := by
  rw [read, rootOfScan] at reads
  cases run : (Scan.ofText input).lexemes.foldlM (Construction.step ⟨file, .ofText input⟩)
      .initial with
  | error error =>
      rw [run] at reads
      cases reads
  | ok last =>
      rw [run] at reads
      cases fault : (Scan.ofText input).fault with
      | some fault =>
          rw [fault] at reads
          cases reads
      | none =>
          rw [fault] at reads
          cases finishes : last.finish with
          | error error =>
              simp only [bind, Except.bind, finishes] at reads
              cases reads
          | ok root =>
              simp only [bind, Except.bind, finishes] at reads
              obtain rfl := Except.ok.inj reads
              exact ⟨last, rfl, finishes⟩

/-- The lexemes of a document are those of its pieces, of which the root is the only element. -/
theorem exists_pieces_of_read {file : FileId} {input : List Char} {document : Document}
    (reads : read file input = .ok document) :
    ∃ pieces : List Piece, (Scan.ofText input).lexemes = pieces.flatMap Piece.lexemes ∧
      (∀ piece ∈ pieces, piece.IsRead ⟨file, .ofText input⟩ []) ∧
      pieces.filterMap Piece.element? = [document.root] := by
  obtain ⟨last, run, finishes⟩ := exists_run_of_read reads
  have isRead := (Construction.isRead_initial _).foldlM_step run
  rw [List.nil_append] at isRead
  obtain ⟨stack, root⟩ := last
  cases stack with
  | cons element outer => cases finishes
  | nil =>
      cases root with
      | none => cases finishes
      | some root =>
          obtain rfl := Except.ok.inj finishes
          generalize (Scan.ofText input).lexemes = lexemes at isRead ⊢
          obtain @⟨pieces, _, _, _, outside, only, opened⟩ := isRead
          cases opened
          exact ⟨pieces, List.append_nil _, outside, only⟩

/-- Every element of a document is read from a stretch of its lexemes. -/
theorem exists_stretch_of_within {file : FileId} {input : List Char} {document : Document}
    (reads : read file input = .ok document) {element : Element}
    (within : document.root.Within element) :
    ∃ frames before part after, (Scan.ofText input).lexemes = before ++ part ++ after ∧
      Piece.IsRead ⟨file, .ofText input⟩ frames ⟨part, some (.element element)⟩ := by
  obtain ⟨pieces, lexemes, outside, only⟩ := exists_pieces_of_read reads
  have among : document.root ∈ pieces.filterMap Piece.element? := by simp [only]
  obtain ⟨⟨whole, node⟩, member, found⟩ := Piece.mem_filterMap_element?.mp among
  obtain rfl : node = some (.element document.root) := found
  obtain ⟨frames, before, part, after, rfl, isRead⟩ := (outside _ member).of_within within
  obtain ⟨front, back, rfl⟩ := List.append_of_mem member
  exact ⟨frames, front.flatMap Piece.lexemes ++ before, part,
    after ++ back.flatMap Piece.lexemes, by simp [lexemes], isRead⟩

end Document
end BundleMarkup
