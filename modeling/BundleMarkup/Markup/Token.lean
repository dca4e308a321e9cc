import BundleMarkup.Text.Bytes

/-!
# Tokens

A markup text is a sequence of tags, runs of text, character data and asides.  `Token.next` takes
the first token off a text; `Token.written` gives back the characters it was made from, so the
tokens of a text, written one after another, are the text again.
-/

namespace BundleMarkup

/-- A piece of markup text. -/
inductive Token
  /-- `<content>` -/
  | startTag (content : List Char)
  /-- `<content/>` -/
  | emptyTag (content : List Char)
  /-- `</content>` -/
  | endTag (content : List Char)
  /-- Text up to the next `<`, with its references. -/
  | text (raw : List Char)
  /-- `<![CDATA[content]]>` -/
  | characterData (content : List Char)
  /-- `<!--content-->` -/
  | comment (content : List Char)
  /-- `<?content?>` -/
  | instruction (content : List Char)
  /-- `<!DOCTYPE content>`, its keyword in any case. -/
  | doctype (keyword content : List Char)
  deriving DecidableEq, Repr

/-- Why no token can be taken off a text. -/
inductive TokenFault
  | unclosedTag
  | unclosedComment
  /-- Character data has no `]]>` or another keyword. -/
  | unclosedCharacterData
  /-- A document type has no `>` or another keyword. -/
  | unclosedDoctype
  | unclosedInstruction
  /-- Something unknown follows `<!`. -/
  | unknownMarkup
  /-- A document type without a name has its `>` after the given number of bytes. -/
  | namelessDoctype (size : Nat)
  deriving DecidableEq, Repr

namespace TokenFault

def message : TokenFault → String
  | unclosedTag => "syntax error: tag not closed: `>` not found before end of input"
  | unclosedComment => "syntax error: comment not closed: `-->` not found before end of input"
  | unclosedCharacterData =>
      "syntax error: CDATA not closed: `]]>` not found before end of input"
  | unclosedDoctype => "syntax error: DOCTYPE not closed: `>` not found before end of input"
  | unclosedInstruction =>
      "syntax error: processing instruction or xml declaration not closed: " ++
        "`?>` not found before end of input"
  | unknownMarkup => "syntax error: unknown or missed symbol in markup"
  | namelessDoctype _ =>
      "ill-formed document: `<!DOCTYPE>` declaration does not contain a name of a document type"

/-- Bytes from the `<` of the unreadable token to the place of the fault. -/
def offset : TokenFault → Nat
  | namelessDoctype size => size
  | _ => 0

end TokenFault

namespace Token

/-- The white space of markup: space, tab, carriage return and line feed. -/
def isSpace (char : Char) : Bool :=
  char = ' ' || char = '\t' || char = '\r' || char = '\n'

/-- What opens a comment after its `<`. -/
def commentOpen : List Char := ['!', '-', '-']

/-- What closes a comment. -/
def commentClose : List Char := ['-', '-', '>']

/-- What opens character data after its `<`. -/
def characterDataOpen : List Char := ['!', '[', 'C', 'D', 'A', 'T', 'A', '[']

/-- What closes character data. -/
def characterDataClose : List Char := [']', ']', '>']

/-- What closes a processing instruction. -/
def instructionClose : List Char := ['?', '>']

/-- The keyword of a document type in capitals. -/
def doctypeKeyword : List Char := ['D', 'O', 'C', 'T', 'Y', 'P', 'E']

/-- The characters that a token is made from. -/
def written : Token → List Char
  | startTag content => '<' :: (content ++ ['>'])
  | emptyTag content => '<' :: (content ++ ['/', '>'])
  | endTag content => '<' :: '/' :: (content ++ ['>'])
  | text raw => raw
  | characterData content => '<' :: (characterDataOpen ++ content ++ characterDataClose)
  | comment content => '<' :: (commentOpen ++ content ++ commentClose)
  | instruction content => '<' :: '?' :: (content ++ instructionClose)
  | doctype keyword content => '<' :: '!' :: (keyword ++ content ++ ['>'])

/-- Bytes that a token is made from. -/
def size (token : Token) : Nat := Text.byteLength token.written

/-- What follows a given front in a text that starts with it. -/
def stripFront? : List Char → List Char → Option (List Char)
  | [], input => some input
  | _ :: _, [] => none
  | mark :: marks, char :: rest => if mark = char then stripFront? marks rest else none

/-- Split a text at the first occurrence of a mark, which is in neither part. -/
def breakAt (mark : List Char) : List Char → Option (List Char × List Char)
  | [] => none
  | char :: rest =>
      match stripFront? mark (char :: rest) with
      | some after => some ([], after)
      | none => (breakAt mark rest).map fun (front, after) => (char :: front, after)

/-- Split a text at the `>` that ends a tag: the first one outside quotes. -/
def breakTag : Option Char → List Char → Option (List Char × List Char)
  | _, [] => none
  | some quote, char :: rest =>
      (breakTag (if char = quote then none else some quote) rest).map
        fun (front, after) => (char :: front, after)
  | none, char :: rest =>
      if char = '>' then
        some ([], rest)
      else
        (breakTag (if char = '"' ∨ char = '\'' then some char else none) rest).map
          fun (front, after) => (char :: front, after)

/-- Split a text at the first `>` that closes no `<` of its own, with `depth` of them open. -/
def breakBracket : Nat → List Char → Option (List Char × List Char)
  | _, [] => none
  | depth, char :: rest =>
      if char = '>' ∧ depth = 0 then
        some ([], rest)
      else
        let inner := if char = '<' then depth + 1 else if char = '>' then depth - 1 else depth
        (breakBracket inner rest).map fun (front, after) => (char :: front, after)

/-- The tag whose inside is given: a slash at the end makes it empty. -/
def ofTag (content : List Char) : Token :=
  if content.getLast? = some '/' then emptyTag content.dropLast else startTag content

/-- A token with the rest of its text, or the fault that an unfinished token is. -/
def orFault (make : List Char → Token) (fault : TokenFault) :
    Option (List Char × List Char) → Except TokenFault (Token × List Char)
  | some (content, rest) => .ok (make content, rest)
  | none => .error fault

/-- Take a comment, given its text after the `<`. -/
def nextComment (input : List Char) : Except TokenFault (Token × List Char) :=
  orFault comment .unclosedComment ((stripFront? commentOpen input).bind (breakAt commentClose))

/-- Take character data, given its text after the `<`. -/
def nextCharacterData (input : List Char) : Except TokenFault (Token × List Char) :=
  orFault characterData .unclosedCharacterData
    ((stripFront? characterDataOpen input).bind (breakAt characterDataClose))

/-- Take a document type, given its text after the `<!`. -/
def nextDoctype (input : List Char) : Except TokenFault (Token × List Char) :=
  if (input.take doctypeKeyword.length).map Char.toUpper = doctypeKeyword then
    match breakBracket 0 (input.drop doctypeKeyword.length) with
    | some (content, rest) =>
        if content.all isSpace then
          .error (.namelessDoctype (2 + doctypeKeyword.length + content.length))
        else
          .ok (doctype (input.take doctypeKeyword.length) content, rest)
    | none => .error .unclosedDoctype
  else
    .error .unclosedDoctype

/-- Take what starts with `<!`, given its text after these two. -/
def nextDeclaration (input : List Char) : Except TokenFault (Token × List Char) :=
  match input.head? with
  | none => .error .unknownMarkup
  | some char =>
      if char = '-' then nextComment ('!' :: input)
      else if char = '[' then nextCharacterData ('!' :: input)
      else if char = 'D' ∨ char = 'd' then nextDoctype input
      else .error .unknownMarkup

/-- Take a processing instruction, given its text after the `<?`. -/
def nextInstruction (input : List Char) : Except TokenFault (Token × List Char) :=
  if input.head? = some '>' then
    .error .unclosedInstruction
  else
    orFault instruction .unclosedInstruction (breakAt instructionClose input)

/-- Take an end tag, given its text after the `</`. -/
def nextEndTag (input : List Char) : Except TokenFault (Token × List Char) :=
  orFault endTag .unclosedTag (breakTag none input)

/-- Take a start tag or an empty tag, given its text after the `<`. -/
def nextTag (input : List Char) : Except TokenFault (Token × List Char) :=
  orFault ofTag .unclosedTag (breakTag none input)

/-- Take what starts with `<`, given its text after that. -/
def nextMarkup (input : List Char) : Except TokenFault (Token × List Char) :=
  match input with
  | [] => nextTag []
  | char :: rest =>
      if char = '!' then nextDeclaration rest
      else if char = '/' then nextEndTag rest
      else if char = '?' then nextInstruction rest
      else nextTag input

/-- Whether a character belongs to a run of text. -/
def isText (char : Char) : Bool := char ≠ '<'

/-- Take the first token off a text that is not empty. -/
def next (input : List Char) : Except TokenFault (Token × List Char) :=
  match input with
  | [] => .ok (text [], [])
  | char :: rest =>
      if char = '<' then nextMarkup rest
      else .ok (text (input.takeWhile isText), input.dropWhile isText)

theorem eq_of_stripFront? {mark input after : List Char}
    (starts : stripFront? mark input = some after) : mark ++ after = input := by
  induction mark generalizing input with
  | nil => simpa [stripFront?] using starts.symm
  | cons char marks ih =>
      cases input with
      | nil => simp [stripFront?] at starts
      | cons first rest =>
          simp only [stripFront?] at starts
          split at starts
          · rename_i same
            simp [same, ih starts]
          · simp at starts

theorem eq_of_breakAt {mark front after input : List Char}
    (found : breakAt mark input = some (front, after)) : front ++ mark ++ after = input := by
  induction input generalizing front with
  | nil => simp [breakAt] at found
  | cons char rest ih =>
      simp only [breakAt] at found
      split at found
      · rename_i starts
        obtain ⟨rfl, rfl⟩ := Prod.mk.inj (Option.some.inj found)
        exact eq_of_stripFront? starts
      · simp only [Option.map_eq_some_iff, Prod.mk.injEq, Prod.exists] at found
        obtain ⟨inner, _, split, rfl, rfl⟩ := found
        simpa using ih split

theorem eq_of_breakTag {front after input : List Char} {quote : Option Char}
    (found : breakTag quote input = some (front, after)) : front ++ '>' :: after = input := by
  induction input generalizing front quote with
  | nil => cases quote <;> simp [breakTag] at found
  | cons char rest ih =>
      cases quote with
      | none =>
          by_cases ends : char = '>'
          · simp_all [breakTag]
          · simp only [breakTag, ends, if_false, Option.map_eq_some_iff, Prod.mk.injEq,
              Prod.exists] at found
            obtain ⟨inner, _, split, rfl, rfl⟩ := found
            simpa using ih split
      | some mark =>
          simp only [breakTag, Option.map_eq_some_iff, Prod.mk.injEq, Prod.exists] at found
          obtain ⟨inner, _, split, rfl, rfl⟩ := found
          simpa using ih split

theorem eq_of_breakBracket {front after input : List Char} {depth : Nat}
    (found : breakBracket depth input = some (front, after)) :
    front ++ '>' :: after = input := by
  induction input generalizing front depth with
  | nil => simp [breakBracket] at found
  | cons char rest ih =>
      by_cases ends : char = '>' ∧ depth = 0
      · simp_all [breakBracket]
      · simp only [breakBracket, ends, if_false, Option.map_eq_some_iff, Prod.mk.injEq,
          Prod.exists] at found
        obtain ⟨inner, _, split, rfl, rfl⟩ := found
        simpa using ih split

theorem written_ofTag (content : List Char) :
    (ofTag content).written = '<' :: (content ++ ['>']) := by
  unfold ofTag
  split
  · rename_i slash
    obtain ⟨front, rfl⟩ := List.getLast?_eq_some_iff.mp slash
    simp [written]
  · rfl

theorem orFault_eq_ok {make : List Char → Token} {fault : TokenFault}
    {found : Option (List Char × List Char)} {token : Token} {rest : List Char} :
    orFault make fault found = .ok (token, rest) ↔
      ∃ content, found = some (content, rest) ∧ token = make content := by
  cases found with
  | none => simp [orFault]
  | some parts =>
      obtain ⟨content, after⟩ := parts
      simp only [orFault, Except.ok.injEq, Prod.mk.injEq, Option.some.injEq]
      constructor
      · rintro ⟨rfl, rfl⟩
        exact ⟨content, ⟨rfl, rfl⟩, rfl⟩
      · rintro ⟨_, ⟨rfl, rfl⟩, rfl⟩
        exact ⟨rfl, rfl⟩

variable {input rest : List Char} {token : Token}

theorem written_nextComment (taken : nextComment input = .ok (token, rest)) :
    token.written ++ rest = '<' :: input := by
  obtain ⟨content, found, rfl⟩ := orFault_eq_ok.mp taken
  obtain ⟨inside, opens, closes⟩ := Option.bind_eq_some_iff.mp found
  simp [written, ← eq_of_stripFront? opens, ← eq_of_breakAt closes]

theorem written_nextCharacterData (taken : nextCharacterData input = .ok (token, rest)) :
    token.written ++ rest = '<' :: input := by
  obtain ⟨content, found, rfl⟩ := orFault_eq_ok.mp taken
  obtain ⟨inside, opens, closes⟩ := Option.bind_eq_some_iff.mp found
  simp [written, ← eq_of_stripFront? opens, ← eq_of_breakAt closes]

theorem written_nextDoctype (taken : nextDoctype input = .ok (token, rest)) :
    token.written ++ rest = '<' :: '!' :: input := by
  simp only [nextDoctype] at taken
  split at taken
  · split at taken
    · rename_i found
      split at taken
      · simp at taken
      · obtain ⟨rfl, rfl⟩ := Prod.mk.inj (Except.ok.inj taken)
        have closes := eq_of_breakBracket found
        have whole := List.take_append_drop doctypeKeyword.length input
        rw [← closes] at whole
        simpa [written] using whole
    · simp at taken
  · simp at taken

theorem written_nextDeclaration (taken : nextDeclaration input = .ok (token, rest)) :
    token.written ++ rest = '<' :: '!' :: input := by
  unfold nextDeclaration at taken
  split at taken
  · simp at taken
  · split at taken
    · exact written_nextComment taken
    · split at taken
      · exact written_nextCharacterData taken
      · split at taken
        · exact written_nextDoctype taken
        · simp at taken

theorem written_nextInstruction (taken : nextInstruction input = .ok (token, rest)) :
    token.written ++ rest = '<' :: '?' :: input := by
  unfold nextInstruction at taken
  split at taken
  · simp at taken
  · obtain ⟨content, closes, rfl⟩ := orFault_eq_ok.mp taken
    simp [written, ← eq_of_breakAt closes]

theorem written_nextEndTag (taken : nextEndTag input = .ok (token, rest)) :
    token.written ++ rest = '<' :: '/' :: input := by
  obtain ⟨content, closes, rfl⟩ := orFault_eq_ok.mp taken
  simp [written, ← eq_of_breakTag closes]

theorem written_nextTag (taken : nextTag input = .ok (token, rest)) :
    token.written ++ rest = '<' :: input := by
  obtain ⟨content, closes, rfl⟩ := orFault_eq_ok.mp taken
  simp [written_ofTag, ← eq_of_breakTag closes]

theorem written_nextMarkup (taken : nextMarkup input = .ok (token, rest)) :
    token.written ++ rest = '<' :: input := by
  unfold nextMarkup at taken
  split at taken
  · exact written_nextTag taken
  · split at taken
    · rename_i mark
      exact mark ▸ written_nextDeclaration taken
    · split at taken
      · rename_i mark
        exact mark ▸ written_nextEndTag taken
      · split at taken
        · rename_i mark
          exact mark ▸ written_nextInstruction taken
        · exact written_nextTag taken

/-- A token and the rest of the text are the text that it was taken off. -/
theorem written_append_of_next (taken : next input = .ok (token, rest)) :
    token.written ++ rest = input := by
  unfold next at taken
  split at taken
  · obtain ⟨rfl, rfl⟩ := Prod.mk.inj (Except.ok.inj taken)
    rfl
  · split at taken
    · rename_i mark
      exact mark ▸ written_nextMarkup taken
    · obtain ⟨rfl, rfl⟩ := Prod.mk.inj (Except.ok.inj taken)
      exact List.takeWhile_append_dropWhile

theorem ofTag_ne_text (content raw : List Char) : ofTag content ≠ text raw := by
  unfold ofTag
  split <;> simp

/-- What starts with `<` is no run of text. -/
theorem ne_text_of_nextMarkup {raw : List Char} : nextMarkup input ≠ .ok (text raw, rest) := by
  intro taken
  unfold nextMarkup nextDeclaration nextInstruction at taken
  unfold nextComment nextCharacterData nextDoctype nextEndTag nextTag at taken
  repeat' split at taken
  all_goals
    first
    | obtain ⟨content, _, same⟩ := orFault_eq_ok.mp taken
      exact absurd same.symm (by simp [ofTag_ne_text])
    | simp at taken

/-- A token taken off a text that is not empty leaves a shorter text. -/
theorem length_lt_of_next (taken : next input = .ok (token, rest)) (nonempty : input ≠ []) :
    rest.length < input.length := by
  have whole := written_append_of_next taken
  have : token.written ≠ [] := by
    unfold next at taken
    split at taken
    · contradiction
    · rename_i char others
      split at taken
      · cases token with
        | text raw => exact absurd taken ne_text_of_nextMarkup
        | _ => simp [written]
      · rename_i mark
        obtain ⟨rfl, rfl⟩ := Prod.mk.inj (Except.ok.inj taken)
        simp [written, isText, mark]
  have := List.length_pos_iff.mpr this
  simp only [← whole, List.length_append]
  omega

end Token
end BundleMarkup
