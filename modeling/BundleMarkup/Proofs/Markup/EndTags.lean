import BundleMarkup.Proofs.Markup.Nesting

/-!
# End tags that do not match

An end tag has to bear the name of the innermost open element.  The first that does not ends the
reading with a breach of the rules of markup, which tells both names and the place of the end tag.
The error that would be of its own for this never comes up, whatever the text.
-/

namespace BundleMarkup

/-- What is first wrong with lexemes is an end tag with another name than the innermost element. -/
inductive Lexeme.StopAtOtherEnd (origin : Origin) : List Lexeme → Opening → String → Nat → Prop
  | intro {before after : List Lexeme} {events : List Event} {innermost : Opening}
      {outside : List Opening} {content : List Char} {start stop : Nat}
      (are : AreEvents origin [] before events)
      (single : (Event.completed origin [] events).length ≤ 1)
      (opens : Event.unclosed [] events = innermost :: outside)
      (other : String.ofList (Construction.endName content) ≠ innermost.tag.name.written) :
      StopAtOtherEnd origin (before ++ ⟨.endTag content, start, stop⟩ :: after) innermost
        (String.ofList (Construction.endName content)) start

namespace Construction

theorem close_of_other (origin : Origin) {state : Construction} {innermost : Opening}
    {outside : List Opening} (opens : state.around = innermost :: outside) {found : String}
    (other : found ≠ innermost.tag.name.written) (start stop : Nat) :
    close origin state found start stop =
      .error (Malformation.otherEnd innermost.tag.name.written found start).error := by
  obtain ⟨stack, root⟩ := state
  obtain ⟨element, outer, rfl, rfl, _⟩ := List.map_eq_cons_iff.mp opens
  exact if_neg fun same => other same.symm

/-- The first end tag that does not match ends a construction. -/
theorem foldlM_step_of_stopAtOtherEnd {origin : Origin} {lexemes : List Lexeme}
    {innermost : Opening} {found : String} {start : Nat}
    (stops : Lexeme.StopAtOtherEnd origin lexemes innermost found start) :
    lexemes.foldlM (step origin) .initial =
      .error (Malformation.otherEnd innermost.tag.name.written found start).error := by
  obtain @⟨before, after, events, innermost, outside, content, start, stop, are, single, opens,
    other⟩ := stops
  exact foldlM_step_of_fails are single fun state around =>
    close_of_other origin (around.trans opens) other start stop

end Construction

/-- The error that a reading ends with, if it ends with one. -/
def MarkupError.ofResult? {α : Type} : Except MarkupError α → Option MarkupError
  | .ok _ => none
  | .error error => some error

theorem MarkupError.eq_error_of_ofResult? {α : Type} {result : Except MarkupError α}
    {error : MarkupError} (ends : ofResult? result = some error) : result = .error error := by
  cases result with
  | ok value => cases ends
  | error other => exact congrArg Except.error (Option.some.inj ends)

/-- Whatever a reading ends with, it is no error of a code. -/
structure MarkupError.Avoids (code : String) {α : Type} (result : Except MarkupError α) :
    Prop where
  code_ne (error : MarkupError) (fails : result = .error error) : error.code ≠ code

namespace MarkupError

variable {code : String} {α β : Type}

theorem avoids_ok (value : α) : Avoids code (.ok value : Except MarkupError α) := by
  constructor
  intro error fails
  cases fails

theorem avoids_error {error : MarkupError} (other : error.code ≠ code) :
    Avoids code (.error error : Except MarkupError α) := by
  constructor
  rintro _ ⟨⟩
  exact other

theorem Avoids.bind {first : Except MarkupError α} {next : α → Except MarkupError β}
    (avoids : Avoids code first) (later : ∀ value, Avoids code (next value)) :
    Avoids code (first >>= next) := by
  cases first with
  | error error => exact avoids_error (avoids.code_ne error rfl)
  | ok value => exact later value

theorem avoids_mapM {act : α → Except MarkupError β} (each : ∀ item, Avoids code (act item))
    (list : List α) : Avoids code (list.mapM act) := by
  induction list with
  | nil => exact avoids_ok []
  | cons first rest ih =>
      rw [List.mapM_cons]
      exact (each first).bind fun _ => ih.bind fun _ => avoids_ok _

theorem avoids_foldlM {act : β → α → Except MarkupError β}
    (each : ∀ state item, Avoids code (act state item)) (list : List α) (state : β) :
    Avoids code (list.foldlM act state) := by
  induction list generalizing state with
  | nil => exact avoids_ok state
  | cons first rest ih =>
      rw [List.foldlM_cons]
      exact (each state first).bind ih

end MarkupError

open MarkupError

/-- Breaches of the rules of markup have a code of their own. -/
theorem Malformation.avoids_error (malformation : Malformation) {α : Type} :
    Avoids "X-9-3" (.error malformation.error : Except MarkupError α) :=
  MarkupError.avoids_error (by simp [error, code])

theorem TagItem.avoids_ofAttributes (origin : Origin) (start : Nat) (content : List Char)
    (cursor : Nat) (attributes : List RawAttribute) :
    Avoids "X-9-3" (ofAttributes origin start content cursor attributes) := by
  induction attributes generalizing cursor with
  | nil => exact avoids_ok []
  | cons raw rest ih =>
      rw [ofAttributes]
      split
      · exact Malformation.avoids_error _
      · exact (ih _).bind fun _ => avoids_ok _

namespace ElementTag

theorem avoids_resolveName (frames : List (List Declaration)) (bearer : Bearer)
    (qualifier : Option String) (localName : String) (span : SourceSpan) :
    Avoids "X-9-3" (resolveName frames bearer qualifier localName span) := by
  unfold resolveName
  split
  · exact avoids_ok _
  · exact avoids_error (by simp [code])

theorem avoids_read (origin : Origin) (outer : List (List Declaration)) (start : Nat)
    (content : List Char) : Avoids "X-9-3" (read origin outer start content) := by
  unfold read
  refine (TagItem.avoids_ofAttributes ..).bind fun items => ?_
  split
  · exact Malformation.avoids_error _
  · refine (avoids_resolveName ..).bind fun name => ?_
    refine (avoids_mapM (fun attr => ?_) _).bind fun _ => avoids_ok _
    exact (avoids_resolveName ..).bind fun _ => avoids_ok _

end ElementTag

namespace Construction

theorem avoids_attach (state : Construction) (element : Element) :
    Avoids "X-9-3" (state.attach element) := by
  unfold attach
  split
  · exact avoids_ok _
  · split
    · exact avoids_error (by simp [code])
    · exact avoids_ok _

theorem avoids_close (origin : Origin) (state : Construction) (name : String) (start stop : Nat) :
    Avoids "X-9-3" (close origin state name start stop) := by
  unfold close
  split
  · exact Malformation.avoids_error _
  · split
    · exact avoids_attach ..
    · exact Malformation.avoids_error _

theorem avoids_step (origin : Origin) (state : Construction) (lexeme : Lexeme) :
    Avoids "X-9-3" (step origin state lexeme) := by
  obtain ⟨token, start, stop⟩ := lexeme
  cases token with
  | startTag content => exact (ElementTag.avoids_read ..).bind fun _ => avoids_ok _
  | emptyTag content => exact (ElementTag.avoids_read ..).bind fun _ => avoids_attach ..
  | endTag content => exact avoids_close ..
  | text raw =>
      simp only [step]
      split
      · exact avoids_ok _
      · exact Malformation.avoids_error _
  | characterData content => exact avoids_ok _
  | comment content => exact avoids_ok _
  | instruction content => exact avoids_ok _
  | doctype keyword content => exact avoids_ok _

theorem avoids_finish (state : Construction) : Avoids "X-9-3" state.finish := by
  unfold finish
  split
  · exact avoids_error (by simp [code])
  · split
    · exact avoids_ok _
    · exact avoids_error (by simp [code])

end Construction

namespace Document

theorem avoids_read (file : FileId) (input : List Char) : Avoids "X-9-3" (read file input) := by
  refine .bind ?_ fun _ => avoids_ok _
  refine (avoids_foldlM (Construction.avoids_step _) ..).bind fun state => ?_
  split
  · exact Malformation.avoids_error _
  · exact Construction.avoids_finish state

/--
A text in which the first thing wrong is an end tag with another name than the innermost open
element is refused for that, with both names and the offset of the end tag.  The error is one of
malformed markup; the code of an end tag that does not match is that of no text at all.
-/
theorem read_of_stopAtOtherEnd (file : FileId) (input : List Char) :
    (∀ innermost found start,
      Lexeme.StopAtOtherEnd ⟨file, .ofText input⟩ (Scan.ofText input).lexemes innermost found
        start →
      let expected := innermost.tag.name.written
      ∃ error, read file input = .error error ∧ error = .malformed
          s!"ill-formed document: expected `</{expected}>`, but `</{found}>` was found"
          (some start) ∧
        error.diagnostic.code = some "X-9-1" ∧ error.diagnostic.location = none) ∧
    ∀ error, read file input = .error error → error.diagnostic.code ≠ some "X-9-3" := by
  constructor
  · intro innermost found start stops expected
    refine ⟨_, ?_, rfl, rfl, rfl⟩
    rw [read, rootOfScan, Construction.foldlM_step_of_stopAtOtherEnd stops]
    rfl
  · intro error fails same
    exact (avoids_read file input).code_ne error fails (Option.some.inj same)

/-- The end tag of the outer element, written with a space, comes while an inner one is open. -/
theorem read_of_stopAtOtherEnd_spaced :
    let input := "<x:Wix xmlns:x='urn:1'><Bundle></x:Wix ></Bundle>".toList
    let origin : Origin := ⟨default, .ofText input⟩
    ∃ innermost, innermost.tag.name.written = "Bundle" ∧
      Lexeme.StopAtOtherEnd origin (Scan.ofText input).lexemes innermost "x:Wix" 31 ∧
      ∃ error, read default input = .error error ∧ error.diagnostic.code = some "X-9-1" ∧
        error.diagnostic.code ≠ some "X-9-3" ∧ error = .malformed
          "ill-formed document: expected `</Bundle>`, but `</x:Wix>` was found" (some 31) := by
  intro input origin
  let field := "x:Wix xmlns:x='urn:1'".toList
  let bundle := "Bundle".toList
  have lexemes : (Scan.ofText input).lexemes =
      [⟨.startTag field, 0, 23⟩, ⟨.startTag bundle, 23, 31⟩] ++
        ⟨.endTag "x:Wix ".toList, 31, 40⟩ :: [⟨.endTag bundle, 40, 49⟩] := by
    decide +kernel
  obtain ⟨outer, readsOuter, unbound⟩ : ∃ outer, ElementTag.read origin [] 0 field = .ok outer ∧
      Binding.declaration? [outer.declarations] none = none := by
    have facts : (ElementTag.read origin [] 0 field).toOption.map (fun outer =>
        Binding.declaration? [outer.declarations] none) = some none := by
      decide +kernel
    cases reads : ElementTag.read origin [] 0 field with
    | error error =>
        rw [reads] at facts
        cases facts
    | ok outer =>
        rw [reads] at facts
        exact ⟨outer, rfl, Option.some.inj facts⟩
  have readsInner := ElementTag.read_bare origin 23 (List.all_eq_true.mp
    (show bundle.all TagContent.isName = true by decide)) (by decide) unbound
  have stops : Lexeme.StopAtOtherEnd origin (Scan.ofText input).lexemes
      ⟨⟨⟨none, "Bundle", none⟩, origin.span 24 30, [], []⟩, 23⟩ "x:Wix" 31 := by
    rw [lexemes]
    exact .intro (.cons (.startTag readsOuter) (.cons (.startTag readsInner) (.nil _)))
      (Nat.zero_le 1) rfl (by decide)
  obtain ⟨refused, avoids⟩ := read_of_stopAtOtherEnd default input
  obtain ⟨error, fails, message, code, _⟩ := refused _ _ _ stops
  exact ⟨_, rfl, stops, error, fails, code, avoids error fails, message⟩

/-- A root's end tag inside its child is refused, but not as an end tag that does not match. -/
theorem read_wix_bundle :
    let input := "<Wix><Bundle></Wix>".toList
    let origin : Origin := ⟨default, .ofText input⟩
    read default input = .error
        (.malformed "ill-formed document: expected `</Bundle>`, but `</Wix>` was found" (some 13)) ∧
      read default input ≠ .error (.mismatchedEnd "Bundle" "Wix" (some (origin.span 6 12))) ∧
      (MarkupError.mismatchedEnd "Bundle" "Wix" (some (origin.span 6 12))).diagnostic.code =
        some "X-9-3" := by
  intro input origin
  have refused := eq_error_of_ofResult? (show ofResult? (read default input) = some (.malformed
    "ill-formed document: expected `</Bundle>`, but `</Wix>` was found" (some 13)) by
      decide +kernel)
  refine ⟨refused, ?_, rfl⟩
  rw [refused]
  nofun

end Document
end BundleMarkup
