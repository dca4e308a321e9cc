import BundleMarkup.Proofs.Judging.Isolation
import BundleMarkup.Proofs.Judging.Traces

/-!
# The first launch condition

A session remembers where the first launch condition came from that gave a row.  As long as no other
extension makes rows of that table itself, this is where the first such row of all documents so far
came from.  It is set at most once, by a condition that was judged without an error, and nothing
that a session gives depends on it.
-/

namespace BundleMarkup

variable {σ : Type}

/-- Where the first launch condition among rows came from. -/
def Row.firstCondition? (rows : List Row) : Option SourceSpan :=
  (rows.find? (·.table = .condition)).map source

theorem Row.firstCondition?_append (front back : List Row) :
    firstCondition? (front ++ back) = (firstCondition? front).or (firstCondition? back) := by
  rw [firstCondition?, List.find?_append, Option.map_or]
  rfl

theorem Row.firstCondition?_eq_none {rows : List Row} :
    firstCondition? rows = none ↔ ∀ row ∈ rows, row.table ≠ .condition := by
  simp [firstCondition?]

/-- One of the rows is a condition and came from the place. -/
theorem Row.exists_of_firstCondition?_eq_some {rows : List Row} {span : SourceSpan}
    (first : firstCondition? rows = some span) :
    ∃ row ∈ rows, row.table = .condition ∧ row.source = span := by
  obtain ⟨row, found, source⟩ := Option.map_eq_some_iff.mp first
  exact ⟨row, List.mem_of_find?_eq_some found, by simpa using List.find?_some found, source⟩

/-- If all conditions among rows came from one place, the first one did. -/
theorem Row.firstCondition?_eq_ite {rows : List Row} {span : SourceSpan}
    (source : ∀ row ∈ rows, row.table = .condition → row.source = span) :
    firstCondition? rows = if rows.any (·.table == .condition) then some span else none := by
  cases first : firstCondition? rows with
  | none =>
      have others := firstCondition?_eq_none.mp first
      rw [if_neg (by simpa using others)]
  | some found =>
      obtain ⟨row, among, condition, rfl⟩ := exists_of_firstCondition?_eq_some first
      rw [if_pos (List.any_eq_true.mpr ⟨row, among, by simpa using condition⟩),
        source row among condition]

/-- A launch condition is remembered if it gave a row and no other one is. -/
theorem Session.firstCondition_remember (session : Session σ) (element : Element)
    (outcome : Outcome) : (session.remember .condition element outcome).firstCondition =
      session.firstCondition.or
        (if outcome.rows.any (·.table == .condition) then some element.span else none) := by
  unfold remember
  cases before : session.firstCondition with
  | some span => simp [before]
  | none =>
      cases gave : outcome.rows.any (·.table == .condition) with
      | false => simp [before]
      | true => simp

/-- No row of an outcome belongs to a table. -/
def Outcome.Spares (outcome : Outcome) (table : Table) : Prop :=
  ∀ row ∈ outcome.rows, row.table ≠ table

/-- No answer of an extension has a row of a table. -/
structure Extension.Spares (extension : Extension σ) (table : Table) : Prop where
  onAttribute (state : σ) (bearer : Element) (attr : Attribute) :
    (extension.onAttribute state bearer attr).1.Spares table
  onElement (state : σ) (parent element : Element) :
    (extension.onElement state parent element).1.Spares table

theorem Outcome.spares_ofDiagnostic (diagnostic : Diagnostic) (table : Table) :
    (ofDiagnostic diagnostic).Spares table := by
  simp [Spares, ofDiagnostic, rows_of]

/-- What holds of every extension's answer and of the answer without one holds of each answer. -/
theorem Loaded.answer_property (property : Outcome → Prop) (uri : String)
    {act : Loaded σ → Outcome × σ} {otherwise : Outcome} (unclaimed : property otherwise)
    {list : List (Loaded σ)} (each : ∀ loaded ∈ list, property (act loaded).1) :
    property (answer uri act otherwise list).1 := by
  induction list with
  | nil => exact unclaimed
  | cons first rest ih =>
      rw [answer]
      split
      · exact each first List.mem_cons_self
      · exact ih fun loaded among => each loaded (List.mem_cons_of_mem first among)

namespace Extensions

/-- No registered extension gives a row of a table. -/
def Spare (extensions : Extensions σ) (table : Table) : Prop :=
  ∀ extension ∈ extensions.kinds, extension.Spares table

variable {extensions : Extensions σ} {table : Table} (spare : extensions.Spare table)

include spare

theorem spare_of_kinds {changed : Extensions σ} (kinds : changed.kinds = extensions.kinds) :
    changed.Spare table := by
  rw [Spare, kinds]
  exact spare

theorem Spare.perform (step : Step) : (extensions.perform step).1.Spares table := by
  cases step with
  | report diagnostic => exact Outcome.spares_ofDiagnostic diagnostic table
  | delegateAttribute bearer attr =>
      apply Loaded.answer_property (·.Spares table)
      · exact Outcome.spares_ofDiagnostic _ table
      · intro loaded among
        exact (spare loaded.extension (List.mem_map_of_mem among)).onAttribute _ bearer attr
  | delegateElement parent element =>
      apply Loaded.answer_property (·.Spares table)
      · exact Outcome.spares_ofDiagnostic _ table
      · intro loaded among
        exact (spare loaded.extension (List.mem_map_of_mem among)).onElement _ parent element

theorem Spare.performAll (steps : List Step) :
    ∀ row ∈ (extensions.performAll steps).1.flatMap Outcome.rows, row.table ≠ table := by
  induction steps generalizing extensions with
  | nil => simp
  | cons step rest ih =>
      have later := ih (spare_of_kinds spare (kinds_perform extensions step))
      rw [performAll_cons, List.flatMap_cons]
      intro row among
      rcases List.mem_append.mp among with here | there
      · exact spare.perform step row here
      · exact later row there

end Extensions

theorem noteTaker_spares : noteTaker.Spares .condition := by
  constructor
  · intro state bearer attr row among
    obtain rfl := List.mem_singleton.mp among
    exact (by decide : Table.linkVariable ≠ .condition)
  · intro state parent element row among
    cases among

/-- A part that is a launch condition where one is allowed. -/
inductive Part.IsCondition : Part → Prop
  | intro {host element : Element}
      (routed : ElementKind.route? host.localName element.localName = some .condition) :
      IsCondition (.ownElement host element)

/-- Only launch conditions have rows of their table. -/
theorem Part.isCondition_of_mem_ownRows {part : Part} {row : Row} (among : row ∈ part.ownRows)
    (condition : row.table = .condition) : part.IsCondition := by
  cases gives_of_mem_ownRows among with
  | ownElement routed gives =>
      cases gives with
      | condition _ _ => exact .intro routed
      | launch _ => cases condition
      | options _ _ => cases condition
      | link _ _ => cases condition
  | ownAttributes _ => cases condition

theorem Outcome.mem_rows_settle {policy : WarningPolicy} {outcomes : List Outcome}
    {own : List Row} {row : Row} (among : row ∈ (settle policy outcomes own).rows) :
    row ∈ outcomes.flatMap Outcome.rows ∨ row ∈ own := by
  rw [settle, rows_of] at among
  split at among
  · cases among
  · exact List.mem_append.mp among

namespace Part

/-- The rows of conditions among what a part comes to are its own, and it is a condition. -/
theorem isCondition_of_mem_rows {session : Session σ}
    (spare : session.extensions.Spare .condition) {part : Part} {row : Row}
    (among : row ∈ (part.judge session).1.rows) (condition : row.table = .condition) :
    part.IsCondition ∧ row.source = part.owner.span := by
  rw [judge_outcome] at among
  rcases Outcome.mem_rows_settle among with foreign | own
  · exact absurd condition (spare.performAll part.plan row foreign)
  · exact ⟨isCondition_of_mem_ownRows own condition, source_of_mem_ownRows own⟩

/-- Parts that are no launch conditions leave the first one alone. -/
theorem firstCondition_judge_of_not {session : Session σ} {part : Part}
    (other : ¬part.IsCondition) :
    (part.judge session).2.firstCondition = session.firstCondition := by
  cases part with
  | foreignAttribute host attr => rfl
  | foreignElement host element => rfl
  | ownAttributes host attributes => rfl
  | ownElement host element =>
      cases routed : ElementKind.route? host.localName element.localName with
      | none => rw [judge, session.judgeElement_of_route?_eq_none routed]
      | some kind =>
          have kind_ne : kind ≠ .condition := by
            rintro rfl
            exact other (.intro routed)
          rw [judge, session.judgeElement_of_route?_eq_some routed]
          simp [Session.remember, kind_ne]

/-- A part sets the first condition if there is none yet and a condition is among its rows. -/
theorem firstCondition_judge {session : Session σ} (spare : session.extensions.Spare .condition)
    (part : Part) : (part.judge session).2.firstCondition =
      session.firstCondition.or (Row.firstCondition? (part.judge session).1.rows) := by
  by_cases isCondition : part.IsCondition
  · have source (row : Row) (among : row ∈ (part.judge session).1.rows)
        (condition : row.table = .condition) : row.source = part.owner.span :=
      (isCondition_of_mem_rows spare among condition).2
    rw [Row.firstCondition?_eq_ite source]
    obtain @⟨host, element, routed⟩ := isCondition
    rw [judge, session.judgeElement_of_route?_eq_some routed, Session.firstCondition_remember]
    rfl
  · have none_first : Row.firstCondition? (part.judge session).1.rows = none :=
      Row.firstCondition?_eq_none.mpr fun row among condition =>
        isCondition (isCondition_of_mem_rows spare among condition).1
    rw [none_first, Option.or_none, firstCondition_judge_of_not isCondition]

/-- Only a launch condition that gave a row sets the first condition, and only if there is none. -/
theorem firstCondition_judge_of_ne {session : Session σ}
    (spare : session.extensions.Spare .condition) {part : Part}
    (changed : (part.judge session).2.firstCondition ≠ session.firstCondition) :
    session.firstCondition = none ∧ part.IsCondition ∧
      Diagnostic.anyError (part.judge session).1.diagnostics = false ∧
      (∃ row ∈ (part.judge session).1.rows, row.table = .condition) ∧
      (part.judge session).2.firstCondition = some part.owner.span := by
  have step := firstCondition_judge spare part
  cases before : session.firstCondition with
  | some span =>
      rw [before, Option.some_or] at step
      exact absurd (step.trans before.symm) changed
  | none =>
      rw [before, Option.none_or] at step
      cases first : Row.firstCondition? (part.judge session).1.rows with
      | none => exact absurd (step.trans (first.trans before.symm)) changed
      | some span =>
          obtain ⟨row, among, condition, rfl⟩ := Row.exists_of_firstCondition?_eq_some first
          obtain ⟨isCondition, source⟩ := isCondition_of_mem_rows spare among condition
          refine ⟨rfl, isCondition, ?_, ⟨row, among, condition⟩, ?_⟩
          · cases found : Diagnostic.anyError (part.judge session).1.diagnostics with
            | false => rfl
            | true =>
                rw [(part.judge session).1.rows_eq_nil found] at among
                cases among
          · rw [step, first, source]

/-- After parts are judged in order, the first condition is the first of all rows they gave. -/
theorem firstCondition_judgeAll {session : Session σ}
    (spare : session.extensions.Spare .condition) (parts : List Part) :
    (judgeAll session parts).2.firstCondition = session.firstCondition.or
      (Row.firstCondition? ((judgeAll session parts).1.flatMap Outcome.rows)) := by
  induction parts generalizing session with
  | nil => simp [Row.firstCondition?]
  | cons part rest ih =>
      have later := ih (Extensions.spare_of_kinds spare (kinds_judge session part))
      rw [judgeAll_cons, later, firstCondition_judge spare, List.flatMap_cons,
        Row.firstCondition?_append, Option.or_assoc]

theorem kinds_judgeAll (session : Session σ) (parts : List Part) :
    (judgeAll session parts).2.extensions.kinds = session.extensions.kinds := by
  rw [judgeAll_extensions, Extensions.kinds_performAll]

end Part

namespace Session

/-- Compile documents within a session, one after another. -/
def compileAll (session : Session σ) : List Document → List Output × Session σ
  | [] => ([], session)
  | document :: rest =>
      let (output, session) := session.compile document
      let (later, session) := compileAll session rest
      (output :: later, session)

@[simp]
theorem compileAll_nil (session : Session σ) : session.compileAll [] = ([], session) := rfl

theorem compileAll_cons (session : Session σ) (document : Document) (rest : List Document) :
    session.compileAll (document :: rest) =
      ((session.compile document).1 :: ((session.compile document).2.compileAll rest).1,
        ((session.compile document).2.compileAll rest).2) := rfl

theorem compileAll_append (session : Session σ) (front back : List Document) :
    session.compileAll (front ++ back) =
      ((session.compileAll front).1 ++ ((session.compileAll front).2.compileAll back).1,
        ((session.compileAll front).2.compileAll back).2) := by
  induction front generalizing session with
  | nil => rfl
  | cons document rest ih => simp [compileAll_cons, ih]

theorem kinds_compile (session : Session σ) (document : Document) :
    (session.compile document).2.extensions.kinds = session.extensions.kinds := by
  rw [compile_eq, Part.kinds_judgeAll]

theorem policy_compile (session : Session σ) (document : Document) :
    (session.compile document).2.policy = session.policy := by
  rw [compile_eq, Part.judgeAll_policy]

theorem kinds_compileAll (session : Session σ) (documents : List Document) :
    (session.compileAll documents).2.extensions.kinds = session.extensions.kinds := by
  induction documents generalizing session with
  | nil => rfl
  | cons document rest ih => rw [compileAll_cons, ih, kinds_compile]

theorem firstCondition_compileAll {session : Session σ}
    (spare : session.extensions.Spare .condition) (documents : List Document) :
    (session.compileAll documents).2.firstCondition = session.firstCondition.or
      (Row.firstCondition? ((session.compileAll documents).1.flatMap Output.rows)) := by
  induction documents generalizing session with
  | nil => simp [Row.firstCondition?]
  | cons document rest ih =>
      have later := ih (Extensions.spare_of_kinds spare (kinds_compile session document))
      have first : (session.compile document).2.firstCondition =
          session.firstCondition.or (Row.firstCondition? (session.compile document).1.rows) := by
        rw [compile_eq]
        exact Part.firstCondition_judgeAll spare _
      rw [compileAll_cons, later, first, List.flatMap_cons, Row.firstCondition?_append,
        Option.or_assoc]

/-- Sessions that differ in states and in the first condition give the same output. -/
theorem compile_congr {left right : Session σ} (respects : left.extensions.Respects Eq)
    (kinds : left.extensions.kinds = right.extensions.kinds) (policy : left.policy = right.policy)
    (document : Document) : (left.compile document).1 = (right.compile document).1 := by
  have respects' := Extensions.respects_of_kinds kinds respects
  have each : Part.judgeEach left (Part.ofHost document.root) =
      Part.judgeEach right (Part.ofHost document.root) :=
    List.map_congr_left fun part _ => Part.judge_congr (fun equal => congrArg Element.name equal)
      respects kinds policy (Step.forall₂_same_refl Eq.refl part.plan) rfl
  rw [compile_eq, compile_eq, Part.judgeAll_eq_judgeEach respects,
    Part.judgeAll_eq_judgeEach respects', each]

/-- If no extension answers by its state, every document is compiled as if there were no others. -/
theorem compileAll_eq_map {session : Session σ} (respects : session.extensions.Respects Eq)
    (documents : List Document) :
    (session.compileAll documents).1 =
      documents.map fun document => (session.compile document).1 := by
  induction documents generalizing session with
  | nil => rfl
  | cons document rest ih =>
      have kinds := (kinds_compile session document).symm
      have later := ih (Extensions.respects_of_kinds kinds respects)
      have same (other : Document) : ((session.compile document).2.compile other).1 =
          (session.compile other).1 :=
        (compile_congr respects kinds (policy_compile session document).symm other).symm
      rw [compileAll_cons, later, List.map_cons]
      simp only [same]

/-- A run up to a part of its last document, that part, and the parts after it. -/
theorem compileAll_of_split (session : Session σ) (front : List Document) {document : Document}
    {first rest : List Part} {part : Part}
    (split : Part.ofHost document.root = first ++ part :: rest) :
    let before := (Part.judgeAll (session.compileAll front).2 first).2
    (session.compileAll (front ++ [document])).2 =
      (Part.judgeAll (part.judge before).2 rest).2 := by
  simp [compileAll_append, compileAll_cons, compile_eq, split, Part.judgeAll_append,
    Part.judgeAll_cons]

theorem policy_compileAll (session : Session σ) (documents : List Document) :
    (session.compileAll documents).2.policy = session.policy := by
  induction documents generalizing session with
  | nil => rfl
  | cons document rest ih => rw [compileAll_cons, ih, policy_compile]

/--
Documents are compiled in a fresh session, one after another, and no other extension gives rows of
conditions.  The session then remembers where the first condition among all rows came from; once it
does, further documents change nothing about it.  Judging a part changes it only if the part is a
launch condition that gives a row beside no error, and only if there was none before.  If, besides,
extensions answer from what they are given alone, every document is compiled as by a fresh session.
-/
theorem compileAll_remembers_first (policy : WarningPolicy) (extensions : Extensions σ)
    (spare : extensions.Spare .condition) (respects : extensions.Respects Eq)
    (documents : List Document) :
    let fresh := start policy extensions
    let ran := fresh.compileAll documents
    ran.2.firstCondition = Row.firstCondition? (ran.1.flatMap Output.rows) ∧
    (∀ front back span, documents = front ++ back →
      (fresh.compileAll front).2.firstCondition = some span → ran.2.firstCondition = some span) ∧
    (∀ front document back first part rest, documents = front ++ document :: back →
      Part.ofHost document.root = first ++ part :: rest →
      let before := (Part.judgeAll (fresh.compileAll front).2 first).2
      let (outcome, after) := part.judge before
      (fresh.compileAll (front ++ [document])).2 = (Part.judgeAll after rest).2 ∧
      outcome.diagnostics = (part.raised before.extensions).filterMap policy.apply ∧
      (after.firstCondition ≠ before.firstCondition →
        before.firstCondition = none ∧ part.IsCondition ∧
          Diagnostic.anyError outcome.diagnostics = false ∧
          (∃ row ∈ outcome.rows, row.table = .condition) ∧
          after.firstCondition = some part.owner.span)) ∧
    ran.1 = documents.map fun document => (fresh.compile document).1 := by
  intro fresh ran
  have kept (front : List Document) : (fresh.compileAll front).2.extensions.Spare .condition :=
    Extensions.spare_of_kinds spare (kinds_compileAll fresh front)
  refine ⟨firstCondition_compileAll spare documents, ?_, ?_, compileAll_eq_map respects documents⟩
  · rintro front back span rfl remembered
    have later := firstCondition_compileAll (kept front) back
    rw [remembered, Option.some_or] at later
    rw [← later]
    exact congrArg (·.2.firstCondition) (compileAll_append fresh front back)
  · intro front document back first part rest _ split before
    have spared : before.extensions.Spare .condition :=
      Extensions.spare_of_kinds (kept front) (Part.kinds_judgeAll _ first)
    have before_policy : before.policy = policy := by
      rw [Part.judgeAll_policy, policy_compileAll]
      rfl
    refine ⟨compileAll_of_split fresh front split, ?_, Part.firstCondition_judge_of_ne spared⟩
    rw [← before_policy]
    exact congrArg Outcome.diagnostics (Part.judge_outcome before part)

/-- A condition with the given attributes, in a file of its own. -/
def conditionIn (file : Nat) (attributes : List Attribute) : Element :=
  { bareElement ownNamespace "Condition" with
    attributes
    children := .text "A" default
    span := .ofOffsets ⟨file⟩ 8 40 }

/-- A bundle whose only child is such a condition. -/
def conditionBundle (file : Nat) (attributes : List Attribute) : Element :=
  { bareElement hostNamespace "Bundle" with
    children := .ofElements [conditionIn file attributes] }

/--
One condition lacks a message, the next has an attribute that no extension takes, a warning made an
error; only the third is remembered, and the fourth comes too late.
-/
theorem compileAll_remembers_first_escalated :
    let extensions : Extensions Unit := ⟨[⟨noteTaker, ()⟩]⟩
    let message : Attribute := ⟨⟨none, "Message", none⟩, default, "m", default⟩
    let unclaimed : Attribute := ⟨⟨some "urn:other", "Kind", none⟩, default, "k", default⟩
    let suppressed : List Document :=
      [⟨conditionBundle 0 [], default⟩, ⟨conditionBundle 1 [message, unclaimed], default⟩]
    let host := conditionBundle 2 [message, ownerNote]
    let part := Part.ownElement host (conditionIn 2 [message, ownerNote])
    let late : Document := ⟨conditionBundle 3 [message], default⟩
    let fresh := start { escalate := true } extensions
    let before := (fresh.compileAll suppressed).2
    let ran := fresh.compileAll (suppressed ++ [⟨host, default⟩, late])
    extensions.Spare .condition ∧ extensions.Respects Eq ∧
      ran.1.map (fun output => output.rows.map Row.table) =
        [[], [], [.linkVariable, .condition], [.condition]] ∧
      Part.ofHost host = [] ++ part :: [] ∧
      (part.judge before).2.firstCondition ≠ before.firstCondition ∧
      before.firstCondition = none ∧ part.IsCondition ∧
      (fresh.compileAll (suppressed ++ [⟨host, default⟩])).2.firstCondition =
        some (conditionIn 2 [message, ownerNote]).span ∧
      ran.2.firstCondition = some (conditionIn 2 [message, ownerNote]).span := by
  intro extensions message unclaimed suppressed host part late fresh before ran
  have spare : extensions.Spare .condition := by
    intro extension among
    obtain rfl := List.mem_singleton.mp among
    exact noteTaker_spares
  have respects : extensions.Respects Eq := by
    apply Extensions.Respects.of_sameBearer
    intro loaded among
    obtain rfl := List.mem_singleton.mp among
    exact noteTaker_respects
  have parts : Part.ofHost host = [] ++ part :: [] := by
    rw [Part.ofHost_eq]
    rfl
  have changed : (part.judge before).2.firstCondition ≠ before.firstCondition := by
    decide +kernel
  obtain ⟨_, once, atPart, outputs⟩ := compileAll_remembers_first { escalate := true } extensions
    spare respects (suppressed ++ [⟨host, default⟩, late])
  obtain ⟨whole, _, sets⟩ := atPart suppressed ⟨host, default⟩ [late] [] part [] rfl parts
  obtain ⟨unset, isCondition, _, _, set⟩ := sets changed
  have third : (fresh.compileAll (suppressed ++ [⟨host, default⟩])).2.firstCondition =
      some (conditionIn 2 [message, ownerNote]).span :=
    (congrArg Session.firstCondition whole).trans set
  refine ⟨spare, respects, ?_, parts, changed, unset, isCondition, third,
    once (suppressed ++ [⟨host, default⟩]) [late] _ rfl third⟩
  refine (congrArg (List.map fun output => output.rows.map Row.table) outputs).trans ?_
  decide +kernel

end Session
end BundleMarkup
