import BundleMarkup.Proofs.Judging.Walk
import Mathlib.Data.List.Forall2

/-!
# Recorded calls

Every extension can be given a record of its calls without changing what it answers.  Compiling with
recording extensions tells which calls each of them receives.
-/

namespace BundleMarkup

variable {σ : Type}

/-- A call of an extension. -/
inductive Call
  | attr (bearer : Element) (attr : Attribute)
  | element (parent element : Element)

/-- An extension that answers as before and keeps a record of its calls. -/
def Extension.recording (extension : Extension σ) : Extension (σ × List Call) :=
  { namespaceUri := extension.namespaceUri
    onAttribute := fun (state, calls) bearer attr =>
      let (outcome, state) := extension.onAttribute state bearer attr
      (outcome, state, calls ++ [.attr bearer attr])
    onElement := fun (state, calls) parent element =>
      let (outcome, state) := extension.onElement state parent element
      (outcome, state, calls ++ [.element parent element]) }

/-- Extensions in their present states with empty records. -/
def Extensions.recording (extensions : Extensions σ) : Extensions (σ × List Call) :=
  ⟨extensions.loaded.map fun loaded => ⟨loaded.extension.recording, loaded.state, []⟩⟩

/-- A session whose extensions keep records. -/
def Session.recording (session : Session σ) : Session (σ × List Call) :=
  ⟨session.policy, session.extensions.recording, session.firstCondition⟩

/-- The calls that each extension receives while a document is compiled, by namespaces. -/
def Session.calls (session : Session σ) (document : Document) : List (String × List Call) :=
  (session.recording.compile document).2.extensions.loaded.map fun loaded =>
    (loaded.namespaceUri, loaded.state.2)

/-- A recording extension keeps the state of an extension beside its record. -/
def Loaded.Records (recorder : Loaded (σ × List Call)) (loaded : Loaded σ) : Prop :=
  recorder.extension = loaded.extension.recording ∧ recorder.state.1 = loaded.state

/-- Recording extensions keep the states of extensions beside their records. -/
def Extensions.Record (recorders : Extensions (σ × List Call)) (extensions : Extensions σ) : Prop :=
  List.Forall₂ Loaded.Records recorders.loaded extensions.loaded

namespace Extensions

theorem record_recording (extensions : Extensions σ) : extensions.recording.Record extensions := by
  unfold Record recording
  rw [List.forall₂_map_left_iff, List.forall₂_same]
  exact fun loaded _ => ⟨rfl, rfl⟩

/-- An answer that is recorded is the same answer. -/
theorem record_answer {recorders : List (Loaded (σ × List Call))} {list : List (Loaded σ)}
    (record : List.Forall₂ Loaded.Records recorders list)
    {act : Loaded (σ × List Call) → Outcome × σ × List Call} {act' : Loaded σ → Outcome × σ}
    (alike : ∀ recorder loaded, Loaded.Records recorder loaded →
      (act recorder).1 = (act' loaded).1 ∧ (act recorder).2.1 = (act' loaded).2)
    (uri : String) (otherwise : Outcome) :
    (Loaded.answer uri act otherwise recorders).1 = (Loaded.answer uri act' otherwise list).1 ∧
      List.Forall₂ Loaded.Records (Loaded.answer uri act otherwise recorders).2
        (Loaded.answer uri act' otherwise list).2 := by
  induction record with
  | nil => exact ⟨rfl, .nil⟩
  | @cons recorder loaded recorders list first rest ih =>
      have uris : recorder.namespaceUri = loaded.namespaceUri :=
        congrArg Extension.namespaceUri first.1
      rw [Loaded.answer, Loaded.answer, uris]
      split
      · obtain ⟨outcome, state⟩ := alike recorder loaded first
        exact ⟨outcome, .cons ⟨first.1, state⟩ rest⟩
      · exact ⟨ih.1, .cons first ih.2⟩

theorem record_perform {recorders : Extensions (σ × List Call)} {extensions : Extensions σ}
    (record : recorders.Record extensions) (step : Step) :
    (recorders.perform step).1 = (extensions.perform step).1 ∧
      (recorders.perform step).2.Record (extensions.perform step).2 := by
  cases step with
  | report diagnostic => exact ⟨rfl, record⟩
  | delegateAttribute bearer attr =>
      apply record_answer record
      rintro ⟨_, state, calls⟩ loaded ⟨rfl, rfl⟩
      exact ⟨rfl, rfl⟩
  | delegateElement parent element =>
      apply record_answer record
      rintro ⟨_, state, calls⟩ loaded ⟨rfl, rfl⟩
      exact ⟨rfl, rfl⟩

theorem record_performAll {recorders : Extensions (σ × List Call)} {extensions : Extensions σ}
    (record : recorders.Record extensions) (steps : List Step) :
    (recorders.performAll steps).1 = (extensions.performAll steps).1 ∧
      (recorders.performAll steps).2.Record (extensions.performAll steps).2 := by
  induction steps generalizing recorders extensions with
  | nil => exact ⟨rfl, record⟩
  | cons step rest ih =>
      obtain ⟨outcome, later⟩ := record_perform record step
      obtain ⟨outcomes, last⟩ := ih later
      rw [performAll_cons, performAll_cons, outcome]
      exact ⟨by simp only [outcomes], last⟩

end Extensions

/-- Parts come to the same outcomes when calls are recorded. -/
theorem Part.judgeAll_record {recorder : Session (σ × List Call)} {session : Session σ}
    (record : recorder.extensions.Record session.extensions)
    (policy : recorder.policy = session.policy) (parts : List Part) :
    (judgeAll recorder parts).1 = (judgeAll session parts).1 := by
  induction parts generalizing recorder session with
  | nil => rfl
  | cons part rest ih =>
      obtain ⟨outcomes, later⟩ := Extensions.record_performAll record part.plan
      have first : (part.judge recorder).1 = (part.judge session).1 := by
        rw [judge_outcome, judge_outcome, policy, outcomes]
      have last : (part.judge recorder).2.extensions.Record (part.judge session).2.extensions := by
        rw [judge_extensions, judge_extensions]
        exact later
      have others := ih last (by rw [judge_policy, judge_policy, policy])
      rw [judgeAll_cons, judgeAll_cons, first]
      simp only [others]

/-- Recording calls changes nothing about what a document compiles to. -/
theorem Session.compile_recording (session : Session σ) (document : Document) :
    (session.recording.compile document).1 = (session.compile document).1 := by
  have record : session.recording.extensions.Record session.extensions :=
    session.extensions.record_recording
  rw [compile_eq, compile_eq]
  simp only [Part.judgeAll_record record rfl]

end BundleMarkup
