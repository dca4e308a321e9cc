import BundleMarkup.Proofs.Judging.Calls

/-!
# Entries of the table of extensions

The table is read and changed through one entry at a time, that of the namespace of a call.  So what
becomes of an entry is told by the calls of its namespace alone, and tables that agree on the
namespaces of some markup answer alike about it.
-/

namespace BundleMarkup

variable {σ : Type}

/-- The extension of a namespace with its present state. -/
def Extensions.find? (extensions : Extensions σ) (uri : String) : Option (Loaded σ) :=
  extensions.loaded.find? fun loaded => loaded.namespaceUri = uri

/-- What an extension answers to a call, and the state that this leaves. -/
def Loaded.act (loaded : Loaded σ) : Call → Outcome × σ
  | .attr bearer attr => loaded.extension.onAttribute loaded.state bearer attr
  | .element parent element => loaded.extension.onElement loaded.state parent element

namespace Call

/-- The step that makes a call. -/
def step : Call → Step
  | .attr bearer handed => .delegateAttribute bearer handed
  | .element parent handed => .delegateElement parent handed

/-- What is said if no extension takes the namespace of a call. -/
def unclaimed : Call → Outcome
  | .attr bearer handed => .ofDiagnostic (Message.unsupportedExtensionAttribute bearer handed)
  | .element parent handed => .ofDiagnostic (Message.unsupportedExtensionElement parent handed)

/-- What an entry by itself makes of a call, and what it is after that. -/
def serve (call : Call) : Option (Loaded σ) → Outcome × Option (Loaded σ)
  | none => (call.unclaimed, none)
  | some loaded => ((loaded.act call).1, some { loaded with state := (loaded.act call).2 })

/-- What an entry by itself makes of calls, one after another. -/
def serveAll (entry : Option (Loaded σ)) : List Call → List Outcome × Option (Loaded σ)
  | [] => ([], entry)
  | call :: rest =>
      let (outcome, entry) := call.serve entry
      let (later, entry) := serveAll entry rest
      (outcome :: later, entry)

theorem serveAll_cons (entry : Option (Loaded σ)) (call : Call) (rest : List Call) :
    serveAll entry (call :: rest) =
      ((call.serve entry).1 :: (serveAll (call.serve entry).2 rest).1,
        (serveAll (call.serve entry).2 rest).2) := rfl

/-- The outcomes of those calls that are about a namespace. -/
def outcomesIn (uri : String) (calls : List Call) (outcomes : List Outcome) : List Outcome :=
  ((calls.zip outcomes).filter fun answered => answered.1.uri = uri).map Prod.snd

theorem outcomesIn_cons (uri : String) (call : Call) (outcome : Outcome) (calls : List Call)
    (outcomes : List Outcome) :
    outcomesIn uri (call :: calls) (outcome :: outcomes) =
      if call.uri = uri then outcome :: outcomesIn uri calls outcomes
      else outcomesIn uri calls outcomes := by
  rw [outcomesIn, List.zip_cons_cons, outcomesIn]
  by_cases about : call.uri = uri <;> simp [about]

end Call

theorem Step.eq_of_call? {step : Step} {call : Call} (makes : step.call? = some call) :
    step = call.step := by
  cases step with
  | report diagnostic => cases makes
  | delegateAttribute bearer attr =>
      obtain rfl := Option.some.inj makes
      rfl
  | delegateElement parent element =>
      obtain rfl := Option.some.inj makes
      rfl

namespace Loaded

variable {uri : String} {act : Loaded σ → Outcome × σ} {otherwise : Outcome}

/-- The first extension of the namespace answers. -/
theorem fst_answer (list : List (Loaded σ)) :
    (answer uri act otherwise list).1 =
      ((list.find? fun loaded => loaded.namespaceUri = uri).map fun loaded =>
        (act loaded).1).getD otherwise := by
  induction list with
  | nil => rfl
  | cons first rest ih =>
      rw [answer]
      by_cases called : first.namespaceUri = uri
      · simp [called]
      · simp [called, ih]

/-- An answer changes the state of the extension that gives it and of no other. -/
theorem find?_answer (list : List (Loaded σ)) (other : String) :
    (answer uri act otherwise list).2.find? (fun loaded => loaded.namespaceUri = other) =
      if uri = other then
        (list.find? fun loaded => loaded.namespaceUri = other).map fun loaded =>
          { loaded with state := (act loaded).2 }
      else
        list.find? fun loaded => loaded.namespaceUri = other := by
  induction list with
  | nil => simp [answer]
  | cons first rest ih =>
      rw [answer]
      have kept (state : σ) : namespaceUri { first with state } = first.namespaceUri := rfl
      by_cases called : first.namespaceUri = uri
      · by_cases same : uri = other
        · simp [called, kept, same]
        · simp [called, kept, same]
      · by_cases found : first.namespaceUri = other
        · have different : uri ≠ other := fun same => called (found.trans same.symm)
          simp [found, different, Ne.symm different]
        · simp [called, found, ih]

end Loaded

namespace Extensions

variable (extensions : Extensions σ)

theorem perform_step (call : Call) :
    let answered := Loaded.answer call.uri (fun loaded => loaded.act call) call.unclaimed
      extensions.loaded
    extensions.perform call.step = (answered.1, ⟨answered.2⟩) := by
  cases call <;> rfl

/-- A call is answered by the entry of its namespace. -/
theorem fst_perform_step (call : Call) :
    (extensions.perform call.step).1 = (call.serve (extensions.find? call.uri)).1 := by
  rw [perform_step, Loaded.fst_answer, ← find?]
  cases extensions.find? call.uri <;> rfl

/-- A call changes the entry of its namespace, as that entry by itself would change. -/
theorem find?_perform_step (call : Call) (uri : String) :
    (extensions.perform call.step).2.find? uri =
      if call.uri = uri then (call.serve (extensions.find? uri)).2 else extensions.find? uri := by
  rw [perform_step, find?, Loaded.find?_answer, ← find?]
  cases extensions.find? uri <;> rfl

/-- Of any calls, those about a namespace come to what its entry makes of them by itself. -/
theorem performAll_calls (calls : List Call) (uri : String) :
    let own := calls.filter (·.uri = uri)
    let performed := extensions.performAll (calls.map Call.step)
    Call.outcomesIn uri calls performed.1 = (Call.serveAll (extensions.find? uri) own).1 ∧
      performed.2.find? uri = (Call.serveAll (extensions.find? uri) own).2 := by
  induction calls generalizing extensions with
  | nil => exact ⟨rfl, rfl⟩
  | cons call rest ih =>
      obtain ⟨outcomes, entry⟩ := ih (extensions.perform call.step).2
      rw [find?_perform_step] at outcomes entry
      simp only [List.map_cons, performAll_cons, Call.outcomesIn_cons]
      by_cases about : call.uri = uri
      · rw [if_pos about] at outcomes entry ⊢
        rw [List.filter_cons_of_pos (by simpa using about), Call.serveAll_cons, fst_perform_step,
          about, outcomes]
        exact ⟨rfl, entry⟩
      · rw [if_neg about] at outcomes entry ⊢
        rw [List.filter_cons_of_neg (by simpa using about)]
        exact ⟨outcomes, entry⟩

/-- Tables have the same entries for some namespaces. -/
def AgreeOn (concerns : String → Prop) (left right : Extensions σ) : Prop :=
  ∀ uri, concerns uri → left.find? uri = right.find? uri

variable {concerns : String → Prop} {left right : Extensions σ}

/-- Tables that agree on the namespace of a step do the same and go on agreeing. -/
theorem AgreeOn.perform (agree : AgreeOn concerns left right) {step : Step}
    (concerned : ∀ call, step.call? = some call → concerns call.uri) :
    (left.perform step).1 = (right.perform step).1 ∧
      AgreeOn concerns (left.perform step).2 (right.perform step).2 := by
  cases makes : step.call? with
  | none =>
      cases step with
      | report diagnostic => exact ⟨rfl, agree⟩
      | delegateAttribute bearer attr => cases makes
      | delegateElement parent element => cases makes
  | some call =>
      obtain rfl := Step.eq_of_call? makes
      constructor
      · rw [fst_perform_step, fst_perform_step, agree call.uri (concerned call makes)]
      · intro uri among
        rw [find?_perform_step, find?_perform_step, agree uri among]

theorem AgreeOn.performAll (agree : AgreeOn concerns left right) {steps : List Step}
    (concerned : ∀ call ∈ steps.filterMap Step.call?, concerns call.uri) :
    (left.performAll steps).1 = (right.performAll steps).1 ∧
      AgreeOn concerns (left.performAll steps).2 (right.performAll steps).2 := by
  induction steps generalizing left right with
  | nil => exact ⟨rfl, agree⟩
  | cons step rest ih =>
      obtain ⟨first, still⟩ := agree.perform fun call makes =>
        concerned call (List.mem_filterMap.mpr ⟨step, List.mem_cons_self, makes⟩)
      obtain ⟨later, last⟩ := ih still fun call among => by
        obtain ⟨other, member, makes⟩ := List.mem_filterMap.mp among
        exact concerned call (List.mem_filterMap.mpr ⟨other, List.mem_cons_of_mem _ member, makes⟩)
      rw [performAll_cons, performAll_cons, first, later]
      exact ⟨rfl, last⟩

end Extensions

/-- Parts come to the same with tables that agree on what the parts hand over. -/
theorem Part.judgeAll_agree {concerns : String → Prop} {left right : Session σ}
    (policies : left.policy = right.policy)
    (agree : left.extensions.AgreeOn concerns right.extensions) {parts : List Part}
    (concerned : ∀ call ∈ (parts.flatMap plan).filterMap Step.call?, concerns call.uri) :
    (judgeAll left parts).1 = (judgeAll right parts).1 := by
  induction parts generalizing left right with
  | nil => rfl
  | cons part rest ih =>
      rw [List.flatMap_cons, List.filterMap_append] at concerned
      obtain ⟨first, still⟩ := agree.performAll fun call among =>
        concerned call (List.mem_append_left _ among)
      have later := @ih (part.judge left).2 (part.judge right).2
        (by rw [judge_policy, judge_policy, policies])
        (by rwa [judge_extensions, judge_extensions])
        fun call among => concerned call (List.mem_append_right _ among)
      rw [judgeAll_cons, judgeAll_cons, later, judge_outcome, judge_outcome, first, policies]

/-- A document is compiled to the same with tables that agree on what it hands over. -/
theorem Session.compile_agree {concerns : String → Prop} {left right : Session σ}
    (policies : left.policy = right.policy)
    (agree : left.extensions.AgreeOn concerns right.extensions) {document : Document}
    (concerned : ∀ call ∈ document.handed, concerns call.uri) :
    (left.compile document).1 = (right.compile document).1 ∧
      (left.compile document).2.extensions.AgreeOn concerns
        (right.compile document).2.extensions := by
  constructor
  · rw [compile_eq, compile_eq, Part.judgeAll_agree policies agree concerned]
  · rw [extensions_compile, extensions_compile]
    exact (agree.performAll concerned).2

end BundleMarkup
