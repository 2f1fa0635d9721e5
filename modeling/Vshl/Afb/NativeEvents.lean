/-
  Afb/NativeEvents.lean --- what the binder sees of all event objects together.

  `Afb/AFBEvent` speaks of one event whose calls are not interleaved with any other's.  Here
  any number of them share one trace, and only a name connects an object with the native
  event that is made for it.
-/
import Vshl.Afb.AFBApi

set_option autoImplicit false

namespace Vshl.Afb

open Vshl.Foundation
open Vshl.Interfaces

/-! ## Traces of native calls -/

/-- Once an event was made under a name, none is asked for under that name again. -/
def MadeOnce (calls : NativeTrace) : Prop :=
  ∀ front name handle back, calls = front ++ .afbApiMakeEvent name (some handle) :: back →
    ∀ made, .afbApiMakeEvent name made ∉ back

/-- What is passed on was made before. -/
def PassesMade (calls : NativeTrace) : Prop :=
  ∀ front call back handle, calls = front ++ call :: back → call.Passes (some handle) →
    ∃ name, .afbApiMakeEvent name (some handle) ∈ front

/-- The null pointer is used by a push only, right after the event could not be made. -/
def NullAfterFailure (calls : NativeTrace) : Prop :=
  ∀ front call back, calls = front ++ call :: back → call.OnNull →
    (∃ payload observers, call = .afbEventPush none payload observers) ∧
      ∃ earlier name, front = earlier ++ [.afbApiMakeEvent name none]

section

variable {calls : NativeTrace}

theorem MadeOnce.make (h : MadeOnce calls) {name : String}
    (hnew : ∀ handle, .afbApiMakeEvent name (some handle) ∉ calls) (made : AfbEvent) :
    MadeOnce (calls ++ [.afbApiMakeEvent name made]) := by
  intro front name' handle back hsplit again
  rcases concat_eq_append_cons_iff.mp hsplit with ⟨-, -, rfl⟩ | ⟨init, rfl, hinit⟩
  · exact List.not_mem_nil
  · intro hmem
    rcases List.mem_append.mp hmem with hbefore | hlast
    · exact h front name' handle init hinit again hbefore
    · obtain ⟨rfl, -⟩ := NativeCall.afbApiMakeEvent.inj (List.mem_singleton.mp hlast)
      refine hnew handle ?_
      rw [hinit]
      exact List.mem_append_right _ List.mem_cons_self

theorem MadeOnce.pass (h : MadeOnce calls) {call : NativeCall} {event : AfbEvent}
    (hcall : call.Passes event) : MadeOnce (calls ++ [call]) := by
  intro front name handle back hsplit made
  rcases concat_eq_append_cons_iff.mp hsplit with ⟨-, -, rfl⟩ | ⟨init, rfl, hinit⟩
  · exact List.not_mem_nil
  · intro hmem
    rcases List.mem_append.mp hmem with hbefore | hlast
    · exact h front name handle init hinit made hbefore
    · rw [← List.mem_singleton.mp hlast] at hcall
      exact hcall

theorem PassesMade.make (h : PassesMade calls) (name : String) (made : AfbEvent) :
    PassesMade (calls ++ [.afbApiMakeEvent name made]) := by
  intro front call back handle hsplit hpasses
  rcases concat_eq_append_cons_iff.mp hsplit with ⟨-, rfl, -⟩ | ⟨init, -, hinit⟩
  · exact absurd hpasses id
  · exact h front call init handle hinit hpasses

theorem NativeCall.Passes.unique {call : NativeCall} {event event' : AfbEvent}
    (h : call.Passes event) (h' : call.Passes event') : event = event' := by
  cases call with
  | afbApiMakeEvent _ _ => exact absurd h id
  | afbEventIsValid _ _ | afbReqSubscribe _ _ _ | afbReqUnsubscribe _ _ _
  | afbEventPush _ _ _ => exact h.symm.trans h'

theorem PassesMade.pass (h : PassesMade calls) {call : NativeCall} {event : AfbEvent}
    (hcall : call.Passes event)
    (hmade : ∀ handle, event = some handle →
      ∃ name, .afbApiMakeEvent name (some handle) ∈ calls) :
    PassesMade (calls ++ [call]) := by
  intro front call' back handle hsplit hpasses
  rcases concat_eq_append_cons_iff.mp hsplit with ⟨rfl, rfl, -⟩ | ⟨init, -, hinit⟩
  · exact hmade handle (hcall.unique hpasses)
  · exact h front call' init handle hinit hpasses

theorem NullAfterFailure.other (h : NullAfterFailure calls) {call : NativeCall}
    (hcall : ¬ call.OnNull) : NullAfterFailure (calls ++ [call]) := by
  intro front call' back hsplit hnull
  rcases concat_eq_append_cons_iff.mp hsplit with ⟨-, rfl, -⟩ | ⟨init, -, hinit⟩
  · exact absurd hnull hcall
  · exact h front call' init hinit hnull

theorem NullAfterFailure.push {name : String}
    (h : NullAfterFailure (calls ++ [.afbApiMakeEvent name none])) (payload : Option Json)
    (observers : Int) :
    NullAfterFailure
      (calls ++ [.afbApiMakeEvent name none] ++ [.afbEventPush none payload observers]) := by
  intro front call' back hsplit hnull
  rcases concat_eq_append_cons_iff.mp hsplit with ⟨rfl, rfl, -⟩ | ⟨init, -, hinit⟩
  · exact ⟨⟨payload, observers, rfl⟩, calls, name, rfl⟩
  · exact h front call' init hinit hnull

end

/-! ## One method of one of the objects -/

namespace EventState

variable {native : NativeApi} {s : EventState}

/-- Along a method's calls: what is passed on was made, the object's own event under its own
name, and nothing else is made. -/
structure Sound (before : NativeTrace) (name : String) (s : EventState) : Prop where
  name_eq : s.event.mEventName = name
  passesMade : PassesMade s.calls
  mine : ∀ handle, s.event.mAfbEvent = some handle →
    .afbApiMakeEvent (cStr name) (some handle) ∈ s.calls
  others : ∀ name' handle, .afbApiMakeEvent name' (some handle) ∈ s.calls →
    .afbApiMakeEvent name' (some handle) ∈ before ∨
      (name' = cStr name ∧ s.event.mAfbEvent = some handle)
  earlier : ∀ call ∈ before, call ∈ s.calls

theorem sound_made {before : NativeTrace} {name : String} (h : Sound before name s) :
    Sound before name (s.made native) := by
  cases hevent : s.event.mAfbEvent with
  | some handle => rwa [made_of_some hevent]
  | none =>
      rw [made_of_none hevent, h.name_eq]
      refine ⟨h.name_eq, h.passesMade.make _ _, ?_, ?_, ?_⟩
      · intro handle hmade
        have hsome : native.afbApiMakeEvent s.calls (cStr name) = some handle := hmade
        rw [hsome]
        exact List.mem_append_right _ List.mem_cons_self
      · intro name' handle hmem
        rcases List.mem_append.mp hmem with hold | hnew
        · rcases h.others name' handle hold with hbefore | ⟨-, hsome⟩
          · exact Or.inl hbefore
          · exact absurd (hevent.symm.trans hsome) (by simp)
        · obtain ⟨hname, hmade⟩ :=
            NativeCall.afbApiMakeEvent.inj (List.mem_singleton.mp hnew)
          exact Or.inr ⟨hname, hmade.symm⟩
      · intro call hcall
        exact List.mem_append_left _ (h.earlier call hcall)

theorem sound_called {before : NativeTrace} {name : String} (h : Sound before name s)
    {call : NativeCall} (hcall : call.Passes s.event.mAfbEvent) :
    Sound before name (s.called call) := by
  refine ⟨h.name_eq, ?_, ?_, ?_, ?_⟩
  · exact h.passesMade.pass hcall fun handle hsome => ⟨_, h.mine handle hsome⟩
  · intro handle hsome
    exact List.mem_append_left _ (h.mine handle hsome)
  · intro name' handle hmem
    rcases List.mem_append.mp hmem with hold | hnew
    · exact h.others name' handle hold
    · rw [← List.mem_singleton.mp hnew] at hcall
      exact absurd hcall id
  · intro call' hcall'
    exact List.mem_append_left _ (h.earlier call' hcall')

theorem sound_step (native : NativeApi) {before : NativeTrace} {name : String}
    (h : Sound before name s) (op : EventOp) : Sound before name (step native s op).1 :=
  step_invariant (I := Sound before name) (fun _ => sound_made)
    (fun _ _ ht hcall => sound_called ht hcall) h op

/-- If nobody else has made an event under the object's name, the names stay apart. -/
theorem madeOnce_step (hmade : MadeOnce s.calls)
    (hfree : s.event.mAfbEvent = none →
      ∀ handle, .afbApiMakeEvent (cStr s.event.mEventName) (some handle) ∉ s.calls)
    (op : EventOp) : MadeOnce (step native s op).1.calls := by
  have hboth : MadeOnce (step native s op).1.calls ∧
      ((step native s op).1.event.mAfbEvent = none → ∀ handle,
        .afbApiMakeEvent (cStr (step native s op).1.event.mEventName) (some handle) ∉
          (step native s op).1.calls) := by
    refine step_invariant (I := fun t => MadeOnce t.calls ∧ (t.event.mAfbEvent = none →
      ∀ handle, .afbApiMakeEvent (cStr t.event.mEventName) (some handle) ∉ t.calls))
      ?_ ?_ ⟨hmade, hfree⟩ op
    · intro t ht
      cases hevent : t.event.mAfbEvent with
      | some handle => rwa [made_of_some hevent]
      | none =>
          have hnew := ht.2 hevent
          rw [made_of_none hevent]
          refine ⟨ht.1.make hnew _, ?_⟩
          intro hnone handle hmem
          rcases List.mem_append.mp hmem with hold | hlast
          · exact hnew handle hold
          · obtain ⟨-, hmade⟩ := NativeCall.afbApiMakeEvent.inj (List.mem_singleton.mp hlast)
            exact absurd (hnone.symm.trans hmade.symm) (by simp)
    · intro t call ht hcall
      refine ⟨ht.1.pass hcall, ?_⟩
      intro hnone handle hmem
      rcases List.mem_append.mp hmem with hold | hlast
      · exact ht.2 hnone handle hold
      · rw [← List.mem_singleton.mp hlast] at hcall
        exact hcall
  exact hboth.1

theorem nullAfterFailure_made (native : NativeApi) (h : NullAfterFailure s.calls) :
    NullAfterFailure (s.made native).calls := by
  cases hevent : s.event.mAfbEvent with
  | some handle => rwa [made_of_some hevent]
  | none =>
      rw [made_of_none hevent]
      exact h.other id

theorem nullAfterFailure_checked (h : NullAfterFailure s.calls) :
    NullAfterFailure (s.checked native).calls :=
  (nullAfterFailure_made native h).other id

theorem nullAfterFailure_step (hnull : native.NullIsInvalid) (h : NullAfterFailure s.calls)
    (op : EventOp) : NullAfterFailure (step native s op).1.calls := by
  rcases step_cases native s op with
    hstep | hstep | ⟨hvalid, call, hstep, hpasses⟩ | ⟨payload, rfl, result, hstep⟩
  · rw [hstep]
    exact nullAfterFailure_checked h
  · rw [hstep]
    exact nullAfterFailure_checked (nullAfterFailure_made native h)
  · rw [hstep]
    apply (nullAfterFailure_checked (nullAfterFailure_made native h)).other
    intro honNull
    exact some_of_valid hnull hvalid (hpasses.onNull honNull)
  · rw [hstep]
    have hmade := nullAfterFailure_made native h
    cases hevent : (s.made native).event.mAfbEvent with
    | some handle => exact hmade.other (by simp [NativeCall.OnNull])
    | none =>
        obtain ⟨hnone, hfails⟩ := made_eq_none_iff.mp hevent
        rw [made_of_none hnone, hfails] at hmade ⊢
        exact hmade.push payload result

end EventState

/-! ## All objects -/

namespace EventObjects

variable {native : NativeApi}

/-- The names of the objects differ, also as C strings. -/
def DistinctNames (log : Trace) : Prop :=
  ∀ (p q : EventPtr) eventName eventName' nonNull nonNull',
    log[p]? = some (.createEvent eventName nonNull) →
    log[q]? = some (.createEvent eventName' nonNull') →
    cStr eventName = cStr eventName' → p = q

theorem DistinctNames.of_append {log added : Trace} (h : DistinctNames (log ++ added)) :
    DistinctNames log := by
  have hold : ∀ (p : EventPtr) found, log[p]? = some found →
      (log ++ added)[p]? = some found := by
    intro p found hget
    obtain ⟨hlt, -⟩ := List.getElem?_eq_some_iff.mp hget
    rw [List.getElem?_append_left hlt]
    exact hget
  intro p q eventName eventName' nonNull nonNull' hp hq
  exact h p q eventName eventName' nonNull nonNull' (hold p _ hp) (hold q _ hq)

/-- The trace is sound, and whatever event was made belongs to an object. -/
structure Shared (s : EventObjects) : Prop where
  passesMade : PassesMade s.calls
  mine : ∀ p event handle, s.object p = some event → event.mAfbEvent = some handle →
    .afbApiMakeEvent (cStr event.mEventName) (some handle) ∈ s.calls
  owned : ∀ name handle, .afbApiMakeEvent name (some handle) ∈ s.calls →
    ∃ p event, s.object p = some event ∧ cStr event.mEventName = name ∧
      event.mAfbEvent = some handle

theorem shared_apply (native : NativeApi) {s : EventObjects} (h : Shared s) (p : EventPtr)
    (op : EventOp) : Shared (s.apply native p op) := by
  unfold apply
  cases hp : s.object p with
  | none => exact h
  | some event =>
      have hstart : EventState.Sound s.calls event.mEventName ⟨event, s.calls⟩ :=
        ⟨rfl, h.passesMade, fun handle => h.mine p event handle hp,
          fun _ _ hmem => Or.inl hmem, fun _ hmem => hmem⟩
      have hdone := EventState.sound_step native hstart op
      have hkeeps := EventState.keeps_step native (s := ⟨event, s.calls⟩) op
      simp only
      generalize (EventState.step native ⟨event, s.calls⟩ op).1 = done at hdone hkeeps ⊢
      refine ⟨hdone.passesMade, ?_, ?_⟩
      · intro q found handle hq hsome
        by_cases hsame : q = p
        · subst hsame
          simp only [Function.update_self] at hq
          obtain rfl := Option.some.inj hq
          rw [hdone.name_eq]
          exact hdone.mine handle hsome
        · simp only [Function.update_of_ne hsame] at hq
          exact hdone.earlier _ (h.mine q found handle hq hsome)
      · intro name handle hmem
        rcases hdone.others name handle hmem with hbefore | ⟨rfl, hsome⟩
        · obtain ⟨q, found, hq, hname, hfound⟩ := h.owned name handle hbefore
          by_cases hsame : q = p
          · subst hsame
            obtain rfl := Option.some.inj (hp.symm.trans hq)
            refine ⟨q, done.event, Function.update_self _ _ _, ?_, hkeeps.handle handle hfound⟩
            rw [hkeeps.name]
            exact hname
          · exact ⟨q, found, by simpa only [Function.update_of_ne hsame] using hq, hname,
              hfound⟩
        · exact ⟨p, done.event, Function.update_self _ _ _, by rw [hdone.name_eq], hsome⟩

theorem shared_step {log : Trace} {s : EventObjects} (hstands : Stands log s) (h : Shared s)
    (call : Call) : Shared (step native s call) := by
  cases call with
  | subscribe p request result =>
      have happly := shared_apply native h p (.subscribe request)
      exact ⟨happly.passesMade, happly.mine, happly.owned⟩
  | publishEvent p payload observers =>
      have happly := shared_apply native h p (.publishEvent (some payload))
      exact ⟨happly.passesMade, happly.mine, happly.owned⟩
  | createEvent eventName nonNull =>
      refine ⟨h.passesMade, ?_, ?_⟩
      · intro q found handle hq hsome
        by_cases hsame : q = s.position
        · subst hsame
          simp only [step, Function.update_self] at hq
          obtain rfl := Option.some.inj hq
          exact absurd hsome (by simp [AFBEventImpl.create])
        · simp only [step, Function.update_of_ne hsame] at hq
          exact h.mine q found handle hq hsome
      · intro name handle hmem
        obtain ⟨q, found, hq, hname, hsome⟩ := h.owned name handle hmem
        obtain ⟨found', hfound', hkeeps⟩ := step_object native hstands
          (.createEvent eventName nonNull) hq
        exact ⟨q, found', hfound', by rw [hkeeps.name, hname], hkeeps.handle handle hsome⟩
  | callSync _ _ _ _ | free _ | onMessagePublished _ _ =>
      exact ⟨h.passesMade, h.mine, h.owned⟩

theorem shared_after (native : NativeApi) (log : Trace) : Shared (after native log) := by
  induction log using List.reverseRecOn with
  | nil =>
      refine ⟨?_, ?_, ?_⟩
      · intro front call back handle hsplit
        exact absurd hsplit (by simp [after, initial])
      · intro p event handle hp
        exact absurd hp (by simp [after, initial])
      · intro name handle hmem
        exact absurd hmem (by simp [after, initial])
  | append_singleton log call ih =>
      rw [after_concat]
      exact shared_step (stands_after native log) ih call

/-- Two objects whose names are the same to the binder are one. -/
theorem eq_of_names {log : Trace} {s : EventObjects} (hstands : Stands log s)
    (hnames : DistinctNames log) {p q : EventPtr} {event event' : AFBEventImpl}
    (hp : s.object p = some event) (hq : s.object q = some event')
    (hsame : cStr event.mEventName = cStr event'.mEventName) : p = q := by
  obtain ⟨nonNull, hget⟩ := hstands.named p event hp
  obtain ⟨nonNull', hget'⟩ := hstands.named q event' hq
  exact hnames p q _ _ _ _ hget hget' hsame

theorem madeOnce_apply (native : NativeApi) {log : Trace} {s : EventObjects}
    (hstands : Stands log s) (hshared : Shared s) (hnames : DistinctNames log)
    (h : MadeOnce s.calls) (p : EventPtr) (op : EventOp) :
    MadeOnce (s.apply native p op).calls := by
  unfold apply
  cases hp : s.object p with
  | none => exact h
  | some event =>
      refine EventState.madeOnce_step (s := ⟨event, s.calls⟩) h ?_ op
      intro hnone handle hmem
      obtain ⟨q, found, hq, hname, hsome⟩ := hshared.owned _ handle hmem
      obtain rfl := eq_of_names hstands hnames hq hp hname
      obtain rfl := Option.some.inj (hp.symm.trans hq)
      exact absurd (hnone.symm.trans hsome) (by simp)

theorem madeOnce_after (native : NativeApi) {log : Trace} (hnames : DistinctNames log) :
    MadeOnce (nativeCalls native log) := by
  induction log using List.reverseRecOn with
  | nil =>
      intro front name handle back hsplit
      exact absurd hsplit (by simp [nativeCalls, after, initial])
  | append_singleton log call ih =>
      have hfront := hnames.of_append
      have happly := madeOnce_apply native (stands_after native log)
        (shared_after native log) hfront (ih hfront)
      simp only [nativeCalls, after_concat]
      cases call with
      | subscribe p request result => exact happly p (.subscribe request)
      | publishEvent p payload observers => exact happly p (.publishEvent (some payload))
      | createEvent _ _ | callSync _ _ _ _ | free _ | onMessagePublished _ _ => exact ih hfront

theorem nullAfterFailure_after {native : NativeApi} (hnull : native.NullIsInvalid)
    (log : Trace) : NullAfterFailure (nativeCalls native log) := by
  have happly : ∀ (s : EventObjects) p op, NullAfterFailure s.calls →
      NullAfterFailure (s.apply native p op).calls := by
    intro s p op h
    unfold apply
    cases hp : s.object p with
    | none => exact h
    | some event =>
        exact EventState.nullAfterFailure_step (s := ⟨event, s.calls⟩) hnull h op
  induction log using List.reverseRecOn with
  | nil =>
      intro front call back hsplit
      exact absurd hsplit (by simp [nativeCalls, after, initial])
  | append_singleton log call ih =>
      simp only [nativeCalls, after_concat]
      cases call with
      | subscribe p request result => exact happly _ p (.subscribe request) ih
      | publishEvent p payload observers =>
          exact happly _ p (.publishEvent (some payload)) ih
      | createEvent _ _ | callSync _ _ _ _ | free _ | onMessagePublished _ _ => exact ih

end EventObjects

end Vshl.Afb
