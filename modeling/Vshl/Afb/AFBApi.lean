/-
  Afb/AFBApi.lean --- `AFBApiImpl`, and the plugin's calls on it as calls to the binder.

  The rest of the plugin speaks of event objects by the `createEvent` call that made them.
  Here the objects are there: each is an `AFBEventImpl`, and they all call the one binder.
  `createEvent` only makes the object, so it never fails; the native event is made later.
-/
import Vshl.Afb.AFBEvent
import Mathlib.Logic.Function.Basic

set_option autoImplicit false

namespace Vshl.Afb

open Vshl.Foundation
open Vshl.Interfaces

/-- The event objects that were handed out, and what they have called. -/
structure EventObjects where
  /-- how many calls the plugin has made -/
  position : Nat
  object : EventPtr → Option AFBEventImpl
  calls : NativeTrace

namespace EventObjects

variable (native : NativeApi)

/-- Before the first call. -/
def initial : EventObjects := ⟨0, fun _ => none, []⟩

/-- One more call of the plugin. -/
def tick (s : EventObjects) : EventObjects := { s with position := s.position + 1 }

/-- A method of an event is called. -/
def apply (s : EventObjects) (p : EventPtr) (op : EventOp) : EventObjects :=
  match s.object p with
  | none => s
  | some event =>
      let done := (EventState.step native ⟨event, s.calls⟩ op).1
      { s with object := Function.update s.object p (some done.event), calls := done.calls }

/-- What the method returns. -/
def answer (s : EventObjects) (p : EventPtr) (op : EventOp) : Option EventResult :=
  (s.object p).map fun event => (EventState.step native ⟨event, s.calls⟩ op).2

/-- A call of the plugin: `AFBApiImpl::createEvent` makes an object, the methods of events
are called on theirs, and the other calls do not concern events. -/
def step (s : EventObjects) : Call → EventObjects
  | .createEvent eventName _ =>
      { s with
        position := s.position + 1
        object := Function.update s.object s.position (some (.create eventName)) }
  | .subscribe event request _ => (s.apply native event (.subscribe request)).tick
  | .publishEvent event payload _ => (s.apply native event (.publishEvent (some payload))).tick
  | .callSync _ _ _ _ | .free _ | .onMessagePublished _ _ => s.tick

/-- After these calls. -/
def after (log : Trace) : EventObjects := log.foldl (step native) initial

theorem after_concat (log : Trace) (call : Call) :
    after native (log ++ [call]) = step native (after native log) call := by
  unfold after
  rw [List.foldl_append]
  rfl

end EventObjects

/-- The calls to the binder that these calls of the plugin come to. -/
def nativeCalls (native : NativeApi) (log : Trace) : NativeTrace :=
  (EventObjects.after native log).calls

/-- The answer as a truth value, and as a number. -/
def EventResult.isTrue : EventResult → Bool
  | .bool b => b
  | .int _ => false

def EventResult.number : EventResult → Int
  | .bool _ => 0
  | .int n => n

/-- The outside as the plugin meets it through `AFBApiImpl`: the events are its objects, and
everything else is passed on to the binder. -/
def AFBApiImpl.environment (native : NativeApi) (binder : Environment) : Environment :=
  { binder with
    createEvent := fun _ _ => true
    subscribe := fun log event request =>
      (((EventObjects.after native log).answer native event (.subscribe request)).map
        EventResult.isTrue).getD false
    publishEvent := fun log event payload =>
      (((EventObjects.after native log).answer native event (.publishEvent (some payload))).map
        EventResult.number).getD 0 }

/-! ## What a method does to its object -/

namespace EventState

variable {native : NativeApi} {s : EventState}

/-- The name stays, and so does the native event once it is made. -/
structure Keeps (before after : AFBEventImpl) : Prop where
  name : after.mEventName = before.mEventName
  handle : ∀ handle, before.mAfbEvent = some handle → after.mAfbEvent = some handle

theorem Keeps.refl (event : AFBEventImpl) : Keeps event event := ⟨rfl, fun _ h => h⟩

theorem Keeps.trans {first second third : AFBEventImpl} (h : Keeps first second)
    (h' : Keeps second third) : Keeps first third :=
  ⟨h'.name.trans h.name, fun handle hfirst => h'.handle handle (h.handle handle hfirst)⟩

theorem keeps_step (native : NativeApi) (op : EventOp) :
    Keeps s.event (step native s op).1.event := by
  refine step_invariant (I := fun t => Keeps s.event t.event) ?_ ?_ (Keeps.refl _) op
  · intro t ht
    cases hevent : t.event.mAfbEvent with
    | some handle => rwa [made_of_some hevent]
    | none =>
        rw [made_of_none hevent]
        refine ⟨ht.name, ?_⟩
        intro handle hbefore
        exact absurd ((ht.handle handle hbefore).symm.trans hevent) (by simp)
  · intro t call ht _
    exact ht

/-- A subscription that succeeds ends with the native one, on an event that is there. -/
theorem step_subscribe_true (hnull : native.NullIsInvalid) {request : RequestPtr}
    (h : (step native s (.subscribe request)).2 = .bool true) :
    ∃ handle checks, (step native s (.subscribe request)).1.event.mAfbEvent = some handle ∧
      (step native s (.subscribe request)).1.calls =
        s.calls ++ checks ++ [.afbReqSubscribe request (some handle) 0] := by
  -- the check of `subscribe`, after it has made the event
  have hisValid : (s.event.makeEventIfNeccessary native s.calls).1.isValid native
        (s.event.makeEventIfNeccessary native s.calls).2 =
      ((s.made native).valid native, ((s.made native).checked native).event,
        ((s.made native).checked native).calls) := isValid_eq (s := s.made native) rfl
  cases hvalid : (s.made native).valid native with
  | false =>
      rw [hvalid] at hisValid
      simp [step, AFBEventImpl.subscribe, hisValid] at h
  | true =>
      rw [hvalid] at hisValid
      have hsome := some_of_valid hnull hvalid
      obtain ⟨handle, hhandle⟩ := Option.ne_none_iff_exists'.mp hsome
      have hchecked : ((s.made native).checked native).event.mAfbEvent = some handle := hhandle
      obtain ⟨checks, hchecks⟩ : ∃ checks,
          ((s.made native).checked native).calls = s.calls ++ checks := by
        have hgrows := calls_step native (s.made native) .isValid
        obtain ⟨later, hlater⟩ := hgrows
        obtain ⟨first, hfirst⟩ : ∃ first, (s.made native).calls = s.calls ++ first := by
          cases hevent : s.event.mAfbEvent with
          | some _ => exact ⟨[], by rw [made_of_some hevent, List.append_nil]⟩
          | none => exact ⟨_, by rw [made_of_none hevent]⟩
        refine ⟨first ++ later, ?_⟩
        rw [← List.append_assoc, ← hfirst]
        exact hlater
      simp only [step, AFBEventImpl.subscribe, hisValid, hchecked, EventResult.bool.injEq,
        decide_eq_true_eq] at h ⊢
      rw [h]
      exact ⟨handle, checks, rfl, by rw [hchecks]⟩

/-- A push on an event that is made is one native call. -/
theorem step_publishEvent_some (native : NativeApi) {handle : EventHandle}
    (h : s.event.mAfbEvent = some handle) (payload : Option Json) :
    ∃ observers, (step native s (.publishEvent payload)).2 = .int observers ∧
      (step native s (.publishEvent payload)).1.calls =
        s.calls ++ [.afbEventPush (some handle) payload observers] := by
  have hmade : s.event.makeEventIfNeccessary native s.calls = (s.event, s.calls) := by
    unfold AFBEventImpl.makeEventIfNeccessary
    rw [h]
  simp only [step, AFBEventImpl.publishEvent, hmade, h]
  exact ⟨_, rfl, rfl⟩

end EventState

/-! ## The objects along a trace -/

namespace EventObjects

variable {native : NativeApi}

/-- There is an object for each `createEvent` call, with the name that was given. -/
structure Stands (log : Trace) (s : EventObjects) : Prop where
  position : s.position = log.length
  named : ∀ p event, s.object p = some event →
    ∃ nonNull, log[p]? = some (.createEvent event.mEventName nonNull)
  there : ∀ (p : EventPtr) eventName nonNull, log[p]? = some (.createEvent eventName nonNull) →
    ∃ event, s.object p = some event ∧ event.mEventName = eventName

theorem apply_position (s : EventObjects) (p : EventPtr) (op : EventOp) :
    (s.apply native p op).position = s.position := by
  unfold apply
  split
  · rfl
  · rfl

/-- A method keeps every object. -/
theorem apply_object (s : EventObjects) (p : EventPtr) (op : EventOp) (q : EventPtr) :
    (s.object q = none → (s.apply native p op).object q = none) ∧
      ∀ event, s.object q = some event → ∃ event',
        (s.apply native p op).object q = some event' ∧ EventState.Keeps event event' := by
  unfold apply
  cases hp : s.object p with
  | none => exact ⟨id, fun event hq => ⟨event, hq, .refl event⟩⟩
  | some found =>
      simp only
      by_cases hsame : q = p
      · subst hsame
        refine ⟨fun hnone => absurd (hp.symm.trans hnone) (by simp), ?_⟩
        intro event hq
        obtain rfl := Option.some.inj (hp.symm.trans hq)
        exact ⟨_, Function.update_self _ _ _,
          EventState.keeps_step native (s := ⟨found, s.calls⟩) op⟩
      · rw [Function.update_of_ne hsame]
        exact ⟨id, fun event hq => ⟨event, hq, .refl event⟩⟩

/-- A call keeps every object. -/
theorem step_object (native : NativeApi) {log : Trace} {s : EventObjects} (h : Stands log s)
    (call : Call) {q : EventPtr} {event : AFBEventImpl} (hq : s.object q = some event) :
    ∃ event', (step native s call).object q = some event' ∧ EventState.Keeps event event' := by
  cases call with
  | createEvent eventName nonNull =>
      have hne : q ≠ s.position := by
        rintro rfl
        obtain ⟨_, hget⟩ := h.named _ event hq
        rw [h.position, List.getElem?_eq_none (Nat.le_refl _)] at hget
        exact absurd hget (by simp)
      simp only [step, Function.update_of_ne hne]
      exact ⟨event, hq, .refl event⟩
  | subscribe p request result => exact (apply_object s p (.subscribe request) q).2 event hq
  | publishEvent p payload observers =>
      exact (apply_object s p (.publishEvent (some payload)) q).2 event hq
  | callSync _ _ _ _ | free _ | onMessagePublished _ _ => exact ⟨event, hq, .refl event⟩

/-- Only `createEvent` makes an object. -/
theorem step_object_none {s : EventObjects} {call : Call} {q : EventPtr}
    (hcall : ∀ eventName nonNull, call ≠ .createEvent eventName nonNull)
    (hq : s.object q = none) : (step native s call).object q = none := by
  cases call with
  | createEvent eventName nonNull => exact absurd rfl (hcall eventName nonNull)
  | subscribe p request result => exact (apply_object s p (.subscribe request) q).1 hq
  | publishEvent p payload observers =>
      exact (apply_object s p (.publishEvent (some payload)) q).1 hq
  | callSync _ _ _ _ | free _ | onMessagePublished _ _ => exact hq

theorem step_position (s : EventObjects) (call : Call) :
    (step native s call).position = s.position + 1 := by
  cases call with
  | subscribe p request result => exact congrArg (· + 1) (apply_position s p _)
  | publishEvent p payload observers => exact congrArg (· + 1) (apply_position s p _)
  | createEvent _ _ | callSync _ _ _ _ | free _ | onMessagePublished _ _ => rfl

theorem Stands.step {log : Trace} {s : EventObjects} (h : Stands log s) (call : Call) :
    Stands (log ++ [call]) (step native s call) := by
  have hold : ∀ (p : EventPtr) found, log[p]? = some found →
      (log ++ [call])[p]? = some found := by
    intro p found hget
    obtain ⟨hlt, -⟩ := List.getElem?_eq_some_iff.mp hget
    rw [List.getElem?_append_left hlt]
    exact hget
  have hnamed : ∀ p event, s.object p = some event → ∀ event',
      (EventObjects.step native s call).object p = some event' →
      ∃ nonNull, (log ++ [call])[p]? = some (.createEvent event'.mEventName nonNull) := by
    intro p event hp event' hp'
    obtain ⟨kept, hkept, hkeeps⟩ := step_object native h call hp
    obtain rfl := Option.some.inj (hkept.symm.trans hp')
    obtain ⟨nonNull, hget⟩ := h.named p event hp
    rw [hkeeps.name]
    exact ⟨nonNull, hold p _ hget⟩
  refine ⟨?_, ?_, ?_⟩
  · rw [step_position, h.position, List.length_append, List.length_singleton]
  · intro p event' hp'
    cases hp : s.object p with
    | some event => exact hnamed p event hp event' hp'
    | none =>
        by_cases hcreate : ∃ eventName nonNull, call = .createEvent eventName nonNull
        · obtain ⟨eventName, nonNull, rfl⟩ := hcreate
          by_cases hpos : p = s.position
          · subst hpos
            simp only [EventObjects.step, Function.update_self] at hp'
            obtain rfl := Option.some.inj hp'
            rw [h.position]
            exact ⟨nonNull, by simp [AFBEventImpl.create]⟩
          · simp only [EventObjects.step, Function.update_of_ne hpos] at hp'
            exact absurd (hp.symm.trans hp') (by simp)
        · have hnone : (EventObjects.step native s call).object p = none :=
            step_object_none (fun eventName nonNull heq => hcreate ⟨eventName, nonNull, heq⟩) hp
          exact absurd (hnone.symm.trans hp') (by simp)
  · intro p eventName nonNull hget
    by_cases hlt : p < log.length
    · rw [List.getElem?_append_left hlt] at hget
      obtain ⟨event, hp, hname⟩ := h.there p eventName nonNull hget
      obtain ⟨event', hp', hkeeps⟩ := step_object native h call hp
      exact ⟨event', hp', hkeeps.name.trans hname⟩
    · obtain ⟨hbound, hcall⟩ := List.getElem?_eq_some_iff.mp hget
      rw [List.length_append, List.length_singleton] at hbound
      obtain rfl : p = log.length := Nat.le_antisymm (Nat.le_of_lt_succ hbound)
        (Nat.le_of_not_lt hlt)
      obtain rfl : call = .createEvent eventName nonNull := by simpa using hcall
      refine ⟨.create eventName, ?_, rfl⟩
      simp only [EventObjects.step, ← h.position, Function.update_self]

theorem stands_after (native : NativeApi) (log : Trace) : Stands log (after native log) := by
  induction log using List.reverseRecOn with
  | nil =>
      refine ⟨rfl, ?_, ?_⟩
      · intro p event hp
        exact absurd hp (by simp [after, initial])
      · intro p eventName nonNull hget
        exact absurd hget (by simp)
  | append_singleton log call ih =>
      rw [after_concat]
      exact ih.step call

/-- An object stays, with its name and, once it is made, its native event. -/
theorem after_object {log : Trace} {q : EventPtr} {event : AFBEventImpl}
    (h : (after native log).object q = some event) (added : Trace) :
    ∃ event', (after native (log ++ added)).object q = some event' ∧
      EventState.Keeps event event' := by
  induction added using List.reverseRecOn with
  | nil => exact ⟨event, by rwa [List.append_nil], .refl event⟩
  | append_singleton added call ih =>
      obtain ⟨event', hevent', hkeeps⟩ := ih
      obtain ⟨event'', hevent'', hkeeps'⟩ :=
        step_object native (stands_after native (log ++ added)) call hevent'
      refine ⟨event'', ?_, hkeeps.trans hkeeps'⟩
      rw [← List.append_assoc, after_concat]
      exact hevent''

/-! ## From the plugin's calls to native calls -/

/-- A subscription that succeeds subscribes to the object's native event. -/
theorem subscribed_natively (binder : Environment) (hnull : native.NullIsInvalid)
    {before : Trace} {p : EventPtr} {event : AFBEventImpl}
    (hevent : (after native before).object p = some event) {request : RequestPtr}
    (h : (AFBApiImpl.environment native binder).subscribe before p request = true) :
    ∃ handle checks event',
      (after native (before ++ [.subscribe p request true])).object p = some event' ∧
        event'.mAfbEvent = some handle ∧
        nativeCalls native (before ++ [.subscribe p request true]) =
          nativeCalls native before ++ checks ++ [.afbReqSubscribe request (some handle) 0] := by
  have htrue : (EventState.step native ⟨event, (after native before).calls⟩
      (.subscribe request)).2 = .bool true := by
    simp only [AFBApiImpl.environment, answer, hevent, Option.map_some, Option.getD_some] at h
    generalize (EventState.step native ⟨event, (after native before).calls⟩
      (.subscribe request)).2 = result at h ⊢
    cases result with
    | bool b => exact congrArg EventResult.bool h
    | int n => exact absurd h (by simp [EventResult.isTrue])
  obtain ⟨handle, checks, hhandle, hcalls⟩ := EventState.step_subscribe_true hnull htrue
  refine ⟨handle, checks, _, ?_, hhandle, ?_⟩
  · simp only [after_concat, step, apply, hevent, tick, Function.update_self]
  · simp only [nativeCalls, after_concat, step, apply, hevent, tick]
    exact hcalls

/-- A push on an object whose native event is made is one push of that. -/
theorem pushed_natively (binder : Environment) {before : Trace} {p : EventPtr}
    {event : AFBEventImpl} (hevent : (after native before).object p = some event)
    {handle : EventHandle}
    (hhandle : event.mAfbEvent = some handle) (payload : Json) {observers : Int}
    (h : observers = (AFBApiImpl.environment native binder).publishEvent before p payload) :
    nativeCalls native (before ++ [.publishEvent p payload observers]) =
      nativeCalls native before ++
        [.afbEventPush (some handle) (some payload) observers] := by
  obtain ⟨sent, hsent, hcalls⟩ := EventState.step_publishEvent_some native
    (s := ⟨event, (after native before).calls⟩) hhandle (some payload)
  have hobservers : observers = sent := by
    rw [h]
    simp only [AFBApiImpl.environment, answer, hevent, Option.map_some, Option.getD_some, hsent,
      EventResult.number]
  rw [hobservers]
  simp only [nativeCalls, after_concat, step, apply, hevent, tick]
  exact hcalls

/-- The call does not concern events. -/
def Quiet : Call → Prop
  | .callSync _ _ _ _ | .free _ | .onMessagePublished _ _ => True
  | .createEvent _ _ | .subscribe _ _ _ | .publishEvent _ _ _ => False

theorem nativeCalls_quiet (log : Trace) {added : Trace} (h : ∀ call ∈ added, Quiet call) :
    nativeCalls native (log ++ added) = nativeCalls native log := by
  induction added using List.reverseRecOn with
  | nil => rw [List.append_nil]
  | append_singleton added call ih =>
      have hadded := ih fun c hc => h c (List.mem_append_left _ hc)
      have hcall := h call (List.mem_append_right _ List.mem_cons_self)
      rw [← List.append_assoc, ← hadded]
      unfold nativeCalls
      rw [after_concat]
      cases call with
      | callSync _ _ _ _ | free _ | onMessagePublished _ _ => rfl
      | createEvent _ _ | subscribe _ _ _ | publishEvent _ _ _ => exact absurd hcall id

end EventObjects

end Vshl.Afb
