/-
  Afb/AFBEvent.lean --- `AFBEventImpl`, the event that `AFBApiImpl` hands to the rest of
  the plugin.

  The native event is made when it is first needed, and making it is tried again by every
  later call until it succeeds.  The binder's functions are not part of the repository; a
  `NativeApi` answers for them and may look at all earlier calls.
-/
import Vshl.Foundation.Machine
import Vshl.Interfaces.Afb

set_option autoImplicit false

namespace Vshl.Afb

open Vshl.Foundation
open Vshl.Interfaces

/-- A native event that is not null. -/
abbrev EventHandle := Nat

/-- An `afb_event_t`; `none` is the null pointer. -/
abbrev AfbEvent := Option EventHandle

/-- One call of a function of the binder, with the answer it got. -/
inductive NativeCall where
  /-- `afb_api_make_event` -/
  | afbApiMakeEvent (eventName : String) (made : AfbEvent)
  /-- `afb_event_is_valid` -/
  | afbEventIsValid (event : AfbEvent) (result : Int)
  /-- `afb_req_subscribe` -/
  | afbReqSubscribe (request : RequestPtr) (event : AfbEvent) (result : Int)
  /-- `afb_req_unsubscribe` -/
  | afbReqUnsubscribe (request : RequestPtr) (event : AfbEvent) (result : Int)
  /-- `afb_event_push`; the payload may be a null pointer -/
  | afbEventPush (event : AfbEvent) (payload : Option Json) (result : Int)

/-- The calls made so far, oldest first. -/
abbrev NativeTrace := List NativeCall

/-- How the binder answers, given the calls made before. -/
structure NativeApi where
  afbApiMakeEvent : NativeTrace → String → AfbEvent
  afbEventIsValid : NativeTrace → AfbEvent → Int
  afbReqSubscribe : NativeTrace → RequestPtr → AfbEvent → Int
  afbReqUnsubscribe : NativeTrace → RequestPtr → AfbEvent → Int
  afbEventPush : NativeTrace → AfbEvent → Option Json → Int

/-- The state of an `AFBEventImpl`. -/
structure AFBEventImpl where
  mEventName : String
  mAfbEvent : AfbEvent

namespace AFBEventImpl

/-- `AFBEventImpl::create`. -/
def create (eventName : String) : AFBEventImpl := ⟨eventName, none⟩

/-- `AFBEventImpl::makeEventIfNeccessary`. -/
def makeEventIfNeccessary (api : NativeApi) (event : AFBEventImpl) (calls : NativeTrace) :
    AFBEventImpl × NativeTrace :=
  match event.mAfbEvent with
  | some _ => (event, calls)
  | none =>
      let made := api.afbApiMakeEvent calls (cStr event.mEventName)
      ({ event with mAfbEvent := made }, calls ++ [.afbApiMakeEvent (cStr event.mEventName) made])

/-- `AFBEventImpl::isValid`. -/
def isValid (api : NativeApi) (event : AFBEventImpl) (calls : NativeTrace) :
    Bool × AFBEventImpl × NativeTrace :=
  let made := event.makeEventIfNeccessary api calls
  let result := api.afbEventIsValid made.2 made.1.mAfbEvent
  (result = 1, made.1, made.2 ++ [.afbEventIsValid made.1.mAfbEvent result])

/-- `AFBEventImpl::subscribe`. -/
def subscribe (api : NativeApi) (event : AFBEventImpl) (calls : NativeTrace)
    (request : RequestPtr) : Bool × AFBEventImpl × NativeTrace :=
  let made := event.makeEventIfNeccessary api calls
  match made.1.isValid api made.2 with
  | (false, event, calls) => (false, event, calls)
  | (true, event, calls) =>
      let result := api.afbReqSubscribe calls request event.mAfbEvent
      (result = 0, event, calls ++ [.afbReqSubscribe request event.mAfbEvent result])

/-- `AFBEventImpl::unsubscribe`. -/
def unsubscribe (api : NativeApi) (event : AFBEventImpl) (calls : NativeTrace)
    (request : RequestPtr) : Bool × AFBEventImpl × NativeTrace :=
  let made := event.makeEventIfNeccessary api calls
  match made.1.isValid api made.2 with
  | (false, event, calls) => (false, event, calls)
  | (true, event, calls) =>
      let result := api.afbReqUnsubscribe calls request event.mAfbEvent
      (result = 0, event, calls ++ [.afbReqUnsubscribe request event.mAfbEvent result])

/-- `AFBEventImpl::publishEvent`. -/
def publishEvent (api : NativeApi) (event : AFBEventImpl) (calls : NativeTrace)
    (payload : Option Json) : Int × AFBEventImpl × NativeTrace :=
  let made := event.makeEventIfNeccessary api calls
  let result := api.afbEventPush made.2 made.1.mAfbEvent payload
  (result, made.1, made.2 ++ [.afbEventPush made.1.mAfbEvent payload result])

end AFBEventImpl

/-! ## An event as a machine -/

/-- An event and the native calls made so far. -/
structure EventState where
  event : AFBEventImpl
  calls : NativeTrace

/-- One call of a method. -/
inductive EventOp where
  | isValid
  | subscribe (request : RequestPtr)
  | unsubscribe (request : RequestPtr)
  | publishEvent (payload : Option Json)

/-- What a method returns. -/
inductive EventResult where
  | bool (b : Bool)
  | int (n : Int)
  deriving DecidableEq, Repr

namespace EventState

/-- A new event. -/
def initial (eventName : String) : EventState := ⟨.create eventName, []⟩

def step (api : NativeApi) (s : EventState) : EventOp → EventState × EventResult
  | .isValid =>
      let done := s.event.isValid api s.calls
      (⟨done.2.1, done.2.2⟩, .bool done.1)
  | .subscribe request =>
      let done := s.event.subscribe api s.calls request
      (⟨done.2.1, done.2.2⟩, .bool done.1)
  | .unsubscribe request =>
      let done := s.event.unsubscribe api s.calls request
      (⟨done.2.1, done.2.2⟩, .bool done.1)
  | .publishEvent payload =>
      let done := s.event.publishEvent api s.calls payload
      (⟨done.2.1, done.2.2⟩, .int done.1)

/-- The event as a machine. -/
def machine (api : NativeApi) : Machine EventState EventOp EventResult := ⟨step api⟩

end EventState

/-! ## What the native calls are about -/

namespace NativeCall

/-- The call made the event. -/
def Makes (call : NativeCall) : Prop :=
  ∃ eventName handle, call = .afbApiMakeEvent eventName (some handle)

/-- The call is about an event that is there, and passes it on. -/
def Passes (event : AfbEvent) : NativeCall → Prop
  | .afbApiMakeEvent _ _ => False
  | .afbEventIsValid passed _ => passed = event
  | .afbReqSubscribe _ passed _ => passed = event
  | .afbReqUnsubscribe _ passed _ => passed = event
  | .afbEventPush passed _ _ => passed = event

/-- The call subscribes, unsubscribes or pushes with a null pointer. -/
def OnNull : NativeCall → Prop
  | .afbReqSubscribe _ event _ => event = none
  | .afbReqUnsubscribe _ event _ => event = none
  | .afbEventPush event _ _ => event = none
  | _ => False

theorem Passes.not_makes {event : AfbEvent} {call : NativeCall} (h : call.Passes event) :
    ¬ call.Makes := by
  rintro ⟨eventName, handle, rfl⟩
  exact h

theorem Passes.onNull {event : AfbEvent} {call : NativeCall} (h : call.Passes event)
    (hnull : call.OnNull) : event = none := by
  cases call with
  | afbApiMakeEvent eventName made => exact absurd hnull id
  | afbEventIsValid passed result => exact absurd hnull id
  | afbReqSubscribe request passed result => exact h.symm.trans hnull
  | afbReqUnsubscribe request passed result => exact h.symm.trans hnull
  | afbEventPush passed payload result => exact h.symm.trans hnull

end NativeCall

/-- `afb_event_is_valid` does not call the null pointer valid. -/
def NativeApi.NullIsInvalid (api : NativeApi) : Prop :=
  ∀ calls, api.afbEventIsValid calls none ≠ 1

/-- The method did not do what it was called for: it returned `false`, or nobody received
the event. -/
def EventResult.Fails : EventResult → Prop
  | .bool b => b = false
  | .int n => n ≤ 0

/-! ## What a method does

Every method makes the event if there is none, and what it calls after that is passed the
event it has then. -/

namespace EventState

/-- After `makeEventIfNeccessary`. -/
def made (api : NativeApi) (s : EventState) : EventState :=
  let done := s.event.makeEventIfNeccessary api s.calls
  ⟨done.1, done.2⟩

/-- After one more native call. -/
def called (s : EventState) (call : NativeCall) : EventState :=
  { s with calls := s.calls ++ [call] }

/-- Is the event there, and does the binder call it valid? -/
def valid (api : NativeApi) (s : EventState) : Bool :=
  api.afbEventIsValid (s.made api).calls (s.made api).event.mAfbEvent = 1

/-- After `isValid`. -/
def checked (api : NativeApi) (s : EventState) : EventState :=
  (s.made api).called (.afbEventIsValid (s.made api).event.mAfbEvent
    (api.afbEventIsValid (s.made api).calls (s.made api).event.mAfbEvent))

/-- There is no event, and making it fails. -/
def Unmakeable (api : NativeApi) (s : EventState) : Prop :=
  s.event.mAfbEvent = none ∧ api.afbApiMakeEvent s.calls (cStr s.event.mEventName) = none

section

variable {api : NativeApi} {s : EventState}

theorem made_of_some {handle : EventHandle} (h : s.event.mAfbEvent = some handle) :
    s.made api = s := by
  unfold made AFBEventImpl.makeEventIfNeccessary
  rw [h]

theorem made_of_none (h : s.event.mAfbEvent = none) :
    s.made api =
      ⟨{ s.event with mAfbEvent := api.afbApiMakeEvent s.calls (cStr s.event.mEventName) },
        s.calls ++ [.afbApiMakeEvent (cStr s.event.mEventName)
          (api.afbApiMakeEvent s.calls (cStr s.event.mEventName))]⟩ := by
  unfold made AFBEventImpl.makeEventIfNeccessary
  rw [h]

theorem made_eq_none_iff : (s.made api).event.mAfbEvent = none ↔ s.Unmakeable api := by
  unfold Unmakeable
  cases h : s.event.mAfbEvent with
  | some handle => simp [made_of_some h, h]
  | none => simp [made_of_none h]

theorem isValid_eq {b : Bool} (h : s.valid api = b) :
    s.event.isValid api s.calls = (b, (s.checked api).event, (s.checked api).calls) := by
  rw [← h]
  rfl

/-- `subscribe` and `unsubscribe` end after the check, or go on to one more call. -/
theorem step_request (api : NativeApi) (s : EventState) (op : EventOp) (request : RequestPtr)
    (hop : op = .subscribe request ∨ op = .unsubscribe request) :
    step api s op = ((s.made api).checked api, .bool false) ∨
      (s.made api).valid api = true ∧ ∃ call,
        (step api s op).1 = ((s.made api).checked api).called call ∧
        call.Passes ((s.made api).checked api).event.mAfbEvent := by
  have hsubscribe : s.event.subscribe api s.calls request =
      match (s.made api).event.isValid api (s.made api).calls with
      | (false, event, calls) => (false, event, calls)
      | (true, event, calls) =>
          (api.afbReqSubscribe calls request event.mAfbEvent = 0, event,
            calls ++ [.afbReqSubscribe request event.mAfbEvent
              (api.afbReqSubscribe calls request event.mAfbEvent)]) := rfl
  have hunsubscribe : s.event.unsubscribe api s.calls request =
      match (s.made api).event.isValid api (s.made api).calls with
      | (false, event, calls) => (false, event, calls)
      | (true, event, calls) =>
          (api.afbReqUnsubscribe calls request event.mAfbEvent = 0, event,
            calls ++ [.afbReqUnsubscribe request event.mAfbEvent
              (api.afbReqUnsubscribe calls request event.mAfbEvent)]) := rfl
  cases hcase : (s.made api).valid api with
  | false =>
      rw [isValid_eq hcase] at hsubscribe hunsubscribe
      refine Or.inl ?_
      rcases hop with rfl | rfl
      · simp only [step, hsubscribe]
      · simp only [step, hunsubscribe]
  | true =>
      rw [isValid_eq hcase] at hsubscribe hunsubscribe
      refine Or.inr ⟨rfl, ?_⟩
      rcases hop with rfl | rfl
      · simp only [step, hsubscribe]
        exact ⟨_, rfl, rfl⟩
      · simp only [step, hunsubscribe]
        exact ⟨_, rfl, rfl⟩

/-- All that a step can do: the check alone, a request that ends after the check or goes on
to one more call, or a push. -/
theorem step_cases (api : NativeApi) (s : EventState) (op : EventOp) :
    step api s op = (s.checked api, .bool (s.valid api)) ∨
      step api s op = ((s.made api).checked api, .bool false) ∨
      ((s.made api).valid api = true ∧ ∃ call,
        (step api s op).1 = ((s.made api).checked api).called call ∧
        call.Passes ((s.made api).checked api).event.mAfbEvent) ∨
      ∃ payload, op = .publishEvent payload ∧ ∃ result, (step api s op).1 =
        (s.made api).called (.afbEventPush (s.made api).event.mAfbEvent payload result) := by
  cases op with
  | isValid => exact Or.inl rfl
  | subscribe request =>
      exact Or.inr ((step_request api s _ request (Or.inl rfl)).imp id Or.inl)
  | unsubscribe request =>
      exact Or.inr ((step_request api s _ request (Or.inr rfl)).imp id Or.inl)
  | publishEvent payload => exact Or.inr (Or.inr (Or.inr ⟨payload, rfl, _, rfl⟩))

/-- What making the event and passing it on keep, every step keeps. -/
theorem step_invariant {I : EventState → Prop} (hmade : ∀ s, I s → I (s.made api))
    (hcalled : ∀ s call, I s → call.Passes s.event.mAfbEvent → I (s.called call))
    (hs : I s) (op : EventOp) : I (step api s op).1 := by
  have hchecked : ∀ s, I s → I (s.checked api) := by
    intro s hs
    exact hcalled _ _ (hmade s hs) rfl
  rcases step_cases api s op with
    hstep | hstep | ⟨-, call, hstep, hpasses⟩ | ⟨payload, -, result, hstep⟩
  · rw [hstep]
    exact hchecked s hs
  · rw [hstep]
    exact hchecked _ (hmade s hs)
  · rw [hstep]
    exact hcalled _ call (hchecked _ (hmade s hs)) hpasses
  · rw [hstep]
    exact hcalled _ _ (hmade s hs) rfl

/-- The check refuses the null pointer. -/
theorem some_of_valid (hnull : api.NullIsInvalid) (h : s.valid api = true) :
    (s.made api).event.mAfbEvent ≠ none := by
  intro hnone
  unfold valid at h
  rw [hnone] at h
  exact hnull _ (of_decide_eq_true h)

/-! ## One handle -/

/-- Once the event is made it stays, and it is what is passed on. -/
def OneHandle (s : EventState) : Prop :=
  ∀ front eventName handle back,
    s.calls = front ++ .afbApiMakeEvent eventName (some handle) :: back →
      s.event.mAfbEvent = some handle ∧ ∀ call ∈ back, call.Passes (some handle)

theorem oneHandle_made (h : s.OneHandle) : (s.made api).OneHandle := by
  cases hevent : s.event.mAfbEvent with
  | some handle => rwa [made_of_some hevent]
  | none =>
      rw [made_of_none hevent]
      intro front eventName handle back hsplit
      rcases concat_eq_append_cons_iff.mp hsplit with ⟨-, hmake, rfl⟩ | ⟨init, -, hinit⟩
      · obtain ⟨-, hmade⟩ := NativeCall.afbApiMakeEvent.inj hmake
        exact ⟨hmade, by simp⟩
      · obtain ⟨hsome, -⟩ := h front eventName handle init hinit
        rw [hevent] at hsome
        exact absurd hsome (by simp)

theorem oneHandle_called {call : NativeCall} (h : s.OneHandle)
    (hpasses : call.Passes s.event.mAfbEvent) : (s.called call).OneHandle := by
  intro front eventName handle back hsplit
  rcases concat_eq_append_cons_iff.mp hsplit with ⟨-, rfl, -⟩ | ⟨init, rfl, hinit⟩
  · exact absurd ⟨_, _, rfl⟩ hpasses.not_makes
  · obtain ⟨hsome, hpassed⟩ := h front eventName handle init hinit
    refine ⟨hsome, ?_⟩
    intro later hlater
    rcases List.mem_append.mp hlater with hmem | hmem
    · exact hpassed later hmem
    · rw [List.mem_singleton.mp hmem, ← hsome]
      exact hpasses

theorem oneHandle_run (api : NativeApi) (eventName : String) (ops : List EventOp) :
    ((machine api).run (initial eventName) ops).OneHandle := by
  refine (machine api).run_invariant (I := OneHandle) ?_ ?_ ops
  · intro s op hs
    exact step_invariant (I := OneHandle) (fun _ => oneHandle_made)
      (fun _ _ => oneHandle_called) hs op
  · intro front eventName handle back hsplit
    exact absurd hsplit (by simp [initial])

/-- The event is made at most once. -/
theorem OneHandle.once (h : s.OneHandle) {front back : NativeTrace} {eventName : String}
    {handle : EventHandle}
    (hsplit : s.calls = front ++ .afbApiMakeEvent eventName (some handle) :: back) :
    (∀ call ∈ front, ¬ call.Makes) ∧ ∀ call ∈ back, ¬ call.Makes := by
  constructor
  · rintro call hcall ⟨earlierName, earlier, rfl⟩
    obtain ⟨first, rest, rfl⟩ := List.append_of_mem hcall
    rw [List.append_assoc, List.cons_append] at hsplit
    have hpasses := (h first earlierName earlier _ hsplit).2 _
      (List.mem_append_right rest List.mem_cons_self)
    exact hpasses
  · intro call hcall
    exact ((h front eventName handle back hsplit).2 call hcall).not_makes

/-! ## No null pointer -/

/-- Nothing was subscribed, unsubscribed or pushed with a null pointer. -/
def Clean (s : EventState) : Prop := ∀ call ∈ s.calls, ¬ call.OnNull

/-- A push finds an event: there is one, or one can be made. -/
def Provided (api : NativeApi) (s : EventState) (op : EventOp) : Prop :=
  ∀ payload, op = .publishEvent payload → ¬ s.Unmakeable api

theorem clean_called {call : NativeCall} (h : s.Clean) (hcall : ¬ call.OnNull) :
    (s.called call).Clean := by
  intro c hc
  rcases List.mem_append.mp hc with hmem | hmem
  · exact h c hmem
  · rwa [List.mem_singleton.mp hmem]

theorem clean_made (h : s.Clean) : (s.made api).Clean := by
  cases hevent : s.event.mAfbEvent with
  | some handle => rwa [made_of_some hevent]
  | none =>
      rw [made_of_none hevent]
      exact clean_called (s := s) h id

theorem clean_checked (h : s.Clean) : (s.checked api).Clean :=
  clean_called (clean_made h) id

theorem clean_step (hnull : api.NullIsInvalid) (op : EventOp) (hop : s.Provided api op)
    (h : s.Clean) : (step api s op).1.Clean := by
  rcases step_cases api s op with
    hstep | hstep | ⟨hvalid, call, hstep, hpasses⟩ | ⟨payload, rfl, result, hstep⟩
  · rw [hstep]
    exact clean_checked h
  · rw [hstep]
    exact clean_checked (clean_made h)
  · rw [hstep]
    apply clean_called (clean_checked (clean_made h))
    intro honNull
    exact some_of_valid hnull hvalid (hpasses.onNull honNull)
  · rw [hstep]
    apply clean_called (clean_made h)
    intro honNull
    exact hop payload rfl (made_eq_none_iff.mp honNull)

/-- Native calls are only added. -/
theorem calls_step (api : NativeApi) (s : EventState) (op : EventOp) :
    ∃ added, (step api s op).1.calls = s.calls ++ added := by
  refine step_invariant (I := fun t => ∃ added, t.calls = s.calls ++ added) ?_ ?_
    ⟨[], (List.append_nil _).symm⟩ op
  · rintro t ⟨added, hadded⟩
    cases hevent : t.event.mAfbEvent with
    | some handle => exact ⟨added, by rw [made_of_some hevent, hadded]⟩
    | none =>
        rw [made_of_none hevent, hadded]
        exact ⟨_, List.append_assoc _ _ _⟩
  · rintro t call ⟨added, hadded⟩ -
    refine ⟨added ++ [call], ?_⟩
    rw [← List.append_assoc, ← hadded]
    rfl

theorem clean_of_run (eventName : String) (before after : List EventOp)
    (h : ((machine api).run (initial eventName) (before ++ after)).Clean) :
    ((machine api).run (initial eventName) before).Clean := by
  rw [Machine.run_append] at h
  have hadded : ∃ added, ((machine api).run
      ((machine api).run (initial eventName) before) after).calls =
        ((machine api).run (initial eventName) before).calls ++ added := by
    refine (machine api).run_invariant
      (I := fun t => ∃ added, t.calls =
        ((machine api).run (initial eventName) before).calls ++ added) ?_
      ⟨[], (List.append_nil _).symm⟩ after
    rintro t op ⟨added, hadded⟩
    obtain ⟨more, hmore⟩ := calls_step api t op
    refine ⟨added ++ more, ?_⟩
    rw [← List.append_assoc, ← hadded]
    exact hmore
  obtain ⟨added, hadded⟩ := hadded
  intro call hcall
  exact h call (hadded ▸ List.mem_append_left added hcall)

/-- A push that finds no event is made with the null pointer. -/
theorem not_clean_of_unmakeable (h : s.Unmakeable api) (payload : Option Json) :
    ¬ (step api s (.publishEvent payload)).1.Clean := by
  intro hclean
  refine hclean _ (List.mem_append_right _ (List.mem_singleton.mpr rfl)) ?_
  exact made_eq_none_iff.mpr h

/-- What is done without an event fails. -/
theorem fails_of_none (hnull : api.NullIsInvalid) (op : EventOp) (hop : s.Provided api op)
    (hnone : (step api s op).1.event.mAfbEvent = none) : (step api s op).2.Fails := by
  rcases step_cases api s op with
    hstep | hstep | ⟨hvalid, call, hstep, -⟩ | ⟨payload, rfl, result, hstep⟩
  · rw [hstep] at hnone ⊢
    cases hvalid : s.valid api with
    | false => rfl
    | true => exact absurd hnone (some_of_valid hnull hvalid)
  · rw [hstep]
    rfl
  · rw [hstep] at hnone
    exact absurd hnone (some_of_valid hnull hvalid)
  · rw [hstep] at hnone
    exact absurd (made_eq_none_iff.mp hnone) (hop payload rfl)

end

end EventState

/-! ## The discipline of the handle -/

open EventState in
/-- What holds of a run: the event is made once, the later native calls pass on what was
made, none of them uses a null pointer, and what is done without an event fails. -/
structure HandleDiscipline (api : NativeApi) (eventName : String) (ops : List EventOp) :
    Prop where
  once : ∀ front name handle back,
    ((machine api).run (initial eventName) ops).calls =
        front ++ .afbApiMakeEvent name (some handle) :: back →
      (∀ call ∈ front, ¬ call.Makes) ∧ ∀ call ∈ back, ¬ call.Makes
  oneHandle : ∀ front name handle back,
    ((machine api).run (initial eventName) ops).calls =
        front ++ .afbApiMakeEvent name (some handle) :: back →
      ∀ call ∈ back, call.Passes (some handle)
  nonNull : ∀ call ∈ ((machine api).run (initial eventName) ops).calls, ¬ call.OnNull
  fails : ∀ before op after, ops = before ++ op :: after →
    ((machine api).run (initial eventName) (before ++ [op])).event.mAfbEvent = none →
      ((machine api).output ((machine api).run (initial eventName) before) op).Fails

open EventState in
/-- A run keeps the discipline exactly if it never pushes while there is no event and
making it fails. -/
theorem handle_discipline_iff (api : NativeApi) (hnull : api.NullIsInvalid)
    (eventName : String) (ops : List EventOp) :
    HandleDiscipline api eventName ops ↔
      ∀ before payload after, ops = before ++ .publishEvent payload :: after →
        ¬ ((machine api).run (initial eventName) before).Unmakeable api := by
  constructor
  · intro h before payload after hsplit hunmakeable
    have hclean : ((machine api).run (initial eventName)
        ((before ++ [.publishEvent payload]) ++ after)).Clean := by
      rw [List.append_assoc, List.singleton_append, ← hsplit]
      exact h.nonNull
    have hpushed := clean_of_run eventName _ after hclean
    rw [Machine.run_concat] at hpushed
    exact not_clean_of_unmakeable hunmakeable payload hpushed
  · intro h
    have hprovided : ∀ before op after, ops = before ++ op :: after →
        ((machine api).run (initial eventName) before).Provided api op := by
      rintro before op after hsplit payload rfl
      exact h before payload after hsplit
    have hone := oneHandle_run api eventName ops
    refine ⟨?_, ?_, ?_, ?_⟩
    · intro front name handle back hsplit
      exact hone.once hsplit
    · intro front name handle back hsplit
      exact (hone front name handle back hsplit).2
    · refine (machine api).run_invariant_of_guarded (G := Provided api) (I := Clean) ?_ ?_
        ((machine api).guarded_iff_split.mpr hprovided)
      · intro s op hop hs
        exact clean_step hnull op hop hs
      · intro call hcall
        exact absurd hcall (by simp [initial])
    · intro before op after hsplit hnone
      rw [Machine.run_concat] at hnone
      exact fails_of_none hnull op (hprovided before op after hsplit) hnone

/-- A binder that makes an event when it is asked again, and a new one each time. -/
def NativeApi.hesitant : NativeApi where
  afbApiMakeEvent := fun calls _ => if calls.isEmpty then none else some calls.length
  afbEventIsValid := fun _ event => if event.isSome then 1 else 0
  afbReqSubscribe := fun _ _ _ => 0
  afbReqUnsubscribe := fun _ _ _ => 0
  afbEventPush := fun _ _ _ => 1

open EventState in
theorem handle_discipline_iff_hesitant :
    HandleDiscipline .hesitant "vshl-core/voice_authstate_event"
      [.isValid, .subscribe 1, .publishEvent none] := by
  refine (handle_discipline_iff .hesitant ?_ _ _).mpr ?_
  · intro calls
    simp [NativeApi.hesitant]
  · have hguarded : (machine .hesitant).Guarded (Provided .hesitant)
        (initial "vshl-core/voice_authstate_event")
        [.isValid, .subscribe 1, .publishEvent none] := by
      refine ⟨by simp [Provided], by simp [Provided], ?_, trivial⟩
      rintro payload - ⟨hnone, -⟩
      exact absurd hnone (by decide)
    intro before payload after hsplit
    exact (machine .hesitant).guarded_iff_split.mp hguarded before _ after hsplit payload rfl

/-- A push on an event that could not be made. -/
theorem null_event_pushed :
    ¬ ∀ api : NativeApi, api.NullIsInvalid →
      ∀ (eventName : String) (ops : List EventOp), HandleDiscipline api eventName ops := by
  intro h
  have hdiscipline := h { NativeApi.hesitant with afbApiMakeEvent := fun _ _ => none }
    (fun _ => by simp [NativeApi.hesitant]) "vshl-core/voice_authstate_event"
    [.publishEvent none]
  exact hdiscipline.nonNull (.afbEventPush none none 1)
    (List.mem_append_right _ (List.mem_singleton.mpr rfl)) rfl

end Vshl.Afb
