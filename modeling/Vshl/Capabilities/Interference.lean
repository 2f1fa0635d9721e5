/-
  Capabilities/Interference.lean --- what a subscription that fails leaves behind.

  Two runs are compared, one with the call and one without it.  So that every later
  operation is answered alike in both, the outside answers by a script for each operation;
  every run of the service is such a run (`scripted_run`).

  What the operations return depends only on which actions each channel offers.  `Offers` is
  the service seen so, and the comparison is made there.
-/
import Vshl.Capabilities.CapabilityMessagingService

set_option autoImplicit false

namespace Vshl.Capabilities

open Vshl.Foundation
open Vshl.Interfaces

/-! ## Scripts -/

/-- How the outside answers during one operation.  What it says to a `createEvent` may depend
on the calls made since the operation began, and an operation makes at most one `subscribe`. -/
structure Script where
  others : Environment
  afbApi : others.afbApi = true
  createEvent : Trace → String → Bool
  subscribe : Bool

/-- The script, for an operation that begins after so many calls. -/
def Script.environment (script : Script) (start : Nat) : Environment :=
  { script.others with
    createEvent := fun calls eventName => script.createEvent (calls.drop start) eventName
    subscribe := fun _ _ _ => script.subscribe }

@[simp] theorem Script.environment_afbApi (script : Script) (start : Nat) :
    (script.environment start).afbApi = true := script.afbApi

/-- An outside on which everything succeeds. -/
def Script.obliging : Script :=
  ⟨.obliging, Environment.obliging_afbApi, fun _ _ => true, true⟩

/-! ## Events created alike -/

namespace SubscriberForwarder

/-- Two creations that began after different calls have gone alike. -/
structure Alike (calls calls' : Trace) (state state' : EventsMap × Trace) : Prop where
  grown : ∃ made, state.2 = calls ++ made ∧ state'.2 = calls' ++ made
  same : calls = calls' → state.1 = state'.1
  keys : ∀ name, name ∈ state.1 ↔ name ∈ state'.1

section

variable {env env' : Environment} {calls calls' : Trace}

theorem Alike.createEvent (hapi : env.afbApi = env'.afbApi)
    (hanswers : ∀ made eventName, env.createEvent (calls ++ made) eventName =
      env'.createEvent (calls' ++ made) eventName)
    {state state' : EventsMap × Trace} (h : Alike calls calls' state state')
    (eventName : String) :
    Alike calls calls' (SubscriberForwarder.createEvent env state eventName)
      (SubscriberForwarder.createEvent env' state' eventName) := by
  obtain ⟨made, hgrown, hgrown'⟩ := h.grown
  have hanswer := hanswers made eventName
  rw [← hgrown, ← hgrown'] at hanswer
  have hguard : (eventName ∉ state.1 ∧ env.afbApi) ↔ (eventName ∉ state'.1 ∧ env'.afbApi) := by
    rw [h.keys eventName, hapi]
  have hgrows : ∀ call : Call, ∃ added,
      state.2 ++ [call] = calls ++ added ∧ state'.2 ++ [call] = calls' ++ added := by
    intro call
    refine ⟨made ++ [call], ?_, ?_⟩
    · rw [hgrown, List.append_assoc]
    · rw [hgrown', List.append_assoc]
  unfold SubscriberForwarder.createEvent
  by_cases hmissing : eventName ∉ state.1 ∧ env.afbApi
  · rw [if_pos hmissing, if_pos (hguard.mp hmissing)]
    simp only [Environment.doCreateEvent, ← hanswer]
    cases env.createEvent state.2 eventName with
    | false => exact ⟨hgrows _, h.same, h.keys⟩
    | true =>
        refine ⟨hgrows _, ?_, ?_⟩
        · intro hcalls
          have htrace : state.2 = state'.2 := by rw [hgrown, hgrown', hcalls]
          simp only [if_true, h.same hcalls, htrace]
        · intro name
          simp only [if_true, UnorderedMap.mem_emplace, h.keys name]
  · rw [if_neg hmissing, if_neg (mt hguard.mpr hmissing)]
    exact h

theorem Alike.createEventsOf (hapi : env.afbApi = env'.afbApi)
    (hanswers : ∀ made eventName, env.createEvent (calls ++ made) eventName =
      env'.createEvent (calls' ++ made) eventName)
    {before before' : Trace}
    (hgrown : ∃ made, before = calls ++ made ∧ before' = calls' ++ made)
    (eventNames : List String) :
    Alike calls calls' (createEventsOf env before eventNames)
      (createEventsOf env' before' eventNames) := by
  refine List.foldl_rel ⟨hgrown, fun _ => rfl, fun _ => Iff.rfl⟩ ?_
  intro eventName _ state state' h
  exact h.createEvent hapi hanswers eventName

/-- Outsides that answer alike let the same events be created; after the same calls, the
same forwarder. -/
theorem create_alike (env env' : Environment) (calls calls' : Trace)
    (hapi : env.afbApi = true) (hapi' : env'.afbApi = true)
    (hanswers : ∀ made eventName, env.createEvent (calls ++ made) eventName =
      env'.createEvent (calls' ++ made) eventName)
    (capabilities : CapabilityObjects) (capability : CapabilityPtr) :
    (∃ made, (create env capabilities calls capability).2 = calls ++ made ∧
      (create env' capabilities calls' capability).2 = calls' ++ made) ∧
    (calls = calls' → (create env capabilities calls capability).1 =
      (create env' capabilities calls' capability).1) := by
  have hup := Alike.createEventsOf (hapi.trans hapi'.symm) hanswers
    ⟨[], (List.append_nil calls).symm, (List.append_nil calls').symm⟩
    (capabilities capability).getUpstreamMessages
  have hdown := Alike.createEventsOf (hapi.trans hapi'.symm) hanswers hup.grown
    (capabilities capability).getDownstreamMessages
  unfold create
  rw [if_neg (by simp [hapi]), if_neg (by simp [hapi'])]
  refine ⟨hdown.grown, ?_⟩
  intro hcalls
  simp only [hup.same hcalls, hdown.same hcalls]

end

end SubscriberForwarder

namespace Messaging

/-- The service as a machine whose inputs come with the answers of the outside. -/
def scripted (capabilities : CapabilityObjects) :
    Machine Messaging (Script × MessagingOp) (Except Fault Bool) :=
  ⟨fun s i => step (i.1.environment s.calls.length) capabilities s i.2⟩

/-! ## Every run is scripted -/

/-- The answers that an environment gives to an operation. -/
def answersOf (env : Environment) (henv : env.afbApi = true) (capabilities : CapabilityObjects)
    (s : Messaging) (op : MessagingOp) : Script where
  others := env
  afbApi := henv
  createEvent := fun made eventName => env.createEvent (s.calls ++ made) eventName
  subscribe :=
    match (step env capabilities s op).2 with
    | .ok answer => answer
    | .error _ => false

theorem answersOf_createEvent (env : Environment) (henv : env.afbApi = true)
    (capabilities : CapabilityObjects) (s : Messaging) (op : MessagingOp) (made : Trace)
    (eventName : String) :
    ((answersOf env henv capabilities s op).environment s.calls.length).createEvent
      (s.calls ++ made) eventName = env.createEvent (s.calls ++ made) eventName := by
  simp only [Script.environment, answersOf, List.drop_left]

/-- What is asked of a channel is answered as the environment answered. -/
theorem answersOf_subscribe {env : Environment} (henv : env.afbApi = true)
    {capabilities : CapabilityObjects} {s after : Messaging} {op : MessagingOp}
    {forwarder : SubscriberForwarder} {calls : Trace} {request : RequestPtr} {action : String}
    (hstep : step env capabilities s op =
      (after, ((MessageChannel.around forwarder).subscribe env calls request action).1)) :
    (MessageChannel.around forwarder).subscribe
        ((answersOf env henv capabilities s op).environment s.calls.length) calls request
        action =
      (MessageChannel.around forwarder).subscribe env calls request action := by
  simp only [channel_subscribe] at hstep ⊢
  cases hresolve : forwarder.resolve action with
  | none => rfl
  | some event =>
      rw [hresolve] at hstep
      simp only [Script.environment, answersOf, hstep]

theorem create_answersOf {env : Environment} (henv : env.afbApi = true)
    (capabilities : CapabilityObjects) (s : Messaging) (op : MessagingOp)
    (capability : CapabilityPtr) :
    SubscriberForwarder.create ((answersOf env henv capabilities s op).environment
        s.calls.length) capabilities s.calls capability =
      SubscriberForwarder.create env capabilities s.calls capability := by
  obtain ⟨⟨made, htrace, htrace'⟩, hforwarder⟩ := SubscriberForwarder.create_alike
    ((answersOf env henv capabilities s op).environment s.calls.length) env s.calls s.calls
    henv henv (answersOf_createEvent env henv capabilities s op) capabilities capability
  exact Prod.ext (hforwarder rfl) (htrace.trans htrace'.symm)

theorem step_answersOf {env : Environment} (henv : env.afbApi = true)
    (capabilities : CapabilityObjects) {s : Messaging} (hwf : s.Wf) (op : MessagingOp) :
    step ((answersOf env henv capabilities s op).environment s.calls.length) capabilities s
      op = step env capabilities s op := by
  cases op with
  | publish capability action payload => rfl
  | subscribe request capability action =>
      by_cases hname : (capabilities capability).getName = ""
      · rw [subscribe_unnamed env capabilities request action hname]
        exact subscribe_unnamed _ capabilities request action hname
      · cases hchannel : s.channel (capabilities capability).getName with
        | some channel =>
            obtain ⟨-, forwarder, rfl⟩ := hwf.around _ channel hchannel
            have hstep := subscribe_found env capabilities request action hname hchannel
            rw [hstep, subscribe_found _ capabilities request action hname hchannel,
              answersOf_subscribe henv hstep]
        | none =>
            obtain ⟨forwarder, calls, hcreate, -⟩ :=
              SubscriberForwarder.create_createdAt henv capabilities s.calls capability
            have hstep := subscribe_missing env capabilities request action hname hchannel
              hcreate
            have hsame := create_answersOf henv capabilities s
              (.subscribe request capability action) capability
            rw [hstep, subscribe_missing _ capabilities request action hname hchannel
              (hsame.trans hcreate), answersOf_subscribe henv hstep]

/-- Every run of the service is a run whose inputs come with the answers. -/
theorem scripted_run {env : Environment} (henv : env.afbApi = true)
    (capabilities : CapabilityObjects) {s : Messaging} (hwf : s.Wf) (ops : List MessagingOp) :
    ∃ inputs : List (Script × MessagingOp), inputs.map Prod.snd = ops ∧
      (scripted capabilities).run s inputs = (machine env capabilities).run s ops ∧
      (scripted capabilities).outputs s inputs = (machine env capabilities).outputs s ops := by
  induction ops generalizing s with
  | nil => exact ⟨[], rfl, rfl, rfl⟩
  | cons op rest ih =>
      have hstep := step_answersOf henv capabilities hwf op
      have hnext : (scripted capabilities).next s (answersOf env henv capabilities s op, op) =
          (machine env capabilities).next s op := congrArg Prod.fst hstep
      have hout : (scripted capabilities).output s (answersOf env henv capabilities s op, op) =
          (machine env capabilities).output s op := congrArg Prod.snd hstep
      obtain ⟨inputs, hops, hrun, houtputs⟩ := ih (wf_step henv capabilities s op hwf)
      refine ⟨(answersOf env henv capabilities s op, op) :: inputs, ?_, ?_, ?_⟩
      · rw [List.map_cons, hops]
      · rw [Machine.run_cons, Machine.run_cons, hnext, hrun]
      · rw [Machine.outputs_cons, Machine.outputs_cons, hnext, hout, houtputs]

end Messaging

/-! ## What the channels offer -/

/-- The names of the events created, oldest first. -/
def created (calls : Trace) : List String :=
  calls.filterMap fun
    | .createEvent eventName true => some eventName
    | _ => none

@[simp] theorem created_append (calls added : Trace) :
    created (calls ++ added) = created calls ++ created added :=
  List.filterMap_append

theorem mem_created {calls : Trace} {eventName : String} :
    eventName ∈ created calls ↔ .createEvent eventName true ∈ calls := by
  unfold created
  rw [List.mem_filterMap]
  constructor
  · intro h
    obtain ⟨call, hmem, hcall⟩ := h
    split at hcall
    · rw [← Option.some.inj hcall]
      exact hmem
    · exact absurd hcall (by simp)
  · intro hmem
    exact ⟨_, hmem, rfl⟩

theorem created_of_none {added : Trace}
    (h : ∀ eventName nonNull, .createEvent eventName nonNull ∉ added) : created added = [] := by
  rw [List.eq_nil_iff_forall_not_mem]
  intro eventName hmem
  exact h eventName true (mem_created.mp hmem)

/-- The actions that a channel made for the capability offers. -/
def createdBy (capabilities : CapabilityObjects) (script : Script)
    (capability : CapabilityPtr) : List String :=
  created (SubscriberForwarder.create (script.environment 0) capabilities [] capability).2

theorem create_scripted (capabilities : CapabilityObjects) (script : Script) (calls : Trace)
    (capability : CapabilityPtr) :
    ∃ forwarder added,
      SubscriberForwarder.create (script.environment calls.length) capabilities calls
        capability = (some forwarder, calls ++ added) ∧
      SubscriberForwarder.CreatedAt capability calls forwarder (calls ++ added) ∧
      created added = createdBy capabilities script capability ∧
      ∀ action, (∃ event, forwarder.resolve action = some event) ↔
        action ∈ createdBy capabilities script capability := by
  obtain ⟨forwarder, calls', hcreate, hcreated⟩ := SubscriberForwarder.create_createdAt
    (script.environment_afbApi calls.length) capabilities calls capability
  obtain ⟨added, rfl, -, hkeys⟩ := hcreated.calls
  -- the script does not know how many calls were made before
  obtain ⟨⟨made, htrace, htrace'⟩, -⟩ := SubscriberForwarder.create_alike
    (script.environment calls.length) (script.environment 0) calls []
    (script.environment_afbApi _) (script.environment_afbApi _)
    (fun made eventName => by simp [Script.environment]) capabilities capability
  rw [hcreate] at htrace
  obtain rfl : added = made := List.append_cancel_left htrace
  have hoffers : created added = createdBy capabilities script capability := by
    unfold createdBy
    rw [htrace', List.nil_append]
  refine ⟨forwarder, added, hcreate, hcreated, hoffers, ?_⟩
  intro action
  rw [hkeys action, ← hoffers, mem_created]

/-- The service, for all that its answers show: the actions each channel offers, and the
events created. -/
structure Offers where
  channels : String → Option (List String)
  created : List String

namespace Offers

/-- What the capability's channel offers, which is made if it is missing. -/
def offered (capabilities : CapabilityObjects) (o : Offers) (script : Script)
    (capability : CapabilityPtr) : List String :=
  (o.channels (capabilities capability).getName).getD
    (createdBy capabilities script capability)

/-- The capability has a channel. -/
def withChannel (capabilities : CapabilityObjects) (o : Offers) (script : Script)
    (capability : CapabilityPtr) : Offers :=
  match o.channels (capabilities capability).getName with
  | some _ => o
  | none =>
      { channels := Function.update o.channels (capabilities capability).getName
          (some (createdBy capabilities script capability))
        created := o.created ++ createdBy capabilities script capability }

def step (capabilities : CapabilityObjects) (o : Offers) :
    Script × MessagingOp → Offers × Except Fault Bool
  | (script, .subscribe _ capability action) =>
      if (capabilities capability).getName = "" then (o, .ok false)
      else
        (o.withChannel capabilities script capability,
          .ok (decide (action ∈ o.offered capabilities script capability) && script.subscribe))
  | (_, .publish capability action _) =>
      (o, .ok (decide (action ∈ (o.channels (capabilities capability).getName).getD [])))

def machine (capabilities : CapabilityObjects) :
    Machine Offers (Script × MessagingOp) (Except Fault Bool) :=
  ⟨step capabilities⟩

theorem withChannel_channels (capabilities : CapabilityObjects) (o : Offers)
    (script : Script) (capability : CapabilityPtr) (name : String) :
    (o.withChannel capabilities script capability).channels name =
      if name = (capabilities capability).getName then
        some (o.offered capabilities script capability)
      else o.channels name := by
  unfold withChannel offered
  cases hchannel : o.channels (capabilities capability).getName with
  | none => simp only [Function.update_apply, Option.getD_none]
  | some offered =>
      simp only [Option.getD_some]
      split
      · rename_i hname
        rw [hname, hchannel]
      · rfl

theorem withChannel_of_some {capabilities : CapabilityObjects} {o : Offers}
    {capability : CapabilityPtr} {offered : List String}
    (hchannel : o.channels (capabilities capability).getName = some offered)
    (script : Script) : o.withChannel capabilities script capability = o := by
  simp only [withChannel, hchannel]

end Offers

/-! ## The service is seen so -/

/-- The channels offer what they have events for. -/
structure Offering (s : Messaging) (o : Offers) : Prop where
  wf : s.Wf
  missing : ∀ name, s.channel name = none → o.channels name = none
  there : ∀ name forwarder, s.channel name = some (.around forwarder) →
    ∃ offered, o.channels name = some offered ∧
      ∀ action, (∃ event, forwarder.resolve action = some event) ↔ action ∈ offered
  created : created s.calls = o.created

namespace Offering

theorem initial : Offering .initial ⟨fun _ => none, []⟩ := by
  refine ⟨Messaging.wf_initial, fun _ _ => rfl, ?_, rfl⟩
  intro name forwarder hchannel
  exact absurd hchannel ((UnorderedMap.find_empty name).trans_ne (by simp))

theorem missing_iff {s : Messaging} {o : Offers} (h : Offering s o) (name : String) :
    o.channels name = none ↔ s.channel name = none := by
  constructor
  · intro hnone
    cases hchannel : s.channel name with
    | none => rfl
    | some channel =>
        obtain ⟨-, forwarder, rfl⟩ := h.wf.around name channel hchannel
        obtain ⟨offered, hoffered, -⟩ := h.there name forwarder hchannel
        rw [hnone] at hoffered
        exact absurd hoffered (by simp)
  · exact h.missing name

/-- Calls that create no event show nothing. -/
theorem ofCalls {s : Messaging} {o : Offers} (h : Offering s o) {added : Trace}
    (hnone : ∀ eventName nonNull, .createEvent eventName nonNull ∉ added) :
    Offering { s with calls := s.calls ++ added } o := by
  refine ⟨h.wf.ofCalls added, h.missing, h.there, ?_⟩
  rw [created_append, created_of_none hnone, List.append_nil]
  exact h.created

/-- A subscription is answered by what the channel offers. -/
theorem subscribe_answer {script : Script} {start : Nat} {forwarder : SubscriberForwarder}
    {offered : List String}
    (hoffered : ∀ action, (∃ event, forwarder.resolve action = some event) ↔
      action ∈ offered)
    (calls : Trace) (request : RequestPtr) (action : String) :
    ((MessageChannel.around forwarder).subscribe (script.environment start) calls request
      action).1 = .ok (decide (action ∈ offered) && script.subscribe) := by
  rw [Messaging.channel_subscribe]
  have hiff := hoffered action
  cases hresolve : forwarder.resolve action with
  | none =>
      rw [hresolve] at hiff
      simp [← hiff]
  | some event =>
      rw [hresolve] at hiff
      simp [← hiff, Script.environment]

/-- Whether the action is published depends on what the channel offers. -/
theorem publish_answer (env : Environment) (capabilities : CapabilityObjects)
    {s : Messaging} {o : Offers} (h : Offering s o) (capability : CapabilityPtr)
    (action payload : String) :
    (Messaging.step env capabilities s (.publish capability action payload)).2 =
      .ok (decide (action ∈
        (o.channels (capabilities capability).getName).getD [])) := by
  cases hchannel : s.channel (capabilities capability).getName with
  | none =>
      rw [Messaging.publish_none env capabilities action payload (Or.inr hchannel),
        h.missing _ hchannel]
      simp
  | some channel =>
      obtain ⟨hname, forwarder, rfl⟩ := h.wf.around _ channel hchannel
      obtain ⟨offered, hoffered, hactions⟩ := h.there _ forwarder hchannel
      have hiff := hactions action
      rw [Messaging.publish_found env capabilities action payload hname hchannel, hoffered,
        Option.getD_some]
      cases hresolve : forwarder.resolve action with
      | none =>
          rw [hresolve] at hiff
          simp [← hiff]
      | some event =>
          rw [hresolve] at hiff
          simp [← hiff]

/-- A step that makes no channel shows only its answer. -/
theorem step_there {capabilities : CapabilityObjects} {s : Messaging} {o : Offers}
    (h : Offering s o) (script : Script) {op : MessagingOp}
    (hthere : ∀ request capability action, op = .subscribe request capability action →
      s.channel (capabilities capability).getName ≠ none) :
    Offering ((Messaging.scripted capabilities).next s (script, op)) o := by
  have heffect := Messaging.step_effect (script.environment_afbApi s.calls.length)
    capabilities h.wf op
  cases heffect with
  | calls added heq hnone _ => exact heq.symm ▸ h.ofCalls hnone
  | makes request first action _ hop _ hmakes =>
      exact absurd hmakes.missing (hthere request first action hop)

/-- The channel is made, with what the script lets it offer. -/
theorem withChannel {capabilities : CapabilityObjects} {s : Messaging} {o : Offers}
    (h : Offering s o) {script : Script} {capability : CapabilityPtr}
    (hname : (capabilities capability).getName ≠ "")
    (hchannel : s.channel (capabilities capability).getName = none)
    {forwarder : SubscriberForwarder} {added : Trace}
    (hcreated : SubscriberForwarder.CreatedAt capability s.calls forwarder (s.calls ++ added))
    (hoffers : Vshl.Capabilities.created added = createdBy capabilities script capability)
    (hactions : ∀ action, (∃ event, forwarder.resolve action = some event) ↔
      action ∈ createdBy capabilities script capability) :
    Offering (s.withChannel (capabilities capability).getName forwarder (s.calls ++ added))
      (o.withChannel capabilities script capability) := by
  have hnone := h.missing _ hchannel
  have hoffered : o.offered capabilities script capability =
      createdBy capabilities script capability := by
    rw [Offers.offered, hnone, Option.getD_none]
  refine ⟨h.wf.withChannel hname hchannel hcreated, ?_, ?_, ?_⟩
  · intro name hmissing
    rw [Messaging.channel_withChannel hchannel] at hmissing
    split at hmissing
    · exact absurd hmissing (by simp)
    · rename_i hne
      rw [Offers.withChannel_channels, if_neg hne]
      exact h.missing name hmissing
  · intro name forwarder' hthere
    rw [Messaging.channel_withChannel hchannel] at hthere
    rw [Offers.withChannel_channels, hoffered]
    split at hthere
    · rename_i heq
      obtain rfl := MessageChannel.around_inj (Option.some.inj hthere)
      rw [if_pos heq]
      exact ⟨_, rfl, hactions⟩
    · rename_i hne
      rw [if_neg hne]
      exact h.there name forwarder' hthere
  · rw [Offers.withChannel, hnone, ← h.created, ← hoffers]
    exact created_append s.calls added

theorem step_subscribe {capabilities : CapabilityObjects} {s : Messaging} {o : Offers}
    (h : Offering s o) (script : Script) (request : RequestPtr) {capability : CapabilityPtr}
    (action : String) (hname : (capabilities capability).getName ≠ "") :
    (Messaging.scripted capabilities).output s (script, .subscribe request capability action) =
        .ok (decide (action ∈ o.offered capabilities script capability) &&
          script.subscribe) ∧
      Offering ((Messaging.scripted capabilities).next s
        (script, .subscribe request capability action))
        (o.withChannel capabilities script capability) := by
  cases hchannel : s.channel (capabilities capability).getName with
  | some channel =>
      obtain ⟨-, forwarder, rfl⟩ := h.wf.around _ channel hchannel
      obtain ⟨offered, hoffered, hactions⟩ := h.there _ forwarder hchannel
      have hstep := Messaging.subscribe_found (script.environment s.calls.length)
        capabilities request action hname hchannel
      constructor
      · rw [Offers.offered, hoffered, Option.getD_some]
        exact (congrArg Prod.snd hstep).trans (subscribe_answer hactions _ _ _)
      · rw [Offers.withChannel_of_some hoffered]
        refine h.step_there script ?_
        intro request' capability' action' hop
        obtain ⟨-, rfl, -⟩ := MessagingOp.subscribe.inj hop
        rw [hchannel]
        simp
  | none =>
      obtain ⟨forwarder, made, hcreate, hcreated, hoffers, hactions⟩ :=
        create_scripted capabilities script s.calls capability
      have hstep := Messaging.subscribe_missing (script.environment s.calls.length)
        capabilities request action hname hchannel hcreate
      constructor
      · rw [Offers.offered, h.missing _ hchannel, Option.getD_none]
        exact (congrArg Prod.snd hstep).trans (subscribe_answer hactions _ _ _)
      · obtain ⟨added, hadded, honly⟩ := Messaging.channel_subscribe_calls
          (script.environment s.calls.length) forwarder (s.calls ++ made) request action
        have hnext := congrArg Prod.fst hstep
        rw [hadded] at hnext
        have hmade := h.withChannel hname hchannel hcreated hoffers hactions
        have hquiet : ∀ eventName nonNull, Call.createEvent eventName nonNull ∉ added := by
          intro eventName nonNull hmem
          obtain ⟨event, result, heq⟩ := honly _ hmem
          exact absurd heq (by simp)
        exact Eq.subst (motive := fun s => Offering s _) hnext.symm (hmade.ofCalls hquiet)

theorem step (capabilities : CapabilityObjects) {s : Messaging} {o : Offers}
    (h : Offering s o) (i : Script × MessagingOp) :
    (Messaging.scripted capabilities).output s i = (Offers.machine capabilities).output o i ∧
      Offering ((Messaging.scripted capabilities).next s i)
        ((Offers.machine capabilities).next o i) := by
  obtain ⟨script, op⟩ := i
  cases op with
  | publish capability action payload =>
      refine ⟨h.publish_answer _ capabilities capability action payload, ?_⟩
      refine h.step_there script ?_
      intro request' capability' action' hop
      exact absurd hop (by simp)
  | subscribe request capability action =>
      by_cases hname : (capabilities capability).getName = ""
      · have hstep := Messaging.subscribe_unnamed (script.environment s.calls.length)
          capabilities request action (s := s) hname
        simp only [Machine.output, Machine.next, Messaging.scripted, Offers.machine,
          Offers.step, hstep, if_pos hname]
        exact ⟨trivial, h⟩
      · have hsubscribe := h.step_subscribe script request action hname
        simp only [Machine.output, Machine.next, Offers.machine, Offers.step,
          if_neg hname] at hsubscribe ⊢
        exact hsubscribe

/-- Whatever is asked of the service, the offers tell the answers. -/
theorem outputs {s : Messaging} {o : Offers} (capabilities : CapabilityObjects)
    (h : Offering s o) (inputs : List (Script × MessagingOp)) :
    (Messaging.scripted capabilities).outputs s inputs =
        (Offers.machine capabilities).outputs o inputs ∧
      Offering ((Messaging.scripted capabilities).run s inputs)
        ((Offers.machine capabilities).run o inputs) :=
  Machine.outputs_simulation _ _ (fun _ _ i h => step capabilities h i) h inputs

end Offering

/-! ## With the call and without it -/

/-- No capability of the name has an action. -/
def Barren (capabilities : CapabilityObjects) (name : String) : Prop :=
  ∀ capability, (capabilities capability).getName = name →
    (capabilities capability).getUpstreamMessages = [] ∧
      (capabilities capability).getDownstreamMessages = []

theorem createdBy_of_barren {capabilities : CapabilityObjects} {capability : CapabilityPtr}
    (h : Barren capabilities (capabilities capability).getName) (script : Script) :
    createdBy capabilities script capability = [] := by
  obtain ⟨hup, hdown⟩ := h capability rfl
  unfold createdBy SubscriberForwarder.create
  rw [if_neg (by simp), hup, hdown]
  rfl

namespace Offers

/-- A channel that never offers anything is made without an event. -/
theorem withChannel_created_of_barren {capabilities : CapabilityObjects}
    {capability : CapabilityPtr}
    (h : Barren capabilities (capabilities capability).getName) (o : Offers)
    (script : Script) : (o.withChannel capabilities script capability).created = o.created := by
  unfold withChannel
  rw [createdBy_of_barren h script]
  cases o.channels (capabilities capability).getName with
  | none => exact List.append_nil o.created
  | some offered => rfl

/-- The two differ at most in channels that never offer anything. -/
structure Indistinguishable (capabilities : CapabilityObjects) (o o' : Offers) : Prop where
  created : o.created = o'.created
  channels : ∀ name, o.channels name = o'.channels name ∨
    Barren capabilities name ∧ (o.channels name).getD [] = [] ∧
      (o'.channels name).getD [] = []

namespace Indistinguishable

variable {capabilities : CapabilityObjects} {o o' : Offers}

theorem getD (h : Indistinguishable capabilities o o') (name : String) :
    (o.channels name).getD [] = (o'.channels name).getD [] := by
  rcases h.channels name with heq | ⟨-, hidle, hidle'⟩
  · rw [heq]
  · rw [hidle, hidle']

theorem offered (h : Indistinguishable capabilities o o') (script : Script)
    (capability : CapabilityPtr) :
    o.offered capabilities script capability = o'.offered capabilities script capability := by
  unfold Offers.offered
  rcases h.channels (capabilities capability).getName with heq | ⟨hbarren, hidle, hidle'⟩
  · rw [heq]
  · rw [createdBy_of_barren hbarren script, hidle, hidle']

theorem withChannel_created (h : Indistinguishable capabilities o o') (script : Script)
    (capability : CapabilityPtr) :
    (o.withChannel capabilities script capability).created =
      (o'.withChannel capabilities script capability).created := by
  rcases h.channels (capabilities capability).getName with heq | ⟨hbarren, -, -⟩
  · unfold Offers.withChannel
    rw [heq]
    cases o'.channels (capabilities capability).getName with
    | none => simp only [h.created]
    | some offered => exact h.created
  · rw [withChannel_created_of_barren hbarren, withChannel_created_of_barren hbarren]
    exact h.created

theorem withChannel (h : Indistinguishable capabilities o o') (script : Script)
    (capability : CapabilityPtr) :
    Indistinguishable capabilities (o.withChannel capabilities script capability)
      (o'.withChannel capabilities script capability) := by
  refine ⟨h.withChannel_created script capability, ?_⟩
  intro name
  rw [withChannel_channels, withChannel_channels]
  split
  · rw [h.offered script capability]
    exact Or.inl rfl
  · exact h.channels name

theorem step (h : Indistinguishable capabilities o o') (i : Script × MessagingOp) :
    (machine capabilities).output o i = (machine capabilities).output o' i ∧
      Indistinguishable capabilities ((machine capabilities).next o i)
        ((machine capabilities).next o' i) := by
  obtain ⟨script, op⟩ := i
  cases op with
  | publish capability action payload =>
      simp only [Machine.output, Machine.next, machine, Offers.step, h.getD]
      exact ⟨trivial, h⟩
  | subscribe request capability action =>
      simp only [Machine.output, Machine.next, machine, Offers.step]
      split
      · exact ⟨rfl, h⟩
      · rw [h.offered script capability]
        exact ⟨rfl, h.withChannel script capability⟩

theorem outputs (h : Indistinguishable capabilities o o')
    (inputs : List (Script × MessagingOp)) :
    (machine capabilities).outputs o inputs = (machine capabilities).outputs o' inputs ∧
      Indistinguishable capabilities ((machine capabilities).run o inputs)
        ((machine capabilities).run o' inputs) :=
  Machine.outputs_simulation _ _ (fun _ _ i h => step h i) h inputs

end Indistinguishable

/-- A channel that is made shows unless it can never offer anything. -/
theorem indistinguishable_withChannel {capabilities : CapabilityObjects} {o : Offers}
    {capability : CapabilityPtr}
    (h : o.channels (capabilities capability).getName ≠ none ∨
      Barren capabilities (capabilities capability).getName) (script : Script) :
    Indistinguishable capabilities o (o.withChannel capabilities script capability) := by
  cases hchannel : o.channels (capabilities capability).getName with
  | some offered =>
      rw [withChannel_of_some hchannel]
      exact ⟨rfl, fun _ => Or.inl rfl⟩
  | none =>
      have hbarren := h.resolve_left (fun hne => hne hchannel)
      refine ⟨(withChannel_created_of_barren hbarren o script).symm, ?_⟩
      intro name
      rw [withChannel_channels]
      split
      · rename_i hname
        refine Or.inr ⟨hname ▸ hbarren, ?_, ?_⟩
        · rw [hname, hchannel, Option.getD_none]
        · rw [Option.getD_some, Offers.offered, hchannel, Option.getD_none,
            createdBy_of_barren hbarren]
      · exact Or.inl rfl

end Offers

/-! ### When everything succeeds -/

theorem mem_createEventsOf {env : Environment} (henv : env.afbApi = true)
    (hall : ∀ calls eventName, env.createEvent calls eventName = true) (calls : Trace)
    {eventNames : List String} {eventName : String} (h : eventName ∈ eventNames) :
    eventName ∈ (SubscriberForwarder.createEventsOf env calls eventNames).1 := by
  have hround : ∀ (state : EventsMap × Trace) (name : String),
      (SubscriberForwarder.createEvent env state name).1 =
        state.1.emplace name state.2.length := by
    intro state name
    unfold SubscriberForwarder.createEvent UnorderedMap.emplace
    by_cases hmem : name ∈ state.1
    · simp [hmem]
    · simp [hmem, henv, hall, Environment.doCreateEvent]
  have hloop : ∀ (names : List String) (state : EventsMap × Trace),
      eventName ∈ names ∨ eventName ∈ state.1 →
      eventName ∈ (names.foldl (SubscriberForwarder.createEvent env) state).1 := by
    intro names
    induction names with
    | nil => exact fun state hmem => hmem.resolve_left (by simp)
    | cons name rest ih =>
        intro state hmem
        refine ih _ ?_
        rw [hround, UnorderedMap.mem_emplace]
        rcases hmem with hmem | hmem
        · rcases List.mem_cons.mp hmem with rfl | hrest
          · exact Or.inr (Or.inl rfl)
          · exact Or.inl hrest
        · exact Or.inr (Or.inr hmem)
  exact hloop eventNames _ (Or.inl h)

/-- Every action is offered then. -/
theorem mem_createdBy_obliging {capabilities : CapabilityObjects} {capability : CapabilityPtr}
    {action : String}
    (h : action ∈ (capabilities capability).getUpstreamMessages ∨
      action ∈ (capabilities capability).getDownstreamMessages) :
    action ∈ createdBy capabilities .obliging capability := by
  obtain ⟨forwarder, added, hcreate, -, -, hactions⟩ :=
    create_scripted capabilities .obliging [] capability
  rw [← hactions action, SubscriberForwarder.resolve_isSome_iff]
  unfold SubscriberForwarder.create at hcreate
  rw [if_neg (by simp)] at hcreate
  rw [← Option.some.inj (congrArg Prod.fst hcreate)]
  have hall : ∀ calls eventName, (Script.obliging.environment 0).createEvent calls eventName =
    true := fun _ _ => rfl
  rcases h with hup | hdown
  · exact Or.inl (mem_createEventsOf rfl hall _ hup)
  · exact Or.inr (mem_createEventsOf rfl hall _ hdown)

/-! ## What a subscription leaves behind -/

namespace Messaging

/-- Nothing that is asked later is answered differently, however the outside answers, and the
same events get created. -/
def Unnoticed (capabilities : CapabilityObjects) (s s' : Messaging) : Prop :=
  ∀ after : List (Script × MessagingOp),
    (scripted capabilities).outputs s' after = (scripted capabilities).outputs s after ∧
      created ((scripted capabilities).run s' after).calls =
        created ((scripted capabilities).run s after).calls

/-- A subscription under the capability's name has nothing to make: it is refused at once, or
the channel is there, or it could offer nothing. -/
def NothingToMake (capabilities : CapabilityObjects) (s : Messaging)
    (capability : CapabilityPtr) : Prop :=
  (capabilities capability).getName = "" ∨
    s.channel (capabilities capability).getName ≠ none ∨
    Barren capabilities (capabilities capability).getName

theorem unnoticed_of_indistinguishable {capabilities : CapabilityObjects} {s s' : Messaging}
    {o o' : Offers} (h : Offering s o) (h' : Offering s' o')
    (hsame : o.Indistinguishable capabilities o') : Unnoticed capabilities s s' := by
  intro after
  obtain ⟨houtputs, hoffering⟩ := h.outputs capabilities after
  obtain ⟨houtputs', hoffering'⟩ := h'.outputs capabilities after
  obtain ⟨hanswers, hend⟩ := hsame.outputs after
  constructor
  · rw [houtputs, houtputs', hanswers]
  · rw [hoffering.created, hoffering'.created, hend.created]

/-- What is asked first is answered alike. -/
theorem Unnoticed.output {capabilities : CapabilityObjects} {s s' : Messaging} {o o' : Offers}
    (hun : Unnoticed capabilities s s') (h : Offering s o) (h' : Offering s' o')
    (i : Script × MessagingOp) :
    (Offers.machine capabilities).output o' i = (Offers.machine capabilities).output o i := by
  have hanswer := (hun [i]).1
  rw [Machine.outputs_cons, Machine.outputs_cons] at hanswer
  have hfirst := (List.cons.inj hanswer).1
  rw [(h.step capabilities i).1, (h'.step capabilities i).1] at hfirst
  exact hfirst

/-- A channel that was missing shows: by what it offers, or by what it keeps from being
offered. -/
theorem not_unnoticed {capabilities : CapabilityObjects} {s s' : Messaging} {o : Offers}
    {capability : CapabilityPtr} {script : Script} (h : Offering s o)
    (h' : Offering s' (o.withChannel capabilities script capability))
    (hmake : ¬ NothingToMake capabilities s capability) : ¬ Unnoticed capabilities s s' := by
  simp only [NothingToMake, not_or, not_not] at hmake
  obtain ⟨hname, hchannel, hbarren⟩ := hmake
  have hnone := h.missing _ hchannel
  have hmade : (o.withChannel capabilities script capability).channels
      (capabilities capability).getName = some (createdBy capabilities script capability) := by
    rw [Offers.withChannel_channels, if_pos rfl, Offers.offered, hnone, Option.getD_none]
  intro hun
  cases hoffers : createdBy capabilities script capability with
  | cons action rest =>
      have hpublish := hun.output h h' (.obliging, .publish capability action "")
      simp [Machine.output, Offers.machine, Offers.step, hmade, hnone, hoffers] at hpublish
  | nil =>
      obtain ⟨other, hother, action, haction⟩ : ∃ other,
          (capabilities other).getName = (capabilities capability).getName ∧ ∃ action,
            action ∈ (capabilities other).getUpstreamMessages ∨
              action ∈ (capabilities other).getDownstreamMessages := by
        by_contra hnever
        apply hbarren
        intro other hother
        constructor
        · rw [List.eq_nil_iff_forall_not_mem]
          intro action hmem
          exact hnever ⟨other, hother, action, Or.inl hmem⟩
        · rw [List.eq_nil_iff_forall_not_mem]
          intro action hmem
          exact hnever ⟨other, hother, action, Or.inr hmem⟩
      have hoffered := mem_createdBy_obliging haction
      have hsubscribe := hun.output h h' (.obliging, .subscribe 0 other action)
      simp [Machine.output, Offers.machine, Offers.step, Offers.offered, hother, hname, hmade,
        hnone, hoffers] at hsubscribe
      exact absurd (hsubscribe hoffered) (by simp [Script.obliging])

/-- A subscription that fails leaves nothing behind exactly if it had nothing to make.  One
that succeeds leaves as much: that it failed is not used. -/
theorem failed_subscription_unnoticed_iff {env : Environment} (henv : env.afbApi = true)
    (capabilities : CapabilityObjects) (before : List MessagingOp) (request : RequestPtr)
    (capability : CapabilityPtr) (action : String) :
    let s := (machine env capabilities).run initial before
    let op := MessagingOp.subscribe request capability action
    (machine env capabilities).output s op = .ok false →
      (Unnoticed capabilities s ((machine env capabilities).next s op) ↔
        NothingToMake capabilities s capability) := by
  intro s op _
  obtain ⟨inputs, -, hrun, -⟩ := scripted_run henv capabilities wf_initial before
  obtain ⟨o, hoffering⟩ : ∃ o, Offering s o := by
    have hend := (Offering.initial.outputs capabilities inputs).2
    rw [hrun] at hend
    exact ⟨_, hend⟩
  -- the call itself is answered by its script, too
  have hnext : (scripted capabilities).next s (answersOf env henv capabilities s op, op) =
      (machine env capabilities).next s op :=
    congrArg Prod.fst (step_answersOf henv capabilities hoffering.wf op)
  have hafter := (hoffering.step capabilities (answersOf env henv capabilities s op, op)).2
  rw [hnext] at hafter
  by_cases hname : (capabilities capability).getName = ""
  · have hsame : (machine env capabilities).next s op = s :=
      congrArg Prod.fst (subscribe_unnamed env capabilities request action hname)
    rw [hsame]
    exact ⟨fun _ => Or.inl hname, fun _ _ => ⟨rfl, rfl⟩⟩
  · simp only [Machine.next, Offers.machine, Offers.step, op, if_neg hname] at hafter
    constructor
    · intro hun
      by_contra hmake
      exact not_unnoticed hoffering hafter hmake hun
    · intro hmake
      refine unnoticed_of_indistinguishable hoffering hafter ?_
      apply Offers.indistinguishable_withChannel
      rw [Ne, hoffering.missing_iff]
      exact hmake.resolve_left hname

/-- Once the telephone has its channel, subscribing to an action it does not have leaves
nothing. -/
theorem failed_subscription_unnoticed_iff_phonecontrol :
    let capabilities := CapabilitiesFactory.capabilities
    let phone := CapabilitiesFactory.getPhoneControl
    let s := (machine .obliging capabilities).run initial
      [.subscribe 7 phone "phonecontrol/dial"]
    let op := MessagingOp.subscribe 8 phone "bogus"
    (machine .obliging capabilities).output s op = .ok false ∧
      Unnoticed capabilities s ((machine .obliging capabilities).next s op) := by
  intro capabilities phone s op
  have hfalse : (machine .obliging capabilities).output s op = .ok false := by decide
  refine ⟨hfalse, ?_⟩
  refine (failed_subscription_unnoticed_iff (by rfl) capabilities _ 8 phone "bogus" hfalse).mpr ?_
  exact Or.inr (Or.inl (by decide))

/-- Without any subscription that succeeded, the action that the telephone does not have opens
the channel for those that it has. -/
theorem failed_subscription_opens_channel :
    let capabilities := CapabilitiesFactory.capabilities
    let phone := CapabilitiesFactory.getPhoneControl
    let op := MessagingOp.subscribe 7 phone "bogus"
    let s' := (machine .obliging capabilities).next initial op
    let after := [(Script.obliging, MessagingOp.publish phone "phonecontrol/dial" "")]
    (machine .obliging capabilities).output initial op = .ok false ∧
      (scripted capabilities).outputs s' after = [.ok true] ∧
      (scripted capabilities).outputs initial after = [.ok false] ∧
      ¬ Unnoticed capabilities initial s' := by
  intro capabilities phone op s' after
  have hwith : (scripted capabilities).outputs s' after = [.ok true] := by decide
  have hwithout : (scripted capabilities).outputs initial after = [.ok false] := by decide
  refine ⟨by decide, hwith, hwithout, ?_⟩
  intro hun
  have hsame := (hun after).1
  rw [hwith, hwithout] at hsame
  exact absurd hsame (by simp)

end Messaging

end Vshl.Capabilities
