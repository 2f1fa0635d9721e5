/-
  Api/Confinement.lean --- what the calls of a reachable binding can be, which result
  objects are released, and which events are created.

  The three results hold for every environment: they are read off the language that the
  trace is written in (`Reachable.speaks`).
-/
import Vshl.Api.CallLanguage
import Vshl.Api.Payloads

set_option autoImplicit false

namespace Vshl.Api

open Vshl.Foundation
open Vshl.Interfaces
open Vshl.VoiceAgents
open Vshl.Core
open Vshl.Capabilities

/-! ## What a call can be -/

/-- The call at this position handed out an object for a question that was asked. -/
def AskedObject (calls : Trace) (position : Nat) : Prop :=
  ∃ api verb request result, calls[position]? = some (.callSync api verb request result) ∧
    result.object = true ∧ verb ∉ keptVerbs

/-- The call at this position handed out an object to a request. -/
def KeptObject (calls : Trace) (position : Nat) : Prop :=
  ∃ api verb request result, calls[position]? = some (.callSync api verb request result) ∧
    result.object = true ∧ verb ∈ keptVerbs

/-- What the call at this position of the trace may be. -/
def Confined (b : Binding) (position : Nat) : Call → Prop
  | .callSync api verb request _ =>
      (KnowsApi b.sVoiceAgentsDataManager api ∧ verb ∈ askedVerbs ++ keptVerbs ∧ request = none) ∨
        IsAppCall api verb request
  | .free object => position = object + 1 ∧ AskedObject b.calls object
  | .createEvent eventName _ => HasEvent b eventName
  | .subscribe event _ _ => event < position ∧
      ∃ eventName, b.calls[event]? = some (.createEvent eventName true)
  | .publishEvent event _ _ => event < position ∧
      ∃ eventName, b.calls[event]? = some (.createEvent eventName true)
  | .onMessagePublished _ action => ∃ before event payload observers,
      position = before + 1 ∧
        b.calls[before]? = some (.publishEvent event payload observers) ∧
        b.calls[event]? = some (.createEvent action true)

/-- An entry stays where it is when the log grows. -/
theorem getElem?_of_extends {α : Type} {log log' : List α} (h : log <+: log') {i : Nat} {a : α}
    (hget : log[i]? = some a) : log'[i]? = some a := by
  obtain ⟨added, rfl⟩ := h
  obtain ⟨hlt, -⟩ := List.getElem?_eq_some_iff.mp hget
  rw [List.getElem?_append_left hlt]
  exact hget

/-- The verbs that are asked of an agent or an application are not kept. -/
theorem not_kept_of_asked {verb : String} (h : verb ∈ askedVerbs) : verb ∉ keptVerbs := by
  have hall : ∀ verb ∈ askedVerbs, verb ∉ keptVerbs := by decide
  exact hall verb h

theorem not_kept_of_app {api verb : String} {request : Option Json}
    (h : IsAppCall api verb request) : verb ∉ keptVerbs := by
  obtain ⟨-, -, -, -, -, ⟨-, rfl⟩ | ⟨-, rfl⟩⟩ := h
  · decide
  · decide

theorem not_kept_of_grounded {manager : VoiceAgentsDataManager} {May : String → Prop} {log : Trace}
    {api verb : String} {request : Option Json} {result : CallSyncResult}
    (h : Grounded manager May log (.ask api verb request result)) : verb ∉ keptVerbs := by
  rcases h with ⟨-, hasked, -⟩ | happ
  · exact not_kept_of_asked hasked
  · exact not_kept_of_app happ

/-- A question whose answer came with an object is followed by its release. -/
theorem spell_ask_released {log calls : Trace} {api verb : String} {request : Option Json}
    {result : CallSyncResult} (hobject : result.object = true)
    (hextends : log ++ Emission.spell log.length (.ask api verb request result) <+: calls) :
    calls[log.length]? = some (.callSync api verb request result) ∧
      calls[log.length + 1]? = some (.free log.length) := by
  have hspell : Emission.spell log.length (.ask api verb request result) =
      [.callSync api verb request result, .free log.length] := by
    simp [Emission.spell, hobject]
  rw [hspell] at hextends
  exact ⟨getElem?_of_extends hextends (by simp), getElem?_of_extends hextends (by simp)⟩

/-- The calls of a question: the `callSync`, and behind it the release of what came. -/
theorem spell_ask_cases {position k : Nat} {api verb : String} {request : Option Json}
    {result : CallSyncResult} {call : Call}
    (hget : (Emission.spell position (.ask api verb request result))[k]? = some call) :
    (k = 0 ∧ call = .callSync api verb request result) ∨
      (k = 1 ∧ call = .free position ∧ result.object = true) := by
  simp only [Emission.spell] at hget
  cases k with
  | zero => exact Or.inl ⟨rfl, (Option.some.inj hget).symm⟩
  | succ k =>
      rw [List.getElem?_cons_succ] at hget
      split at hget
      · rename_i hobject
        obtain ⟨hlt, hcall⟩ := List.getElem?_eq_some_iff.mp hget
        simp only [List.length_singleton] at hlt
        obtain rfl : k = 0 := by omega
        exact Or.inr ⟨rfl, hcall.symm, hobject⟩
      · exact absurd hget (by simp)

/-- Every other emission is one call. -/
theorem one_call {call call' : Call} {k : Nat} (hget : [call][k]? = some call') :
    k = 0 ∧ call' = call := by
  obtain ⟨hlt, hcall⟩ := List.getElem?_eq_some_iff.mp hget
  simp only [List.length_singleton] at hlt
  obtain rfl : k = 0 := by omega
  exact ⟨rfl, hcall.symm⟩

theorem confined_of_speaks {env : Environment} {b : Binding}
    (h : Speaks env b.sVoiceAgentsDataManager allKinds (HasEvent b) [] b.calls) {position : Nat}
    {call : Call} (hget : b.calls[position]? = some call) : Confined b position call := by
  obtain ⟨log, emission, k, -, hextends, ⟨-, hgrounded, -⟩, rfl, hcall⟩ :=
    h.block_of_entry (Nat.zero_le _) hget
  have hlog : log <+: b.calls := (List.prefix_append _ _).trans hextends
  -- an event that was created before is still found at its place
  have hevent : ∀ event, (∃ eventName, log[event]? = some (.createEvent eventName true)) →
      event < log.length ∧ ∃ eventName, b.calls[event]? = some (.createEvent eventName true) := by
    rintro event ⟨eventName, hname⟩
    obtain ⟨hlt, -⟩ := List.getElem?_eq_some_iff.mp hname
    exact ⟨hlt, eventName, getElem?_of_extends hlog hname⟩
  cases emission with
  | ask api verb request result =>
      rcases spell_ask_cases hcall with ⟨rfl, rfl⟩ | ⟨rfl, rfl, hobject⟩
      · exact hgrounded.imp_left fun hagent =>
          ⟨hagent.1, List.mem_append_left _ hagent.2.1, hagent.2.2⟩
      · obtain ⟨hasked, -⟩ := spell_ask_released hobject hextends
        exact ⟨rfl, api, verb, request, result, hasked, hobject, not_kept_of_grounded hgrounded⟩
  | keep api verb result =>
      obtain ⟨rfl, rfl⟩ := one_call hcall
      exact Or.inl ⟨hgrounded.1, List.mem_append_right _ hgrounded.2, rfl⟩
  | create eventName nonNull =>
      obtain ⟨rfl, rfl⟩ := one_call hcall
      exact hgrounded
  | subscribe event request result =>
      obtain ⟨rfl, rfl⟩ := one_call hcall
      exact hevent event hgrounded
  | publish event payload observers =>
      obtain ⟨rfl, rfl⟩ := one_call hcall
      exact hevent event hgrounded
  | tell capability action =>
      obtain ⟨rfl, rfl⟩ := one_call hcall
      obtain ⟨earlier, event, payload, observers, rfl, hcreated⟩ := hgrounded
      refine ⟨earlier.length, event, payload, observers, by simp, ?_, ?_⟩
      · exact getElem?_of_extends hlog (by simp)
      · exact getElem?_of_extends ((List.prefix_append _ _).trans hlog) hcreated

/-- Every call of a reachable binding is one of these. -/
theorem calls_confined {env : Environment} {b : Binding} (h : Reachable env b) :
    ∀ position call, b.calls[position]? = some call → Confined b position call :=
  fun _ _ hget => confined_of_speaks h.speaks.2 hget

/-- An outside whose every answer comes with an object. -/
def generous : Environment :=
  { Environment.obliging with callSync := fun _ _ _ _ => ⟨0, true⟩ }

theorem onload_generous : (CTLP_ONLOAD generous).isSome = true := rfl

/-- A binding that has started its agent twice and then launched the phone application. -/
def busy : Binding :=
  (machine generous).run ((CTLP_ONLOAD generous).get onload_generous)
    [.loadVoiceAgentsConfig (some (encodeAgents [.simple "VA-001" "alexa-api"] "VA-001")),
      .startListening, .startListening,
      .phonecontrolSubscribe 7 (some (.obj [(CAPABILITIES_JSON_ATTR_ACTIONS,
        .arr [.str phonecontrol.PHONECONTROL_DIAL])])),
      .phonecontrolPublish (some (dialMessage "5551234"))]

theorem busy_reachable : Reachable generous busy := ⟨_, _, rfl, rfl⟩

theorem calls_confined_busy :
    (∀ position call, busy.calls[position]? = some call → Confined busy position call) ∧
      busy.calls.length = 25 :=
  ⟨calls_confined busy_reachable, by decide⟩

/-! ## The result objects -/

/-- What becomes of the objects that calls hand out. -/
structure ResultsAccounted (calls : Trace) : Prop where
  /-- the answer to a question is released in the next call -/
  next : ∀ position, AskedObject calls position → calls[position + 1]? = some (.free position)
  /-- nothing is released twice -/
  once : (releases calls).Nodup
  /-- nothing else is released -/
  only : ∀ object, object ∈ releases calls ↔ AskedObject calls object
  /-- what is never released is what starts and cancels were handed -/
  ledger : ∀ object, object ∈ unreleased calls ↔ KeptObject calls object

theorem releases_append (calls added : Trace) :
    releases (calls ++ added) = releases calls ++ releases added :=
  List.filterMap_append

theorem mem_releases {calls : Trace} {object : ObjectPtr} :
    object ∈ releases calls ↔ ∃ position : Nat, calls[position]? = some (.free object) := by
  unfold releases
  rw [List.mem_filterMap]
  constructor
  · rintro ⟨call, hmem, hcall⟩
    obtain ⟨position, hget⟩ := List.mem_iff_getElem?.mp hmem
    cases call with
    | free freed => exact ⟨position, by rw [hget, Option.some.inj hcall]⟩
    | _ => exact absurd hcall (by simp)
  · rintro ⟨position, hget⟩
    exact ⟨.free object, List.mem_of_getElem? hget, rfl⟩

/-- The releases of one emission. -/
theorem releases_spell {position : Nat} {emission : Emission} {object : ObjectPtr}
    (h : object ∈ releases (emission.spell position)) :
    object = position ∧ releases (emission.spell position) = [position] := by
  cases emission with
  | ask api verb request result =>
      simp only [Emission.spell] at h ⊢
      cases hobject : result.object with
      | false => simp [releases, hobject] at h
      | true =>
          simp only [hobject, if_true] at h ⊢
          exact ⟨List.mem_singleton.mp h, rfl⟩
  | _ => simp [releases, Emission.spell] at h

theorem keptObject_concat {calls : Trace} {call : Call} {object : Nat} :
    KeptObject (calls ++ [call]) object ↔ KeptObject calls object ∨
      (object = calls.length ∧ ∃ api verb request result,
        call = .callSync api verb request result ∧ result.object = true ∧ verb ∈ keptVerbs) := by
  unfold KeptObject
  rcases Nat.lt_trichotomy object calls.length with hlt | rfl | hgt
  · rw [List.getElem?_append_left hlt]
    have hne : object ≠ calls.length := by omega
    simp [hne]
  · simp
  · have hout : calls.length + 1 ≤ object := by omega
    rw [List.getElem?_eq_none (by simpa using hout),
      List.getElem?_eq_none (Nat.le_of_lt hgt)]
    have hne : object ≠ calls.length := by omega
    simp [hne]

/-- The ledger after one more emission that is admitted. -/
theorem ledger_spell {manager : VoiceAgentsDataManager} {May : String → Prop} {log : Trace}
    {emission : Emission} (hgrounded : Grounded manager May log emission)
    (h : ∀ object, object ∈ unreleased log ↔ KeptObject log object) (object : ObjectPtr) :
    object ∈ unreleased (log ++ emission.spell log.length) ↔
      KeptObject (log ++ emission.spell log.length) object := by
  have hquiet : ∀ call : Call, (∀ api verb request result,
      call ≠ .callSync api verb request result) →
      (KeptObject (log ++ [call]) object ↔ KeptObject log object) := by
    intro call hcall
    rw [keptObject_concat]
    refine or_iff_left ?_
    rintro ⟨-, api, verb, request, result, heq, -⟩
    exact hcall api verb request result heq
  cases emission with
  | ask api verb request result =>
      have hkept := not_kept_of_grounded hgrounded
      have hasked : ∀ object, KeptObject (log ++ [.callSync api verb request result]) object ↔
          KeptObject log object := by
        intro object
        rw [keptObject_concat]
        refine or_iff_left ?_
        rintro ⟨-, api', verb', request', result', heq, -, hmem⟩
        rw [(Call.callSync.inj heq).2.1] at hkept
        exact hkept hmem
      simp only [Emission.spell]
      cases hobject : result.object with
      | false =>
          simp only [Bool.false_eq_true, if_false]
          rw [unreleased_concat, hasked]
          simp only [enter, hobject, Bool.false_eq_true, if_false]
          exact h object
      | true =>
          have hsplit : log ++ .callSync api verb request result :: [.free log.length] =
              (log ++ [.callSync api verb request result]) ++ [.free log.length] := by simp
          simp only [if_true]
          rw [hsplit, unreleased_concat, unreleased_concat, keptObject_concat, hasked]
          simp only [enter, hobject, if_true, List.erase_cons_head]
          rw [h object]
          simp
  | keep api verb result =>
      simp only [Emission.spell]
      rw [unreleased_concat, keptObject_concat, ← h object]
      simp only [enter]
      cases hobject : result.object with
      | false => simp [hobject]
      | true =>
          simp only [if_true, List.mem_cons]
          rw [or_comm]
          refine or_congr_right ⟨fun heq => ⟨heq, _, _, _, _, rfl, hobject, hgrounded.2⟩, And.left⟩
  | create eventName nonNull =>
      simp only [Emission.spell]
      rw [unreleased_concat, hquiet _ (by simp), ← h object]
      rfl
  | subscribe event request result =>
      simp only [Emission.spell]
      rw [unreleased_concat, hquiet _ (by simp), ← h object]
      rfl
  | publish event payload observers =>
      simp only [Emission.spell]
      rw [unreleased_concat, hquiet _ (by simp), ← h object]
      rfl
  | tell capability action =>
      simp only [Emission.spell]
      rw [unreleased_concat, hquiet _ (by simp), ← h object]
      rfl

/-- No object is released twice, since it is released right after it was handed out. -/
theorem releases_nodup {env : Environment} {manager : VoiceAgentsDataManager} {kinds : List Kind}
    {May : String → Prop} {calls : Trace} (h : Speaks env manager kinds May [] calls) :
    (releases calls).Nodup ∧ ∀ object ∈ releases calls, object < calls.length := by
  induction h with
  | refl => exact ⟨List.nodup_nil, by simp [releases]⟩
  | @write log _ emission _ ih =>
      obtain ⟨hnodup, hlt⟩ := ih
      rw [releases_append]
      by_cases hnone : releases (emission.spell log.length) = []
      · rw [hnone, List.append_nil]
        refine ⟨hnodup, ?_⟩
        intro object hmem
        exact Nat.lt_of_lt_of_le (hlt object hmem) (by simp)
      · obtain ⟨object, hmem⟩ := List.exists_mem_of_ne_nil _ hnone
        obtain ⟨rfl, hspell⟩ := releases_spell hmem
        rw [hspell]
        refine ⟨?_, ?_⟩
        · refine List.nodup_append.mpr ⟨hnodup, List.nodup_singleton _, ?_⟩
          intro a ha b hb
          have halt := hlt a ha
          obtain rfl := List.mem_singleton.mp hb
          exact Nat.ne_of_lt halt
        · intro object hmem
          have hgrows : log.length < (log ++ emission.spell log.length).length := by
            cases emission <;> simp [Emission.spell]
          rcases List.mem_append.mp hmem with hold | hnew
          · exact Nat.lt_trans (hlt object hold) hgrows
          · rw [List.mem_singleton.mp hnew]
            exact hgrows

theorem results_accounted {env : Environment} {b : Binding} (h : Reachable env b) :
    ResultsAccounted b.calls := by
  have hspeaks := h.speaks.2
  have hnext : ∀ position, AskedObject b.calls position →
      b.calls[position + 1]? = some (.free position) := by
    rintro position ⟨api, verb, request, result, hget, hobject, hverb⟩
    obtain ⟨log, emission, k, -, hextends, ⟨-, hgrounded, -⟩, rfl, hcall⟩ :=
      hspeaks.block_of_entry (Nat.zero_le _) hget
    cases emission with
    | ask api' verb' request' result' =>
        rcases spell_ask_cases hcall with ⟨rfl, heq⟩ | ⟨-, heq, -⟩
        · obtain ⟨-, -, -, rfl⟩ := Call.callSync.inj heq
          exact (spell_ask_released hobject hextends).2
        · exact absurd heq (by simp)
    | keep api' verb' result' =>
        obtain ⟨-, heq⟩ := one_call hcall
        rw [(Call.callSync.inj heq).2.1] at hverb
        exact absurd hgrounded.2 hverb
    | create _ _ | subscribe _ _ _ | publish _ _ _ | tell _ _ =>
        exact absurd (one_call hcall).2 (by simp)
  refine ⟨hnext, (releases_nodup hspeaks).1, ?_, ?_⟩
  · intro object
    rw [mem_releases]
    constructor
    · rintro ⟨position, hget⟩
      exact (confined_of_speaks hspeaks hget).2
    · exact fun hasked => ⟨_, hnext object hasked⟩
  · refine hspeaks.rec ?_ ?_
    · exact fun object => ⟨fun hmem => absurd hmem (by simp [unreleased]),
        fun ⟨_, _, _, _, hget, _⟩ => absurd hget (by simp)⟩
    · intro log _ emission hlawful ih
      exact ledger_spell hlawful.grounded ih

/-- Two starts and the cancel between them are never settled. -/
theorem results_accounted_busy :
    ResultsAccounted busy.calls ∧ (unreleased busy.calls).length = 3 ∧
      (releases busy.calls).length = 3 :=
  ⟨results_accounted busy_reachable, by decide, by decide⟩

end Vshl.Api
