/-
  Core/Results.lean --- the result objects that `callSync` hands out, and who releases
  them.

  A ledger follows the trace of calls: an object enters it when a call hands it out and
  leaves it when it is freed.  `VRRequest` means to free what it is handed, but tests for
  the wrong thing (`FREEIF_eq`), so whatever enters the ledger stays.
-/
import Vshl.Core.Session

set_option autoImplicit false

namespace Vshl.Core

open Vshl.Foundation
open Vshl.Interfaces
open Vshl.VoiceAgents

/-! ## The ledger -/

/-- What one call, made at this position of the trace, does to the ledger. -/
def enter (ledger : List ObjectPtr) (call : Call) (position : Nat) : List ObjectPtr :=
  match call with
  | .callSync _ _ _ result => if result.object then position :: ledger else ledger
  | .free object => ledger.erase object
  | _ => ledger

/-- The ledger: the objects handed out and not released yet. -/
def unreleased (calls : Trace) : List ObjectPtr :=
  calls.zipIdx.foldl (fun ledger entry => enter ledger entry.1 entry.2) []

/-- The releases among some calls. -/
def releases (calls : Trace) : List ObjectPtr :=
  calls.filterMap fun
    | .free object => some object
    | _ => none

/-- The call handed out an object. -/
def HandsOut (call : Call) : Prop :=
  ∃ api verb request result, call = .callSync api verb request result ∧ result.object = true

/-- Between the two points everything handed out was released, exactly once, and nothing
else was. -/
structure Balanced (before after : Trace) : Prop where
  ledger : unreleased after = unreleased before
  once : ∀ position call, before.length ≤ position → after[position]? = some call →
    HandsOut call → (releases (after.drop before.length)).count position = 1

theorem unreleased_concat (calls : Trace) (call : Call) :
    unreleased (calls ++ [call]) = enter (unreleased calls) call calls.length := by
  unfold unreleased
  rw [List.zipIdx_append, List.foldl_append, Nat.zero_add]
  rfl

theorem Balanced.of_append {calls added : Trace}
    (hledger : unreleased (calls ++ added) = unreleased calls)
    (honce : ∀ i call, added[i]? = some call → HandsOut call →
      (releases added).count (calls.length + i) = 1) : Balanced calls (calls ++ added) := by
  refine ⟨hledger, ?_⟩
  intro position call hle hget hhands
  obtain ⟨i, rfl⟩ := Nat.exists_eq_add_of_le hle
  rw [List.getElem?_append_right hle, Nat.add_sub_cancel_left] at hget
  rw [List.drop_left]
  exact honce i call hget hhands

theorem handsOut_callSync_iff {api verb : String} {request : Option Json}
    {result : CallSyncResult} :
    HandsOut (.callSync api verb request result) ↔ result.object = true := by
  constructor
  · rintro ⟨_, _, _, _, hcall, hobject⟩
    exact (Call.callSync.inj hcall).2.2.2 ▸ hobject
  · exact fun hobject => ⟨_, _, _, _, rfl, hobject⟩

/-- Who frees what a call handed out leaves the ledger as it was. -/
theorem balanced_free (env : Environment) (calls : Trace) (api verb : String)
    (request : Option Json) :
    Balanced calls (free (env.doCallSync calls api verb request).2
      (resultObject calls (env.doCallSync calls api verb request).1)) := by
  simp only [Environment.doCallSync]
  generalize env.callSync calls api verb request = result
  cases hobject : result.object with
  | false =>
      simp only [resultObject, hobject, Bool.false_eq_true, if_false, free]
      refine Balanced.of_append ?_ ?_
      · simp [unreleased_concat, enter, hobject]
      · intro i call hget hhands
        obtain rfl := List.mem_singleton.mp (List.mem_of_getElem? hget)
        rw [handsOut_callSync_iff, hobject] at hhands
        exact absurd hhands (by simp)
  | true =>
      simp only [resultObject, hobject, if_true, free, List.append_assoc]
      refine Balanced.of_append ?_ ?_
      · rw [← List.append_assoc, unreleased_concat, unreleased_concat]
        simp [enter, hobject]
      · intro i call hget hhands
        cases i with
        | zero => simp [releases]
        | succ j =>
            -- the second call is the release
            obtain rfl := List.mem_singleton.mp (List.mem_of_getElem? hget)
            obtain ⟨_, _, _, _, hcall, -⟩ := hhands
            exact absurd hcall (by simp)

/-- The data manager does, when it starts a subscription process. -/
theorem balanced_callStartSubscriptionProcessAPI (env : Environment) (calls : Trace)
    (voiceAgent : VoiceAgent) :
    Balanced calls
      (VoiceAgentsDataManager.callStartSubscriptionProcessAPI env calls voiceAgent) := by
  unfold VoiceAgentsDataManager.callStartSubscriptionProcessAPI
  split
  · exact balanced_free env calls voiceAgent.mApi "startSubscriptionProcess" none
  · refine ⟨rfl, ?_⟩
    intro position call hle hget
    rw [List.getElem?_eq_none hle] at hget
    exact absurd hget (by simp)

/-! ## The calls of an operation -/

/-- Some calls without an argument, one after the other: APIs and verbs. -/
def ask (env : Environment) : Trace → List (String × String) → Trace
  | calls, [] => calls
  | calls, (api, verb) :: rest => ask env (env.doCallSync calls api verb none).2 rest

/-- None of them is answered with an object. -/
def AnsweredNull (env : Environment) : Trace → List (String × String) → Prop
  | _, [] => True
  | calls, (api, verb) :: rest =>
      (env.callSync calls api verb none).object = false ∧
        AnsweredNull env (env.doCallSync calls api verb none).2 rest

theorem ask_append (env : Environment) (second : List (String × String)) :
    ∀ (first : List (String × String)) (calls : Trace),
      ask env calls (first ++ second) = ask env (ask env calls first) second
  | [], _ => rfl
  | (api, verb) :: rest, calls =>
      ask_append env second rest (env.doCallSync calls api verb none).2

/-- The `cancel`s that the stored requests would be sent, in order. -/
def cancels (agents : AgentStore) (delegate : VRRequestProcessorDelegate) :
    List (String × String) :=
  delegate.mVRRequests.values.map fun request =>
    ((agents.object request.mVoiceAgent).mApi, VRRequest.VA_VERB_CANCEL)

/-- The calls that an operation makes. -/
def planned (env : Environment) (agents : AgentStore) (delegate : VRRequestProcessorDelegate) :
    SessionOp → List (String × String)
  | .startListening =>
      match delegate.mDefaultVoiceAgent with
      | none => []
      | some p =>
          cancels agents delegate ++
            if env.afbApi then [((agents.object p).mApi, VRRequest.VA_VERB_STARTLISTENING)]
            else []
  | .cancel => cancels agents delegate
  | .destroy => cancels agents delegate
  | .setDefaultVoiceAgent _ => []

theorem cancelEach_eq_ask (env : Environment) (agents : AgentStore) :
    ∀ (requests : List VRRequest) (calls : Trace),
      VRRequestProcessorDelegate.cancelEach env agents calls requests =
        ask env calls (requests.map fun request =>
          ((agents.object request.mVoiceAgent).mApi, VRRequest.VA_VERB_CANCEL))
  | [], _ => rfl
  | request :: rest, calls => by
      have hrest := cancelEach_eq_ask env agents rest (request.cancel env agents calls).2
      refine hrest.trans ?_
      rw [VRRequest.cancel, VRRequest.callVerb_eq]
      rfl

theorem cancelAllRequests_eq_ask (env : Environment) (agents : AgentStore)
    (delegate : VRRequestProcessorDelegate) (calls : Trace) :
    (delegate.cancelAllRequests env agents calls).2 =
      ask env calls (cancels agents delegate) := by
  rw [VRRequestProcessorDelegate.cancelAllRequests_calls, cancelEach_eq_ask]
  rfl

theorem next_calls (env : Environment) (agents : AgentStore) (s : Session) (op : SessionOp) :
    ((Session.machine env agents).next s op).calls =
      ask env s.calls (planned env agents s.delegate op) := by
  cases op with
  | startListening =>
      have hstep : ((Session.machine env agents).next s .startListening).calls =
          (VRRequestProcessor.startListening env agents s.delegate s.calls).2.2 := rfl
      rw [hstep]
      simp only [planned]
      cases hdefault : s.delegate.mDefaultVoiceAgent with
      | none =>
          rw [VRRequestProcessor.startListening_of_none hdefault]
          rfl
      | some p =>
          simp only [ask_append, ← cancelAllRequests_eq_ask]
          cases henv : env.afbApi with
          | true =>
              rw [VRRequestProcessor.startListening_of_some henv agents s.calls hdefault,
                VRRequestProcessorDelegate.cancelAllRequests_calls]
              rfl
          | false =>
              simp [VRRequestProcessor.startListening,
                VRRequestProcessorDelegate.getDefaultVoiceAgent, hdefault,
                VRRequestProcessorDelegate.startRequestForVoiceAgent, henv, ask]
  | cancel => exact cancelAllRequests_eq_ask env agents s.delegate s.calls
  | destroy => exact cancelAllRequests_eq_ask env agents s.delegate s.calls
  | setDefaultVoiceAgent voiceAgent => rfl

/-! ## What enters the ledger stays -/

theorem unreleased_doCallSync (env : Environment) (calls : Trace) (api verb : String) :
    unreleased (env.doCallSync calls api verb none).2 =
      if (env.callSync calls api verb none).object then calls.length :: unreleased calls
      else unreleased calls :=
  unreleased_concat calls _

/-- The ledger only grows. -/
theorem length_unreleased_ask (env : Environment) :
    ∀ (plan : List (String × String)) (calls : Trace),
      (unreleased calls).length ≤ (unreleased (ask env calls plan)).length
  | [], _ => Nat.le_refl _
  | (api, verb) :: rest, calls => by
      have hrest := length_unreleased_ask env rest (env.doCallSync calls api verb none).2
      refine Nat.le_trans ?_ hrest
      rw [unreleased_doCallSync]
      split
      · exact Nat.le_succ _
      · exact Nat.le_refl _

theorem unreleased_ask_iff (env : Environment) :
    ∀ (plan : List (String × String)) (calls : Trace),
      unreleased (ask env calls plan) = unreleased calls ↔ AnsweredNull env calls plan
  | [], _ => iff_of_true rfl trivial
  | (api, verb) :: rest, calls => by
      have hfirst := unreleased_doCallSync env calls api verb
      have hrest := unreleased_ask_iff env rest (env.doCallSync calls api verb none).2
      have hgrows := length_unreleased_ask env rest (env.doCallSync calls api verb none).2
      unfold AnsweredNull ask
      cases hobject : (env.callSync calls api verb none).object with
      | false =>
          rw [hobject] at hfirst
          simp only [Bool.false_eq_true, if_false] at hfirst
          rw [← hfirst, hrest]
          simp
      | true =>
          rw [hobject] at hfirst
          refine iff_of_false ?_ (by simp)
          intro hsame
          rw [hsame, hfirst, if_pos rfl, List.length_cons] at hgrows
          omega

/-- Calls that are answered with no object hand out none. -/
theorem ask_of_answeredNull (env : Environment) :
    ∀ (plan : List (String × String)) (calls : Trace), AnsweredNull env calls plan →
      ∃ added : Trace, ask env calls plan = calls ++ added ∧ ∀ call ∈ added, ¬ HandsOut call
  | [], calls, _ => ⟨[], (List.append_nil calls).symm, by simp⟩
  | (api, verb) :: rest, calls, hnull => by
      obtain ⟨added, hadded, hnone⟩ := ask_of_answeredNull env rest _ hnull.2
      refine ⟨_ :: added, hadded.trans (List.append_assoc _ _ _), ?_⟩
      intro call hcall
      rcases List.mem_cons.mp hcall with rfl | hmem
      · rw [handsOut_callSync_iff, hnull.1]
        simp
      · exact hnone call hmem

theorem balanced_ask_iff (env : Environment) (calls : Trace) (plan : List (String × String)) :
    Balanced calls (ask env calls plan) ↔ AnsweredNull env calls plan := by
  constructor
  · intro hbalanced
    exact (unreleased_ask_iff env plan calls).mp hbalanced.ledger
  · intro hnull
    obtain ⟨added, hadded, hnone⟩ := ask_of_answeredNull env plan calls hnull
    have hledger := (unreleased_ask_iff env plan calls).mpr hnull
    rw [hadded] at hledger ⊢
    refine Balanced.of_append hledger ?_
    intro i call hget hhands
    exact absurd hhands (hnone call (List.mem_of_getElem? hget))

/-- Each operation of a run releases what it is handed exactly if none of its calls hands
it anything. -/
theorem results_released_iff (env : Environment) (agents : AgentStore) (s : Session)
    (ops : List SessionOp) :
    (∀ before op after, ops = before ++ op :: after →
        Balanced ((Session.machine env agents).run s before).calls
          ((Session.machine env agents).run s (before ++ [op])).calls) ↔
      ∀ before op after, ops = before ++ op :: after →
        AnsweredNull env ((Session.machine env agents).run s before).calls
          (planned env agents ((Session.machine env agents).run s before).delegate op) := by
  simp only [Machine.run_concat, next_calls, balanced_ask_iff]

/-- The result of the first request is never released. -/
theorem result_leaked :
    ¬ ∀ (env : Environment) (agents : AgentStore) (before : List SessionOp) (op : SessionOp),
      Balanced ((Session.machine env agents).run .initial before).calls
        ((Session.machine env agents).run .initial (before ++ [op])).calls := by
  intro h
  have hledger := (h { Environment.obliging with callSync := fun _ _ _ _ => ⟨0, true⟩ }
    (AgentStore.empty.alloc (.simple "VA-001" "api")) [.setDefaultVoiceAgent (some 0)]
    .startListening).ledger
  exact absurd hledger (by decide)

end Vshl.Core
