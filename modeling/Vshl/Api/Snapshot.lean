/-
  Api/Snapshot.lean --- the reply of `enumerateVoiceAgents` as a configuration.

  What one binding lists, another can load: the reply has the two members of a configuration
  and all that an entry must say.  The registry of the first is brought into the second.
-/
import Vshl.Api.NativeDelivery
import Vshl.Api.ServiceHandlers

set_option autoImplicit false

namespace Vshl.Api

open Vshl.Foundation
open Vshl.Interfaces
open Vshl.VoiceAgents
open Vshl.Core

/-! ## The entries of a reply -/

/-- The same agent; the wakewords may be in another order. -/
structure SameAgent (agent agent' : VoiceAgent) : Prop where
  fields : agent' = { agent with mWakewords := agent'.mWakewords }
  wakewords : ∀ wakeword, wakeword ∈ agent'.mWakewords ↔ wakeword ∈ agent.mWakewords

/-- What the entry for an agent says. -/
def argsOf (agent : VoiceAgent) : VoiceAgent.Args :=
  { id := agent.mId, name := agent.mName, description := agent.mDescription, api := agent.mApi,
    vendor := agent.mVendor, activeWakeword := agent.mActiveWakeword,
    isActive := agent.mIsActive,
    wakewords := some ((∅ : UnorderedSet String).insertAll agent.mWakewords.toList) }

theorem create_argsOf {agent : VoiceAgent} (h : agent.Wf) :
    ∃ agent', VoiceAgent.create (argsOf agent) = some agent' ∧ SameAgent agent agent' := by
  have hsame : ∀ wakeword,
      wakeword ∈ (∅ : UnorderedSet String).insertAll agent.mWakewords.toList ↔
        wakeword ∈ agent.mWakewords := by
    intro wakeword
    rw [UnorderedSet.mem_insertAll, UnorderedSet.mem_def (s := agent.mWakewords)]
    simp
  refine ⟨{ agent with
    mWakewords := (∅ : UnorderedSet String).insertAll agent.mWakewords.toList }, ?_, rfl, hsame⟩
  refine VoiceAgent.create_eq_some_iff.mpr ⟨⟨rfl, rfl, rfl, rfl, rfl, rfl⟩, ?_, rfl, rfl⟩
  exact (hsame agent.mActiveWakeword).mpr h

theorem valid_argsOf {agent : VoiceAgent} (h : agent.Wf) (hid : agent.mId ≠ "") :
    Valid (argsOf agent) := by
  obtain ⟨agent', hcreate, hsame⟩ := create_argsOf h
  refine valid_iff.mpr ⟨agent', hcreate, ?_, hid⟩
  rw [hsame.fields]
  rfl

/-- The entries of a reply can all be read. -/
theorem readEntries_encoded {agents : List VoiceAgent} (h : ∀ agent ∈ agents, agent.Wf) :
    readEntries (agents.map encodeAgent) =
      (.ok (), agents.map fun agent => some (argsOf agent)) := by
  induction agents with
  | nil => rfl
  | cons agent rest ih =>
      obtain ⟨hwf, hrest⟩ := List.forall_mem_cons.mp h
      have hcarries := encodeAgent_carries hwf
      simp only [List.map_cons, readEntries, hcarries.missesParam, hcarries.decodeAgent,
        Bool.false_eq_true, if_false, ih hrest]
      rfl

theorem firstValid_mem {described : List (Option VoiceAgent.Args)} {id : String}
    {args : VoiceAgent.Args} (h : firstValid described id = some args) :
    some args ∈ described := by
  obtain ⟨front, entry, back, rfl, hentry, -⟩ := List.findSome?_eq_some_iff.mp h
  obtain ⟨hsome, -⟩ := Option.filter_eq_some_iff.mp hentry
  rw [hsome]
  simp

theorem firstValid_ne_none {described : List (Option VoiceAgent.Args)} {args : VoiceAgent.Args}
    (hmem : some args ∈ described) (hvalid : Valid args) :
    firstValid described args.id ≠ none := by
  intro hnone
  have hentry := List.findSome?_eq_none_iff.mp hnone (some args) hmem
  rw [Option.filter_some, if_pos (decide_eq_true ⟨rfl, hvalid⟩)] at hentry
  exact absurd hentry (by simp)

/-! ## A reply that is loaded -/

/-- The service has taken over what another one knew and it did not. -/
structure Takes (source before after : Service) : Prop where
  keeps : ∀ id agent, before.agents id = some agent → after.agents id = some agent
  adds : ∀ id, before.agents id = none → Option.Rel SameAgent (source.agents id) (after.agents id)
  default : after.default = if source.default = "" then before.default else source.default
  opened : after.opened = before.opened

/-- The agents of the binding are in good order, and the default is one of them. -/
theorem service_agents_wf {b : Binding} (h : BindingWf b) {id : String} {agent : VoiceAgent}
    (hagent : b.service.agents id = some agent) : id ≠ "" ∧ agent.mId = id ∧ agent.Wf := by
  obtain ⟨p, hfind, rfl⟩ := Option.map_eq_some_iff.mp hagent
  exact ⟨h.registry.id_ne id p hfind, h.registry.id_eq id p hfind, h.registry.wf id p hfind⟩

theorem service_default_registered {b : Binding} (h : BindingWf b) (hset : b.service.default ≠ "") :
    (b.service.agents b.service.default).isSome := by
  rcases h.agrees with ⟨hunset, -⟩ | ⟨p, hfind, -⟩
  · exact absurd hunset hset
  · simp only [Binding.service, hfind, Option.map_some, Option.isSome_some]

/-- Registering what a reply lists. -/
theorem register_listed {source : Binding} (hwf : BindingWf source) {listed : List VoiceAgent}
    (hlisted : ∀ agent, agent ∈ listed ↔ source.service.agents agent.mId = some agent)
    (before : Service) (id : String) (hnone : before.agents id = none) :
    Option.Rel SameAgent (source.service.agents id)
      ((before.register (listed.map fun agent => some (argsOf agent))).agents id) := by
  simp only [Service.register, hnone, Option.none_or]
  cases hfirst : firstValid (listed.map fun agent => some (argsOf agent)) id with
  | none =>
      cases hagent : source.service.agents id with
      | none => exact .none
      | some agent =>
          obtain ⟨hid, hname, hagentWf⟩ := service_agents_wf hwf hagent
          have hmem : agent ∈ listed := (hlisted agent).mpr (hname ▸ hagent)
          have hvalid := valid_argsOf hagentWf (hname ▸ hid)
          have hread : firstValid (listed.map fun agent => some (argsOf agent))
              (argsOf agent).id ≠ none :=
            firstValid_ne_none (List.mem_map.mpr ⟨agent, hmem, rfl⟩) hvalid
          have hargs : (argsOf agent).id = id := hname
          rw [hargs] at hread
          exact absurd hfirst hread
  | some args =>
      obtain ⟨agent, hmem, hargs⟩ := List.mem_map.mp (firstValid_mem hfirst)
      obtain rfl := Option.some.inj hargs
      have hagent := (hlisted agent).mp hmem
      have hid : agent.mId = id := (firstValid_spec hfirst).1
      obtain ⟨-, -, hagentWf⟩ := service_agents_wf hwf hagent
      obtain ⟨agent', hcreate, hsame⟩ := create_argsOf hagentWf
      rw [← hid, hagent, Option.bind_some, hcreate]
      exact .some hsame

theorem setDefault_of_source {source target : Binding} (hsource : BindingWf source)
    (htarget : BindingWf target) {described : List (Option VoiceAgent.Args)}
    (hadds : ∀ id, target.service.agents id = none → Option.Rel SameAgent
      (source.service.agents id) ((target.service.register described).agents id)) :
    ((target.service.register described).setDefault source.service.default).default =
      if source.service.default = "" then target.service.default else source.service.default := by
  have hregistered : ((target.service.register described).agents
      source.service.default).isSome ↔ source.service.default ≠ "" := by
    cases htaken : target.service.agents source.service.default with
    | some agent =>
        have hid := (service_agents_wf htarget htaken).1
        simp only [Service.register, htaken, Option.some_or, Option.isSome_some]
        exact iff_of_true trivial hid
    | none =>
        have hrel := hadds _ htaken
        constructor
        · rintro hsome hempty
          cases hagent : source.service.agents source.service.default with
          | some agent => exact (service_agents_wf hsource hagent).1 hempty
          | none =>
              rw [hagent] at hrel
              generalize (target.service.register described).agents
                source.service.default = found at hrel hsome
              cases hrel
              exact absurd hsome (by simp)
        · intro hset
          have hsome := service_default_registered hsource hset
          generalize source.service.agents source.service.default = agent at hrel hsome
          generalize (target.service.register described).agents
            source.service.default = found at hrel ⊢
          cases hrel with
          | some hsame => rfl
          | none => exact hsome
  unfold Service.setDefault
  split
  · rename_i hsome
    rw [if_neg (hregistered.mp hsome)]
  · rename_i hnone
    rw [if_pos (not_not.mp (mt hregistered.mpr hnone))]
    rfl

/-- The reply of any binding can be loaded into any other: the agents that were not there are
those of the reply, its default becomes the default, and no channel changes. -/
theorem snapshot_restored {env env' : Environment} {source target : Binding}
    (hsource : Reachable env source) (htarget : Reachable env' target) {snapshot : Json}
    (hreply : (handle env source .enumerateVoiceAgents).reply =
      some (.success (some snapshot))) :
    let done := handle env' target (.loadVoiceAgentsConfig (some snapshot))
    done.ret = .ok 0 ∧ Takes source.service target.service done.binding.service ∧
      done.binding.sCapabilityMessagingService = target.sCapabilityMessagingService := by
  intro done
  let manager := source.sVoiceAgentsDataManager
  let listed := manager.getAllVoiceAgents.toList.map manager.agents.object
  obtain ⟨-, hlisted⟩ := listed_agents hsource.wf
  obtain rfl : encodeAgents listed source.service.default = snapshot :=
    Option.some.inj (Reply.success.inj (Option.some.inj hreply))
  have hread : readEntries (listed.map encodeAgent) =
      (.ok (), listed.map fun agent => some (argsOf agent)) := by
    refine readEntries_encoded ?_
    intro agent hmem
    exact (service_agents_wf hsource.wf ((hlisted agent).mp hmem)).2.2
  have hcommand : (Verb.loadVoiceAgentsConfig
      (some (encodeAgents listed source.service.default))).command =
      .load (listed.map fun agent => some (argsOf agent)) (some source.service.default)
        (.returned 0) := by
    simp only [Verb.command, withField, encodeAgents_agents, Option.getD_some, Json.iterate, hread,
      loadCommand, encodeAgents_default, Json.getString]
  obtain ⟨hservice, -⟩ := handle_refines htarget.moveWf (.loadVoiceAgentsConfig
    (some (encodeAgents listed source.service.default)))
  rw [hcommand] at hservice
  have hadds := register_listed hsource.wf hlisted target.service
  refine ⟨?_, ?_, loadVoiceAgentsConfig_service env' target _⟩
  · have hresult := (loadAgents_reads env' htarget.afbApi htarget.wf (listed.map encodeAgent)).1
    rw [hread] at hresult
    rcases hloop : loadAgents env' target (listed.map encodeAgent) with ⟨result, loaded, notified⟩
    rw [hloop] at hresult
    obtain rfl : result = .ok () := hresult
    have hdone := loadVoiceAgentsConfig_eq
      (encodeAgents_agents listed source.service.default)
      (encodeAgents_default listed source.service.default) hloop
    exact congrArg Done.ret hdone
  · rw [hservice]
    simp only [Service.step, Option.elim_some]
    refine ⟨?_, ?_, ?_, ?_⟩
    · intro id agent hagent
      rw [Service.setDefault_agents, Service.register]
      simp only [hagent, Option.some_or]
    · intro id hnone
      rw [Service.setDefault_agents]
      exact hadds id hnone
    · exact setDefault_of_source hsource.wf htarget.wf hadds
    · unfold Service.setDefault
      split
      · rfl
      · rfl

/-- A binding with two agents. -/
def twoAgents : Binding :=
  (machine .obliging).run ((CTLP_ONLOAD .obliging).get onload_obliging)
    [.loadVoiceAgentsConfig (some (encodeAgents
      [.simple "VA-001" "alexa-api", .simple "VA-002" "other-api"] "VA-002"))]

theorem twoAgents_reachable : Reachable .obliging twoAgents := ⟨_, _, rfl, rfl⟩

/-- A binding where every call is answered by an error, with one agent under the id of one of
the two, and with a channel. -/
def refusedTarget : Binding :=
  (machine refusing).run ((CTLP_ONLOAD refusing).get rfl)
    [.loadVoiceAgentsConfig (some (encodeAgents [.simple "VA-001" "taken-api"] "VA-001")),
      .phonecontrolSubscribe 7 (some dialRequest)]

/-- The two agents are loaded there. -/
theorem snapshot_restored_refusing :
    let snapshot := encodeAgents (twoAgents.sVoiceAgentsDataManager.getAllVoiceAgents.toList.map
      twoAgents.sVoiceAgentsDataManager.agents.object) "VA-002"
    let done := handle refusing refusedTarget (.loadVoiceAgentsConfig (some snapshot))
    refusedTarget.service.agents "VA-001" = some (.simple "VA-001" "taken-api") ∧
      done.ret = .ok 0 ∧
      Takes twoAgents.service refusedTarget.service done.binding.service ∧
      done.binding.sCapabilityMessagingService = refusedTarget.sCapabilityMessagingService := by
  intro snapshot done
  exact ⟨by decide +kernel, snapshot_restored twoAgents_reachable ⟨_, _, rfl, rfl⟩ rfl⟩

end Vshl.Api
