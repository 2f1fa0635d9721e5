/-
  Api/History.lean --- what the plugin remembers, said by the requests it has had.

  Agents are only ever added, so the registered agents are what all configurations together
  mean, as if they had been one; where the default comes from is a question of what was
  registered when it was named.
-/
import Vshl.Api.ServiceHandlers

set_option autoImplicit false

namespace Vshl.Api

open Vshl.Foundation
open Vshl.Interfaces
open Vshl.VoiceAgents
open Vshl.Core
open Vshl.Capabilities

/-! ## What a list of commands says -/

namespace Command

/-- The descriptions that a command brings. -/
def described : Command → List (Option VoiceAgent.Args)
  | .load described _ _ => described
  | _ => []

/-- The agent that a command names as the default. -/
def names : Command → Option String
  | .load _ default _ => default
  | .setDefault voiceAgentId => some voiceAgentId
  | _ => none

/-- The capability that a command opens. -/
def opens : Command → Option String
  | .openCapability capability actions =>
      if actions = [] then none
      else some (CapabilitiesFactory.capabilities capability).getName
  | _ => none

end Command

/-- The descriptions that have been read. -/
def describedBy (commands : List Command) : List (Option VoiceAgent.Args) :=
  commands.flatMap Command.described

theorem describedBy_concat (front : List Command) (command : Command) :
    describedBy (front ++ [command]) = describedBy front ++ command.described := by
  simp [describedBy]

/-- The command names as the default an agent of which a valid description has been read
by then. -/
def NamesKnown (front : List Command) (command : Command) (voiceAgentId : String) : Prop :=
  command.names = some voiceAgentId ∧
    firstValid (describedBy (front ++ [command])) voiceAgentId ≠ none

/-- The default is the last known agent that was named. -/
inductive DefaultAfter (commands : List Command) (voiceAgentId : String) : Prop where
  | never (hid : voiceAgentId = "")
      (hnone : ∀ front command back, commands = front ++ command :: back →
        ∀ other, ¬ NamesKnown front command other)
  | last (front : List Command) (command : Command) (back : List Command)
      (hsplit : commands = front ++ command :: back)
      (hnames : NamesKnown front command voiceAgentId)
      (hlater : ∀ later command' rest, back = later ++ command' :: rest →
        ∀ other, ¬ NamesKnown (front ++ command :: later) command' other)

/-- A command more, which names nobody who is known. -/
theorem DefaultAfter.concat {commands : List Command} {voiceAgentId : String}
    (h : DefaultAfter commands voiceAgentId) {command : Command}
    (hnone : ∀ other, ¬ NamesKnown commands command other) :
    DefaultAfter (commands ++ [command]) voiceAgentId := by
  rcases h with ⟨hid, hnever⟩ | ⟨front, named, back, rfl, hnames, hlater⟩
  · refine .never hid ?_
    intro front command' back hsplit
    rcases concat_eq_append_cons_iff.mp hsplit with ⟨rfl, rfl, -⟩ | ⟨init, -, hcommands⟩
    · exact hnone
    · exact hnever front command' init hcommands
  · refine .last front named (back ++ [command]) (by simp) hnames ?_
    intro later command' rest hsplit
    rcases concat_eq_append_cons_iff.mp hsplit with ⟨rfl, rfl, -⟩ | ⟨init, -, hback⟩
    · exact hnone
    · exact hlater later command' init hback

/-! ## The service after a list of commands -/

namespace Service

theorem initial_register_agents (described : List (Option VoiceAgent.Args)) (id : String) :
    (initial.register described).agents id =
      (firstValid described id).bind VoiceAgent.create := by
  simp only [register, initial, Option.none_or]

/-- Who has a valid description is registered. -/
theorem initial_register_isSome (described : List (Option VoiceAgent.Args)) (id : String) :
    ((initial.register described).agents id).isSome ↔ firstValid described id ≠ none := by
  rw [initial_register_agents]
  cases hfirst : firstValid described id with
  | none => simp
  | some args =>
      obtain ⟨voiceAgent, hcreate, -⟩ := valid_iff.mp (firstValid_spec hfirst).2
      simp [hcreate]

theorem step_agents (s : Service) (command : Command) :
    (s.step command).1.agents = (s.register command.described).agents := by
  have hnothing : s.agents = (s.register []).agents := (congrArg agents (register_nil s)).symm
  cases command with
  | load described default answer =>
      cases default with
      | none => rfl
      | some voiceAgentId => exact setDefault_agents _ voiceAgentId
  | setDefault voiceAgentId => exact (setDefault_agents s voiceAgentId).trans hnothing
  | openCapability capability actions =>
      exact (openCapability_agents s capability actions).trans hnothing
  | _ => exact hnothing

theorem step_default (s : Service) (command : Command) :
    (s.step command).1.default = ((command.names.filter fun id =>
      ((s.register command.described).agents id).isSome).getD s.default) := by
  have hset : ∀ (s : Service) id, (s.setDefault id).default =
      ((some id).filter fun id => (s.agents id).isSome).getD s.default := by
    intro s id
    unfold setDefault
    cases hregistered : (s.agents id).isSome with
    | true => simp [Option.filter, hregistered]
    | false => simp [Option.filter, hregistered]
  cases command with
  | load described default answer =>
      cases default with
      | none => rfl
      | some voiceAgentId => exact hset (s.register described) voiceAgentId
  | setDefault voiceAgentId =>
      have hnothing : Command.described (.setDefault voiceAgentId) = [] := rfl
      rw [hnothing, register_nil]
      exact hset s voiceAgentId
  | openCapability capability actions => exact openCapability_default s capability actions
  | _ => rfl

theorem step_opened (s : Service) (command : Command) (name : String) :
    (s.step command).1.opened name = true ↔
      s.opened name = true ∨ command.opens = some name := by
  cases command with
  | openCapability capability actions =>
      simp only [step, openCapability, Command.opens]
      by_cases hnil : actions = []
      · simp [hnil]
      · by_cases hname : name = (CapabilitiesFactory.capabilities capability).getName
        · simp [hnil, hname]
        · simp [hnil, hname, Ne.symm hname]
  | load described default answer =>
      have hopened : (s.step (.load described default answer)).1.opened = s.opened := by
        cases default with
        | none => rfl
        | some voiceAgentId =>
            simp only [step, Option.elim_some, setDefault]
            split
            · rfl
            · rfl
      simp [hopened, Command.opens]
  | setDefault voiceAgentId =>
      have hopened : (s.step (.setDefault voiceAgentId)).1.opened = s.opened := by
        simp only [step, setDefault]
        split
        · rfl
        · rfl
      simp [hopened, Command.opens]
  | _ => simp [step, Command.opens]

variable (commands : List Command)

theorem run_agents :
    (machine.run initial commands).agents = (initial.register (describedBy commands)).agents := by
  induction commands using List.reverseRecOn with
  | nil => exact (congrArg agents (register_nil initial)).symm
  | append_singleton front command ih =>
      have hstep := step_agents (machine.run initial front) command
      rw [machine.run_concat, describedBy_concat, register_append]
      refine hstep.trans ?_
      simp only [register, ih]

theorem run_default : DefaultAfter commands (machine.run initial commands).default := by
  induction commands using List.reverseRecOn with
  | nil => exact .never rfl fun front command back hsplit => absurd hsplit (by simp)
  | append_singleton front command ih =>
      have hknown : ∀ id, (((machine.run initial front).register command.described).agents
          id).isSome ↔ firstValid (describedBy (front ++ [command])) id ≠ none := by
        intro id
        rw [describedBy_concat, ← initial_register_isSome, register_append]
        simp only [register, run_agents front]
      have hstep := step_default (machine.run initial front) command
      rw [machine.run_concat]
      change DefaultAfter _ ((machine.run initial front).step command).1.default
      rw [hstep]
      cases hfilter : command.names.filter fun id =>
          (((machine.run initial front).register command.described).agents id).isSome with
      | none =>
          refine ih.concat ?_
          rintro other ⟨hnames, hother⟩
          rw [hnames, Option.filter_eq_none_iff] at hfilter
          exact hfilter other rfl ((hknown other).mpr hother)
      | some id =>
          obtain ⟨hnames, hsome⟩ := Option.filter_eq_some_iff.mp hfilter
          refine .last front command [] rfl ⟨hnames, (hknown id).mp hsome⟩ ?_
          intro later command' rest hsplit
          exact absurd hsplit (by simp)

theorem run_opened (name : String) : (machine.run initial commands).opened name = true ↔
    ∃ command ∈ commands, command.opens = some name := by
  induction commands using List.reverseRecOn with
  | nil => simp [initial]
  | append_singleton front command ih =>
      rw [machine.run_concat]
      refine (step_opened (machine.run initial front) command name).trans ?_
      rw [ih]
      simp only [List.mem_append, List.mem_singleton, or_and_right, exists_or, exists_eq_left]

end Service

/-! ## The binding after a list of requests -/

theorem service_after {env : Environment} {loaded : Binding}
    (hloaded : CTLP_ONLOAD env = some loaded) (verbs : List Verb) :
    ((machine env).run loaded verbs).service =
      Service.machine.run .initial (verbs.map Verb.command) := by
  rw [← service_loaded hloaded]
  refine (machine env).run_refines Service.machine (I := MoveWf env) Binding.service
    Verb.command ?_ (fun b verb hb => (handle_refines hb verb).service)
    (Reachable.moveWf ⟨loaded, [], hloaded, rfl⟩) verbs
  intro b verb hb
  exact (handle_performs env b verb).invariant hb fun _ _ hm h => h.move hm.isExposed

/-- What the binding has become is said by its requests, whatever the outside has answered. -/
theorem state_of_requests {env : Environment} {loaded : Binding}
    (hloaded : CTLP_ONLOAD env = some loaded) (verbs : List Verb) :
    let b := (machine env).run loaded verbs
    let commands := verbs.map Verb.command
    (∀ id, (b.sVoiceAgentsDataManager.mVoiceAgents.find id).map
        b.sVoiceAgentsDataManager.agents.object =
      (firstValid (describedBy commands) id).bind VoiceAgent.create) ∧
    DefaultAfter commands b.sVoiceAgentsDataManager.mDefaultVoiceAgentId ∧
    ∀ name, (b.messaging.channel name).isSome ↔
      ∃ command ∈ commands, command.opens = some name := by
  intro b commands
  have hservice : b.service = Service.machine.run .initial commands := service_after hloaded verbs
  refine ⟨fun id => ?_, ?_, fun name => ?_⟩
  · have hagents : b.service.agents id = _ :=
      congrFun ((congrArg Service.agents hservice).trans (Service.run_agents commands)) id
    exact hagents.trans (Service.initial_register_agents _ id)
  · have hdefault := Service.run_default commands
    rw [← hservice] at hdefault
    exact hdefault
  · have hopened := Service.run_opened commands name
    rw [← hservice] at hopened
    exact hopened

/-- The same agent in two configurations, and a default that is named too early. -/
def loadedTwice : List Verb :=
  [.setDefaultVoiceAgent (some (.obj [(VA_JSON_ATTR_ID, .str "VA-001")])),
    .loadVoiceAgentsConfig (some (encodeAgents [.simple "VA-001" "alexa-api"] "")),
    .loadVoiceAgentsConfig (some (encodeAgents [.simple "VA-001" "other-api"] "VA-001"))]

theorem state_of_requests_loadedTwice :
    let b := (machine .obliging).run ((CTLP_ONLOAD .obliging).get rfl) loadedTwice
    let commands := loadedTwice.map Verb.command
    (∀ id, (b.sVoiceAgentsDataManager.mVoiceAgents.find id).map
        b.sVoiceAgentsDataManager.agents.object =
      (firstValid (describedBy commands) id).bind VoiceAgent.create) ∧
    DefaultAfter commands b.sVoiceAgentsDataManager.mDefaultVoiceAgentId ∧
    ∀ name, (b.messaging.channel name).isSome ↔
      ∃ command ∈ commands, command.opens = some name :=
  state_of_requests rfl loadedTwice

/-! ## What a client is told after a list of requests -/

/-- The requests that change what the plugin remembers. -/
def Verb.isActive : Verb → Bool
  | .loadVoiceAgentsConfig _ | .setDefaultVoiceAgent _ => true
  | .guiMetadataSubscribe _ _ | .phonecontrolSubscribe _ _ | .navigationSubscribe _ _ => true
  | _ => false

/-- A command that leaves every service as it is. -/
def Command.Idle (command : Command) : Prop := ∀ s : Service, (s.step command).1 = s

theorem withField_idle {α : Type} {json : Option Json} {key : String}
    {get : Json → Except Fault α} {command : α → Command}
    (hcommand : ∀ value, (command value).Idle) : (withField json key get command).Idle := by
  intro s
  unfold withField
  split
  · rfl
  · split
    · rfl
    · split
      · rfl
      · exact hcommand _ s

theorem idle_of_passive {verb : Verb} (h : verb.isActive = false) : verb.command.Idle := by
  cases verb with
  | loadVoiceAgentsConfig | setDefaultVoiceAgent => exact absurd h (by simp [Verb.isActive])
  | guiMetadataSubscribe | phonecontrolSubscribe | navigationSubscribe =>
      exact absurd h (by simp [Verb.isActive])
  | onAuthStateEvent | onConnectionStateEvent | onDialogStateEvent =>
      simp only [Verb.command, stateEventCommand]
      exact withField_idle fun _ _ => rfl
  | subscribe => exact withField_idle fun _ => withField_idle fun _ _ => rfl
  | guiMetadataPublish | phonecontrolPublish | navigationPublish =>
      exact withField_idle fun _ => withField_idle fun _ _ => rfl
  | startListening | cancelListening | enumerateVoiceAgents | rehash => exact fun _ => rfl

/-- Two handlers end alike: with the same return value, and replies that say the same. -/
def SameAnswer (done done' : Done) : Prop := ∃ answer, Shows done answer ∧ Shows done' answer

theorem healthy_run {env : Environment} (hdependable : Dependable env) {loaded : Binding}
    (hloaded : CTLP_ONLOAD env = some loaded) (verbs : List Verb) :
    Healthy env ((machine env).run loaded verbs) :=
  (machine env).run_invariant (I := Healthy env) (fun _ verb h => h.handle verb)
    (healthy_loaded hdependable hloaded) verbs

/-- What a client is told depends on the active requests before its own and on nothing else:
neither on who has listened, subscribed or published in between nor on how the outside has
answered, as long as no event was missing. -/
theorem answers_undisturbed {env env' : Environment} (hdependable : Dependable env)
    (hdependable' : Dependable env') {loaded loaded' : Binding}
    (hloaded : CTLP_ONLOAD env = some loaded) (hloaded' : CTLP_ONLOAD env' = some loaded')
    {verbs verbs' : List Verb}
    (hsame : verbs.filter Verb.isActive = verbs'.filter Verb.isActive) (verb : Verb) :
    SameAnswer (handle env ((machine env).run loaded verbs) verb)
      (handle env' ((machine env').run loaded' verbs') verb) := by
  have hpurged : ∀ verbs : List Verb, Service.machine.run .initial (verbs.map Verb.command) =
      Service.machine.run .initial ((verbs.filter Verb.isActive).map Verb.command) :=
    fun verbs => (Service.machine.run_filter Verb.command
      (fun s verb hpassive => idle_of_passive hpassive s) .initial verbs).symm
  have hservice : ((machine env).run loaded verbs).service =
      ((machine env').run loaded' verbs').service := by
    rw [service_after hloaded, service_after hloaded', hpurged verbs, hpurged verbs', hsame]
  have hhealthy := healthy_run hdependable hloaded verbs
  have hhealthy' := healthy_run hdependable' hloaded' verbs'
  have hshows := (handle_refines hhealthy.moves verb).shows hhealthy
  have hshows' := (handle_refines hhealthy'.moves verb).shows hhealthy'
  rw [← hservice] at hshows'
  exact ⟨_, hshows, hshows'⟩

/-- An outside on which no agent answers and nobody hears a message. -/
def deaf : Environment :=
  { Environment.obliging with
    callSync := fun _ _ _ _ => ⟨-1, true⟩
    publishEvent := fun _ _ _ => 0 }

/-- Between loading and asking, others start the agent and subscribe to it. -/
theorem answers_undisturbed_others :
    let load := Verb.loadVoiceAgentsConfig
      (some (encodeAgents [.simple "VA-001" "alexa-api"] "VA-001"))
    let others := [.startListening, .subscribe 7 (some authState), .cancelListening]
    SameAnswer
      (handle .obliging ((machine .obliging).run ((CTLP_ONLOAD .obliging).get rfl)
        (load :: others)) .enumerateVoiceAgents)
      (handle deaf ((machine deaf).run ((CTLP_ONLOAD deaf).get rfl) [load])
        .enumerateVoiceAgents) := by
  intro load others
  exact answers_undisturbed obliging_dependable ⟨fun _ _ => rfl, fun _ _ _ => rfl⟩ rfl rfl
    (by rfl) .enumerateVoiceAgents

end Vshl.Api
