/-
  Api/Config.lean --- `loadVoiceAgentsConfig` against what a configuration means.

  A configuration is a list of entries, each incomplete or the description of an agent.
  What it means does not mention the registry: under each id, the first valid description
  (`firstValid`).  `Merged` says that the loop of the handler brings exactly this into the
  registry it starts from.
-/
import Vshl.Api.Listening

set_option autoImplicit false

namespace Vshl.Api

open Vshl.Foundation
open Vshl.Interfaces
open Vshl.VoiceAgents
open Vshl.Core

/-! ## What a configuration means -/

/-- An agent that can be registered. -/
def Valid (args : VoiceAgent.Args) : Prop :=
  args.id ≠ "" ∧ ∃ wakewords ∈ args.wakewords, args.activeWakeword ∈ wakewords

instance (args : VoiceAgent.Args) : Decidable (Valid args) :=
  inferInstanceAs (Decidable (_ ∧ _))

/-- The first valid description of the id. -/
def firstValid (described : List (Option VoiceAgent.Args)) (id : String) :
    Option VoiceAgent.Args :=
  described.findSome? fun entry => entry.filter fun args => args.id = id ∧ Valid args

theorem firstValid_append (front back : List (Option VoiceAgent.Args)) (id : String) :
    firstValid (front ++ back) id = (firstValid front id).or (firstValid back id) :=
  List.findSome?_append

theorem firstValid_none (id : String) : firstValid [none] id = none := rfl

theorem firstValid_some (args : VoiceAgent.Args) (id : String) :
    firstValid [some args] id = if args.id = id ∧ Valid args then some args else none := by
  simp only [firstValid, List.findSome?_cons, List.findSome?_nil, Option.filter_some,
    decide_eq_true_eq]
  split
  · rename_i h
    split at h
    · rename_i hvalid
      rw [if_pos hvalid]
      exact h.symm
    · exact absurd h (by simp)
  · rename_i h
    split at h
    · exact absurd h (by simp)
    · rename_i hvalid
      rw [if_neg hvalid]

theorem firstValid_spec {described : List (Option VoiceAgent.Args)} {id : String}
    {args : VoiceAgent.Args} (h : firstValid described id = some args) :
    args.id = id ∧ Valid args := by
  obtain ⟨front, entry, back, -, hentry, -⟩ := List.findSome?_eq_some_iff.mp h
  obtain ⟨-, hvalid⟩ := Option.filter_eq_some_iff.mp hentry
  exact of_decide_eq_true hvalid

theorem valid_iff {args : VoiceAgent.Args} :
    Valid args ↔ ∃ voiceAgent, VoiceAgent.create args = some voiceAgent ∧
      voiceAgent.mId = args.id ∧ args.id ≠ "" := by
  constructor
  · rintro ⟨hid, wakewords, hwakewords, hactive⟩
    have hsome : args.wakewords = some wakewords := hwakewords
    refine ⟨⟨args.id, args.name, args.description, args.api, args.vendor,
      args.activeWakeword, args.isActive, wakewords⟩, ?_, rfl, hid⟩
    exact VoiceAgent.create_eq_some_iff.mpr
      ⟨⟨rfl, rfl, rfl, rfl, rfl, hsome⟩, hactive, rfl, rfl⟩
  · rintro ⟨voiceAgent, hcreate, -, hid⟩
    obtain ⟨hcreated, hwf, hactive, -⟩ := VoiceAgent.create_eq_some_iff.mp hcreate
    refine ⟨hid, voiceAgent.mWakewords, hcreated.wakewords, ?_⟩
    rw [← hactive]
    exact hwf

/-- What an entry says: nothing, if one of the required keys is missing. -/
def Describes (entry : Json) : Option VoiceAgent.Args → Prop
  | none => ∃ key ∈ requiredParams, entry.find? key = none
  | some args => Carries entry args

theorem missesParam_of_missing {entry : Json}
    (h : ∃ key ∈ requiredParams, entry.find? key = none) : missesParam entry = true := by
  obtain ⟨key, hkey, hnone⟩ := h
  rw [missesParam, List.any_eq_true]
  exact ⟨key, hkey, by rw [hnone]; rfl⟩

/-! ## What is brought into the registry -/

/-- The second registry is the first with the valid agents of new ids. -/
structure Merged (described : List (Option VoiceAgent.Args))
    (before after : VoiceAgentsDataManager) : Prop where
  keeps : ∀ id p, before.mVoiceAgents.find id = some p →
    after.mVoiceAgents.find id = some p ∧ after.agents.object p = before.agents.object p
  adds : ∀ id args, before.mVoiceAgents.find id = none → firstValid described id = some args →
    ∃ p, after.mVoiceAgents.find id = some p ∧
      VoiceAgent.create args = some (after.agents.object p)
  skips : ∀ id, before.mVoiceAgents.find id = none → firstValid described id = none →
    after.mVoiceAgents.find id = none
  default : after.mDefaultVoiceAgentId = before.mDefaultVoiceAgentId

/-- Nothing changes if there is nothing new and valid. -/
theorem Merged.refl {described : List (Option VoiceAgent.Args)}
    {manager : VoiceAgentsDataManager}
    (h : ∀ id args, manager.mVoiceAgents.find id = none → firstValid described id ≠ some args) :
    Merged described manager manager :=
  ⟨fun _ _ hfind => ⟨hfind, rfl⟩, fun id args hnone hvalid => absurd hvalid (h id args hnone),
    fun _ hnone _ => hnone, rfl⟩

theorem Merged.append {front back : List (Option VoiceAgent.Args)}
    {first second third : VoiceAgentsDataManager} (h : Merged front first second)
    (h' : Merged back second third) : Merged (front ++ back) first third := by
  refine ⟨?_, ?_, ?_, h'.default.trans h.default⟩
  · intro id p hfind
    obtain ⟨hsecond, hobject⟩ := h.keeps id p hfind
    obtain ⟨hthird, hobject'⟩ := h'.keeps id p hsecond
    exact ⟨hthird, hobject'.trans hobject⟩
  · intro id args hnone hvalid
    rw [firstValid_append] at hvalid
    cases hfront : firstValid front id with
    | some found =>
        rw [hfront, Option.some_or] at hvalid
        obtain ⟨p, hp, hcreate⟩ := h.adds id found hnone hfront
        obtain ⟨hthird, hobject⟩ := h'.keeps id p hp
        refine ⟨p, hthird, ?_⟩
        rw [hobject, ← Option.some.inj hvalid]
        exact hcreate
    | none =>
        rw [hfront, Option.none_or] at hvalid
        exact h'.adds id args (h.skips id hnone hfront) hvalid
  · intro id hnone hinvalid
    rw [firstValid_append] at hinvalid
    obtain ⟨hfront, hback⟩ := Option.or_eq_none_iff.mp hinvalid
    exact h'.skips id (h.skips id hnone hfront) hback

/-- An add of an invalid agent, or under an id that is taken, does nothing. -/
theorem addNewVoiceAgent_refused (env : Environment) {manager : VoiceAgentsDataManager}
    (calls : Trace) {args : VoiceAgent.Args}
    (h : ¬ (Valid args ∧ manager.mVoiceAgents.find args.id = none)) :
    manager.addNewVoiceAgent env calls args = (⟨manager, [], false⟩, calls) := by
  rw [VoiceAgentsDataManager.addNewVoiceAgent_eq]
  cases hcreate : VoiceAgent.create args with
  | none => rfl
  | some voiceAgent =>
      have hid := (VoiceAgent.create_eq_some_iff.mp hcreate).1.id
      simp only [hid]
      rw [if_neg]
      rintro ⟨hne, hnone⟩
      exact h ⟨valid_iff.mpr ⟨voiceAgent, hcreate, hid, hne⟩, hnone⟩

/-- An add of a valid agent under a new id succeeds. -/
theorem addNewVoiceAgent_accepted (env : Environment) {manager : VoiceAgentsDataManager}
    (calls : Trace) {args : VoiceAgent.Args} (hvalid : Valid args)
    (hnone : manager.mVoiceAgents.find args.id = none) :
    ∃ voiceAgent, VoiceAgent.create args = some voiceAgent ∧
      manager.addNewVoiceAgent env calls args = manager.withAgent env calls voiceAgent ∧
      ∀ id, (manager.withAgent env calls voiceAgent).1.manager.mVoiceAgents.find id =
        if id = args.id then some manager.agents.next else manager.mVoiceAgents.find id := by
  obtain ⟨voiceAgent, hcreate, hid, hne⟩ := valid_iff.mp hvalid
  refine ⟨voiceAgent, hcreate, ?_, ?_⟩
  · rw [VoiceAgentsDataManager.addNewVoiceAgent_eq]
    simp only [hcreate, hid]
    rw [if_pos ⟨hne, hnone⟩]
  · intro id
    simp only [VoiceAgentsDataManager.withAgent, hid]
    exact UnorderedMap.find_emplace_of_none _ hnone id

theorem addNewVoiceAgent_merged (env : Environment) {manager : VoiceAgentsDataManager}
    (calls : Trace) (args : VoiceAgent.Args)
    (hlt : ∀ id p, manager.mVoiceAgents.find id = some p → p < manager.agents.next) :
    Merged [some args] manager (manager.addNewVoiceAgent env calls args).1.manager := by
  by_cases hnew : Valid args ∧ manager.mVoiceAgents.find args.id = none
  · obtain ⟨hvalid, hnone⟩ := hnew
    obtain ⟨voiceAgent, hcreate, hadd, hfind⟩ :=
      addNewVoiceAgent_accepted env calls hvalid hnone
    rw [hadd]
    refine ⟨?_, ?_, ?_, rfl⟩
    · intro id p hp
      have hdifferent : id ≠ args.id := by
        rintro rfl
        exact absurd (hnone.symm.trans hp) (by simp)
      rw [hfind, if_neg hdifferent]
      exact ⟨hp, AgentStore.alloc_object_of_lt voiceAgent (hlt id p hp)⟩
    · intro id found _ hfirst
      rw [firstValid_some] at hfirst
      split at hfirst
      · rename_i hthis
        obtain rfl := Option.some.inj hfirst
        refine ⟨manager.agents.next, by rw [hfind, if_pos hthis.1.symm], ?_⟩
        rw [hcreate]
        exact congrArg some (AgentStore.alloc_object_next _ _).symm
      · exact absurd hfirst (by simp)
    · intro id hid' hfirst
      rw [firstValid_some] at hfirst
      have hdifferent : id ≠ args.id := by
        rintro rfl
        rw [if_pos ⟨rfl, hvalid⟩] at hfirst
        exact absurd hfirst (by simp)
      rw [hfind, if_neg hdifferent]
      exact hid'
  · rw [addNewVoiceAgent_refused env calls hnew]
    refine Merged.refl ?_
    intro id found hnone hfirst
    rw [firstValid_some] at hfirst
    split at hfirst
    · rename_i hthis
      exact hnew ⟨hthis.2, hthis.1 ▸ hnone⟩
    · exact absurd hfirst (by simp)

/-! ## The loop of the handler -/

section

variable (env : Environment)

theorem loadAgent_ok_iff (b : Binding) (entry : Json) :
    (loadAgent env b entry).1 = .ok () ↔ (missesParam entry = false → RightKinds entry) := by
  unfold loadAgent
  cases hmisses : missesParam entry with
  | true => simp
  | false =>
      rw [← decodeAgent_isOk_iff hmisses]
      cases decodeAgent entry with
      | error fault => simp
      | ok args => simp

/-- The loop comes to its end exactly if every complete entry can be read. -/
theorem loadAgents_ok_iff (b : Binding) (entries : List Json) :
    (loadAgents env b entries).1 = .ok () ↔
      ∀ entry ∈ entries, missesParam entry = false → RightKinds entry := by
  induction entries generalizing b with
  | nil => simp [loadAgents]
  | cons entry rest ih =>
      rw [List.forall_mem_cons, ← loadAgent_ok_iff env b entry, loadAgents]
      rcases loadAgent env b entry with ⟨fault | done, b', notified⟩
      · simp
      · simp [ih b']

/-- One round of the loop, for an entry of the right kinds. -/
theorem loadAgent_merged {b : Binding} (hwf : BindingWf b) {entry : Json}
    {description : Option VoiceAgent.Args} (h : Describes entry description) :
    ∃ b' notified, loadAgent env b entry = (.ok (), b', notified) ∧
      Merged [description] b.sVoiceAgentsDataManager b'.sVoiceAgentsDataManager := by
  unfold loadAgent
  cases description with
  | none =>
      rw [if_pos (missesParam_of_missing h)]
      exact ⟨b, [], rfl, Merged.refl fun id args _ => by simp [firstValid_none]⟩
  | some args =>
      have hcarries : Carries entry args := h
      rw [if_neg (by rw [hcarries.missesParam]; simp), hcarries.decodeAgent]
      exact ⟨_, _, rfl, addNewVoiceAgent_merged env b.calls args hwf.registry.lt_next⟩

theorem loadAgents_merged {env : Environment} (henv : env.afbApi = true) {entries : List Json}
    {described : List (Option VoiceAgent.Args)}
    (h : List.Forall₂ Describes entries described) :
    ∀ {b : Binding}, BindingWf b →
      ∃ b' notified, loadAgents env b entries = (.ok (), b', notified) ∧
        Merged described b.sVoiceAgentsDataManager b'.sVoiceAgentsDataManager := by
  induction h with
  | nil =>
      intro b _
      exact ⟨b, [], rfl, Merged.refl fun _ _ _ => by simp [firstValid]⟩
  | @cons entry description entries described hentry _ ih =>
      intro b hwf
      obtain ⟨b₁, first, hround, hfirst⟩ := loadAgent_merged env hwf hentry
      have hacts := loadAgent_acts env b entry
      rw [hround] at hacts
      obtain ⟨b₂, rest, hloop, hrest⟩ := ih (hwf.acts henv hacts)
      refine ⟨b₂, first ++ rest, ?_, hfirst.append hrest⟩
      simp only [loadAgents, hround, hloop]

/-- A call that leaves the data manager as it is and tells nobody leaves the binding as
it is. -/
theorem dataManager_of_same {b : Binding} {op : Op} {result : Result}
    (h : VoiceAgents.step env b.state op = (b.state, ⟨[], result⟩)) :
    b.dataManager env op = (b, ⟨[], result⟩) := by
  simp only [Binding.dataManager, h, VRAgentsObserver.deliver_nil]
  rfl

/-- A round does nothing if the agent that is read is refused. -/
theorem loadAgent_refused {b : Binding} {entry : Json} {args : VoiceAgent.Args}
    (hcomplete : missesParam entry = false) (hdecode : decodeAgent entry = .ok args)
    (hrefused : ¬ (Valid args ∧ b.sVoiceAgentsDataManager.mVoiceAgents.find args.id = none)) :
    loadAgent env b entry = (.ok (), b, []) := by
  have hsame : VoiceAgents.step env b.state (.addNewVoiceAgent args) =
      (b.state, ⟨[], .bool false⟩) := by
    simp only [VoiceAgents.step, Binding.state, addNewVoiceAgent_refused env b.calls hrefused]
  unfold loadAgent
  rw [if_neg (by simp [hcomplete]), hdecode]
  simp only [dataManager_of_same env hsame]

/-- The loop does nothing if every id that it could add is taken. -/
theorem loadAgents_again {entries : List Json} {described : List (Option VoiceAgent.Args)}
    (h : List.Forall₂ Describes entries described) {b : Binding}
    (htaken : ∀ id, firstValid described id ≠ none →
      b.sVoiceAgentsDataManager.mVoiceAgents.find id ≠ none) :
    loadAgents env b entries = (.ok (), b, []) := by
  induction h with
  | nil => rfl
  | @cons entry description entries described hentry _ ih =>
      have happend : ∀ id, firstValid (description :: described) id =
          (firstValid [description] id).or (firstValid described id) :=
        firstValid_append [description] described
      have hround : loadAgent env b entry = (.ok (), b, []) := by
        cases description with
        | none =>
            unfold loadAgent
            rw [if_pos (missesParam_of_missing hentry)]
        | some args =>
            have hcarries : Carries entry args := hentry
            refine loadAgent_refused env hcarries.missesParam hcarries.decodeAgent ?_
            rintro ⟨hvalid, hnone⟩
            refine htaken args.id ?_ hnone
            rw [happend, firstValid_some, if_pos ⟨rfl, hvalid⟩, Option.some_or]
            simp
      have hrest : loadAgents env b entries = (.ok (), b, []) := by
        refine ih fun id hne => htaken id ?_
        rw [happend]
        intro hnone
        exact hne (Option.or_eq_none_iff.mp hnone).2
      simp only [loadAgents, hround, hrest, List.append_nil]

end

/-! ## The registry after a load -/

/-- The registry is what the configuration means. -/
structure Configured (described : List (Option VoiceAgent.Args)) (defaultId : String)
    (manager : VoiceAgentsDataManager) : Prop where
  absent : ∀ id, firstValid described id = none → manager.mVoiceAgents.find id = none
  present : ∀ id args, firstValid described id = some args →
    ∃ p, manager.mVoiceAgents.find id = some p ∧
      VoiceAgent.create args = some (manager.agents.object p)
  default_present : firstValid described defaultId ≠ none →
    manager.mDefaultVoiceAgentId = defaultId
  default_absent : firstValid described defaultId = none → manager.mDefaultVoiceAgentId = ""

namespace Configured

variable {described : List (Option VoiceAgent.Args)} {defaultId : String}
  {manager : VoiceAgentsDataManager}

theorem find_cases (h : Configured described defaultId manager) {id : String} {p : AgentPtr}
    (hfind : manager.mVoiceAgents.find id = some p) :
    ∃ args, firstValid described id = some args ∧
      VoiceAgent.create args = some (manager.agents.object p) := by
  cases hfirst : firstValid described id with
  | none => exact absurd (hfind.symm.trans (h.absent id hfirst)) (by simp)
  | some args =>
      obtain ⟨q, hq, hcreate⟩ := h.present id args hfirst
      obtain rfl : p = q := Option.some.inj (hfind.symm.trans hq)
      exact ⟨args, rfl, hcreate⟩

theorem taken (h : Configured described defaultId manager) {id : String}
    (hne : firstValid described id ≠ none) : manager.mVoiceAgents.find id ≠ none := by
  obtain ⟨args, hargs⟩ := Option.ne_none_iff_exists'.mp hne
  obtain ⟨p, hp, -⟩ := h.present id args hargs
  rw [hp]
  simp

/-- The iteration order does not matter. -/
theorem rehash (h : Configured described defaultId manager)
    (voiceAgents : UnorderedMap String AgentPtr) (observers : UnorderedSet ObserverPtr) :
    Configured described defaultId (VoiceAgents.rehash manager voiceAgents observers) := by
  unfold VoiceAgents.rehash
  split
  · rename_i hperm
    have hfind := UnorderedMap.Reordered.find hperm.1
    refine ⟨?_, ?_, h.default_present, h.default_absent⟩
    · intro id hnone
      exact (hfind id).trans (h.absent id hnone)
    · intro id args hfirst
      obtain ⟨p, hp, hcreate⟩ := h.present id args hfirst
      exact ⟨p, (hfind id).trans hp, hcreate⟩
  · exact h

/-- Setting the configured default again changes nothing. -/
theorem setDefaultVoiceAgent (h : Configured described defaultId manager) :
    ∃ result, manager.setDefaultVoiceAgent defaultId = ⟨manager, [], result⟩ := by
  by_cases hfound : defaultId ≠ "" ∧ ∃ p, manager.mVoiceAgents.find defaultId = some p
  · obtain ⟨hid, p, hfind⟩ := hfound
    obtain ⟨args, hfirst, -⟩ := h.find_cases hfind
    have hdefault := h.default_present (by rw [hfirst]; simp)
    refine ⟨true, ?_⟩
    rw [VoiceAgentsDataManager.setDefaultVoiceAgent_of_find hid hfind]
    simp only [VoiceAgentsDataManager.withDefault, hdefault, ne_eq, not_true_eq_false,
      if_false]
    rw [← hdefault]
  · exact ⟨false, VoiceAgentsDataManager.setDefaultVoiceAgent_refused hfound⟩

end Configured

/-- What the loop brings into an empty registry is what the configuration means, once
the default is set. -/
theorem Merged.configured {described : List (Option VoiceAgent.Args)}
    {before after : VoiceAgentsDataManager} (h : Merged described before after)
    (hempty : ∀ id, before.mVoiceAgents.find id = none)
    (hdefault : before.mDefaultVoiceAgentId = "") (defaultId : String) :
    Configured described defaultId (after.setDefaultVoiceAgent defaultId).manager := by
  have hpresent : ∀ id args, firstValid described id = some args →
      ∃ p, after.mVoiceAgents.find id = some p ∧
        VoiceAgent.create args = some (after.agents.object p) :=
    fun id args => h.adds id args (hempty id)
  have habsent : ∀ id, firstValid described id = none → after.mVoiceAgents.find id = none :=
    fun id => h.skips id (hempty id)
  have hunset : after.mDefaultVoiceAgentId = "" := h.default.trans hdefault
  cases hfirst : firstValid described defaultId with
  | none =>
      rw [VoiceAgentsDataManager.setDefaultVoiceAgent_refused
        (by rw [habsent defaultId hfirst]; simp)]
      exact ⟨habsent, hpresent, fun hne => absurd hfirst hne, fun _ => hunset⟩
  | some args =>
      obtain ⟨p, hp, -⟩ := hpresent defaultId args hfirst
      have hid : defaultId ≠ "" := by
        obtain ⟨hargs, hvalid⟩ := firstValid_spec hfirst
        rw [← hargs]
        exact hvalid.1
      rw [VoiceAgentsDataManager.setDefaultVoiceAgent_of_find hid hp]
      exact ⟨habsent, hpresent, fun _ => rfl,
        fun hnone => absurd (hfirst.symm.trans hnone) (by simp)⟩

/-! ## The reply of `enumerateVoiceAgents` -/

/-- The entry of the reply for an agent that was configured so. -/
structure Lists (entry : Json) (args : VoiceAgent.Args) : Prop where
  id : entry.find? VA_JSON_ATTR_ID = some (.str args.id)
  name : entry.find? VA_JSON_ATTR_NAME = some (.str args.name)
  description : entry.find? VA_JSON_ATTR_DESCRIPTION = some (.str args.description)
  api : entry.find? VA_JSON_ATTR_API = some (.str args.api)
  vendor : entry.find? VA_JSON_ATTR_VENDOR = some (.str args.vendor)
  isActive : entry.find? VA_JSON_ATTR_ACTIVE = some (.bool args.isActive)
  activeWakeword : entry.find? VA_JSON_ATTR_ACTIVE_WW = some (.str args.activeWakeword)
  wakewords : ∃ wakewords : List String,
    entry.find? VA_JSON_ATTR_WWS = some (.arr (wakewords.map .str)) ∧ wakewords.Nodup ∧
      ∀ wakeword, wakeword ∈ wakewords ↔ ∃ set ∈ args.wakewords, wakeword ∈ set

theorem encodeAgent_lists {args : VoiceAgent.Args} {agent : VoiceAgent}
    (h : VoiceAgent.create args = some agent) : Lists (encodeAgent agent) args := by
  obtain ⟨hcreated, hwf, hactive, hisActive⟩ := VoiceAgent.create_eq_some_iff.mp h
  refine ⟨?_, ?_, ?_, ?_, ?_, ?_, ?_, agent.mWakewords.toList, ?_, agent.mWakewords.nodup, ?_⟩
  · rw [← hcreated.id]
    rfl
  · rw [← hcreated.name]
    rfl
  · rw [← hcreated.description]
    rfl
  · rw [← hcreated.api]
    rfl
  · rw [← hcreated.vendor]
    rfl
  · rw [← hisActive]
    rfl
  · rw [← hactive]
    rfl
  · rw [← encodeWakewords_of_wf hwf]
    rfl
  · intro wakeword
    rw [hcreated.wakewords]
    simp [UnorderedSet.mem_def]

/-- The reply lists one entry for each id that has a valid description, as the first of
them says, and the configured default if it is listed. -/
structure Loaded (described : List (Option VoiceAgent.Args)) (configuredId : String)
    (listed : List Json) (defaultId : String) : Prop where
  complete : ∀ id args, firstValid described id = some args →
    ∃ entry ∈ listed, Lists entry args
  sound : ∀ entry ∈ listed, ∃ id args, firstValid described id = some args ∧ Lists entry args
  once : (listed.map fun entry => entry.find? VA_JSON_ATTR_ID).Nodup
  default_listed : (∃ entry ∈ listed, entry.find? VA_JSON_ATTR_ID = some (.str configuredId)) →
    defaultId = configuredId
  default_unlisted :
    (¬ ∃ entry ∈ listed, entry.find? VA_JSON_ATTR_ID = some (.str configuredId)) →
      defaultId = ""

theorem Configured.loaded {described : List (Option VoiceAgent.Args)} {configuredId : String}
    {manager : VoiceAgentsDataManager} (h : Configured described configuredId manager) :
    Loaded described configuredId (listedAgents manager) manager.mDefaultVoiceAgentId := by
  have hcomplete : ∀ id args, firstValid described id = some args →
      ∃ entry ∈ listedAgents manager, Lists entry args := by
    intro id args hfirst
    obtain ⟨p, hp, hcreate⟩ := h.present id args hfirst
    exact ⟨_, mem_listedAgents.mpr ⟨id, p, hp, rfl⟩, encodeAgent_lists hcreate⟩
  have hsound : ∀ entry ∈ listedAgents manager, ∃ id args,
      firstValid described id = some args ∧ Lists entry args := by
    intro entry hentry
    obtain ⟨id, p, hp, rfl⟩ := mem_listedAgents.mp hentry
    obtain ⟨args, hfirst, hcreate⟩ := h.find_cases hp
    exact ⟨id, args, hfirst, encodeAgent_lists hcreate⟩
  refine ⟨hcomplete, hsound, ?_, ?_, ?_⟩
  · have hid : ∀ id p, manager.mVoiceAgents.find id = some p →
        (manager.agents.object p).mId = id := by
      intro id p hp
      obtain ⟨args, hfirst, hcreate⟩ := h.find_cases hp
      exact (VoiceAgent.create_eq_some_iff.mp hcreate).1.id.trans (firstValid_spec hfirst).1
    simp only [listedAgents, List.map_map]
    refine List.Nodup.map_on ?_ manager.getAllVoiceAgents.nodup
    intro p hp q hq hsame
    obtain ⟨id, hfind⟩ := VoiceAgentsDataManager.mem_getAllVoiceAgents.mp hp
    obtain ⟨id', hfind'⟩ := VoiceAgentsDataManager.mem_getAllVoiceAgents.mp hq
    have hstr : some (Json.str (manager.agents.object p).mId) =
        some (Json.str (manager.agents.object q).mId) := hsame
    have hids : (manager.agents.object p).mId = (manager.agents.object q).mId :=
      Json.str.inj (Option.some.inj hstr)
    rw [hid id p hfind, hid id' q hfind'] at hids
    rw [hids, hfind'] at hfind
    exact (Option.some.inj hfind).symm
  · rintro ⟨entry, hentry, hid⟩
    obtain ⟨id, args, hfirst, hlists⟩ := hsound entry hentry
    have hsame : id = configuredId := by
      rw [← (firstValid_spec hfirst).1]
      exact Json.str.inj (Option.some.inj (hlists.id.symm.trans hid))
    refine h.default_present ?_
    rw [← hsame, hfirst]
    simp
  · intro hunlisted
    refine h.default_absent ?_
    cases hfirst : firstValid described configuredId with
    | none => rfl
    | some args =>
        obtain ⟨entry, hentry, hlists⟩ := hcomplete configuredId args hfirst
        refine absurd ⟨entry, hentry, ?_⟩ hunlisted
        rw [hlists.id, (firstValid_spec hfirst).1]

/-! ## Loading a configuration -/

theorem encodeAgent_simple (id api : String) :
    Carries (encodeAgent (.simple id api)) (.simple id api) :=
  encodeAgent_carries (VoiceAgent.simple_wf id api)

/-- The handler, for a configuration with an array of agents and a default. -/
theorem loadVoiceAgentsConfig_eq {env : Environment} {b b' : Binding} {config : Json}
    {entries : List Json} {defaultId : String} {notified : List Notification}
    (hagents : config.find? VA_JSON_ATTR_AGENTS = some (.arr entries))
    (hdefault : config.find? VA_JSON_ATTR_DEFAULT = some (.str defaultId))
    (hloop : loadAgents env b entries = (.ok (), b', notified)) :
    handle env b (.loadVoiceAgentsConfig (some config)) =
      ⟨(b'.dataManager env (.setDefaultVoiceAgent defaultId)).1,
        notified ++ (b'.dataManager env (.setDefaultVoiceAgent defaultId)).2.notified, none,
        .ok 0⟩ := by
  simp only [handle, loadVoiceAgentsConfig, hagents, Json.iterate, hloop, loadDefault, hdefault,
    Json.getString]

/-- Two requests after each other: the second finds what the first has left, in any
iteration order. -/
def reordered (env : Environment) (b : Binding) (voiceAgents : UnorderedMap String AgentPtr)
    (observers : UnorderedSet ObserverPtr) : Binding :=
  (handle env b (.rehash voiceAgents observers)).binding

theorem loadVoiceAgentsConfig_correct {env : Environment} {b : Binding} (h : Reachable env b)
    (hempty : b.sVoiceAgentsDataManager.mVoiceAgents = ∅) {config : Json}
    {entries : List Json} {described : List (Option VoiceAgent.Args)} {configuredId : String}
    (hagents : config.find? VA_JSON_ATTR_AGENTS = some (.arr entries))
    (hdefault : config.find? VA_JSON_ATTR_DEFAULT = some (.str configuredId))
    (hentries : List.Forall₂ Describes entries described)
    (voiceAgents : UnorderedMap String AgentPtr) (observers : UnorderedSet ObserverPtr) :
    let load := Verb.loadVoiceAgentsConfig (some config)
    let loaded := reordered env (handle env b load).binding voiceAgents observers
    (handle env b load).ret = .ok 0 ∧
      (∃ listed defaultId, Reported env loaded listed defaultId ∧
        Loaded described configuredId listed defaultId) ∧
      (handle env loaded load).binding = loaded ∧ (handle env loaded load).notified = [] := by
  intro load loaded
  have hfind : ∀ id, b.sVoiceAgentsDataManager.mVoiceAgents.find id = none := by
    intro id
    rw [hempty]
    exact UnorderedMap.find_empty id
  have hunset : b.sVoiceAgentsDataManager.mDefaultVoiceAgentId = "" := by
    rcases h.wf.agrees with ⟨hunset, -⟩ | ⟨p, hp, -⟩
    · exact hunset
    · exact absurd ((hfind _).symm.trans hp) (by simp)
  obtain ⟨b', notified, hloop, hmerged⟩ := loadAgents_merged h.afbApi hentries h.wf
  have hload := loadVoiceAgentsConfig_eq hagents hdefault hloop
  have hloaded : Configured described configuredId loaded.sVoiceAgentsDataManager := by
    have hset := (hmerged.configured hfind hunset configuredId).rehash voiceAgents observers
    have hmanager : loaded.sVoiceAgentsDataManager = VoiceAgents.rehash
        (b'.sVoiceAgentsDataManager.setDefaultVoiceAgent configuredId).manager
        voiceAgents observers := by
      simp only [loaded, load, hload]
      rfl
    rw [hmanager]
    exact hset
  refine ⟨by rw [hload], ⟨_, _, reported env loaded, hloaded.loaded⟩, ?_⟩
  have hagain := loadVoiceAgentsConfig_eq hagents hdefault
    (loadAgents_again env hentries fun id hne => hloaded.taken hne)
  obtain ⟨result, hsame⟩ := hloaded.setDefaultVoiceAgent
  have hstep : VoiceAgents.step env loaded.state (.setDefaultVoiceAgent configuredId) =
      (loaded.state, ⟨[], .bool result⟩) := by
    simp only [VoiceAgents.step, Binding.state, hsame]
  rw [hagain, dataManager_of_same env hstep]
  exact ⟨rfl, rfl⟩

/-- An incomplete entry, and two of one id. -/
def exampleEntries : List Json :=
  [.obj [(VA_JSON_ATTR_ID, .str "VA-000")], encodeAgent (.simple "VA-001" "alexa-api"),
    encodeAgent (.simple "VA-001" "other-api")]

/-- What they say. -/
def exampleDescribed : List (Option VoiceAgent.Args) :=
  [none, some (.simple "VA-001" "alexa-api"), some (.simple "VA-001" "other-api")]

theorem exampleEntries_described : List.Forall₂ Describes exampleEntries exampleDescribed := by
  refine .cons ?_ (.cons ?_ (.cons ?_ .nil))
  · exact ⟨VA_JSON_ATTR_ACTIVE, by simp [requiredParams], rfl⟩
  · exact encodeAgent_simple "VA-001" "alexa-api"
  · exact encodeAgent_simple "VA-001" "other-api"

theorem loadVoiceAgentsConfig_correct_duplicate :
    let config := Json.obj
      [(VA_JSON_ATTR_AGENTS, .arr exampleEntries), (VA_JSON_ATTR_DEFAULT, .str "VA-001")]
    let load := Verb.loadVoiceAgentsConfig (some config)
    let b := (CTLP_ONLOAD .obliging).get rfl
    let loaded := reordered .obliging (handle .obliging b load).binding ∅ ∅
    (handle .obliging b load).ret = .ok 0 ∧
      (∃ listed defaultId, Reported .obliging loaded listed defaultId ∧
        Loaded exampleDescribed "VA-001" listed defaultId) ∧
      (handle .obliging loaded load).binding = loaded ∧
      (handle .obliging loaded load).notified = [] :=
  loadVoiceAgentsConfig_correct ⟨_, [], rfl, rfl⟩ rfl rfl rfl exampleEntries_described ∅ ∅

end Vshl.Api
