/-
  Api/AgentJson.lean --- voice agents as JSON: the entries of a configuration, and the
  reply of `enumerateVoiceAgents`.
-/
import Vshl.Interfaces.Json
import Vshl.VoiceAgents.VoiceAgent

set_option autoImplicit false

namespace Vshl.Api

open Vshl.Foundation
open Vshl.Interfaces
open Vshl.VoiceAgents

def VA_JSON_ATTR_DEFAULT : String := "default"
def VA_JSON_ATTR_AGENTS : String := "agents"
def VA_JSON_ATTR_ID : String := "id"
def VA_JSON_ATTR_NAME : String := "name"
def VA_JSON_ATTR_API : String := "api"
def VA_JSON_ATTR_ACTIVE : String := "active"
def VA_JSON_ATTR_WWS : String := "wakewords"
def VA_JSON_ATTR_ACTIVE_WW : String := "activewakeword"
def VA_JSON_ATTR_DESCRIPTION : String := "description"
def VA_JSON_ATTR_VENDOR : String := "vendor"

/-! ## Decoding -/

/-- The keys an agent entry must have, in the order they are looked for. -/
def requiredParams : List String :=
  [VA_JSON_ATTR_ID, VA_JSON_ATTR_ACTIVE, VA_JSON_ATTR_NAME, VA_JSON_ATTR_API,
    VA_JSON_ATTR_WWS, VA_JSON_ATTR_ACTIVE_WW, VA_JSON_ATTR_DESCRIPTION, VA_JSON_ATTR_VENDOR]

/-- Does the entry miss one of them? -/
def missesParam (agentJson : Json) : Bool :=
  requiredParams.any fun key => (agentJson.find? key).isNone

/-- `agentJson[key]`, for a key that was found before. -/
def param (agentJson : Json) (key : String) : Json := (agentJson.find? key).getD .null

/-- The loop that collects the wakewords. -/
def decodeWakewords (wakewordsJson : Json) : Except Fault (UnorderedSet String) :=
  match Json.getStrings wakewordsJson.iterate with
  | .error fault => .error fault
  | .ok wakewords => .ok ((∅ : UnorderedSet String).insertAll wakewords)

/-- The arguments of `addNewVoiceAgent`, read in the order of the source. -/
def decodeAgent (agentJson : Json) : Except Fault VoiceAgent.Args := do
  let id ← (param agentJson VA_JSON_ATTR_ID).getString
  let name ← (param agentJson VA_JSON_ATTR_NAME).getString
  let api ← (param agentJson VA_JSON_ATTR_API).getString
  let description ← (param agentJson VA_JSON_ATTR_DESCRIPTION).getString
  let vendor ← (param agentJson VA_JSON_ATTR_VENDOR).getString
  let activeWakeword ← (param agentJson VA_JSON_ATTR_ACTIVE_WW).getString
  let isActive ← (param agentJson VA_JSON_ATTR_ACTIVE).getBool
  let wakewords ← decodeWakewords (param agentJson VA_JSON_ATTR_WWS)
  pure
    { id := id, name := name, description := description, api := api, vendor := vendor,
      activeWakeword := activeWakeword, isActive := isActive, wakewords := some wakewords }

theorem decodeWakewords_converts (wakewordsJson : Json) :
    Converts (decodeWakewords wakewordsJson) := by
  unfold decodeWakewords
  split
  · rename_i fault hstrings
    rw [Json.getStrings_converts _ fault hstrings]
    exact converts_typeError
  · exact converts_ok _

theorem decodeAgent_converts (agentJson : Json) : Converts (decodeAgent agentJson) := by
  unfold decodeAgent
  refine (Json.getString_converts _).bind fun id => ?_
  refine (Json.getString_converts _).bind fun name => ?_
  refine (Json.getString_converts _).bind fun api => ?_
  refine (Json.getString_converts _).bind fun description => ?_
  refine (Json.getString_converts _).bind fun vendor => ?_
  refine (Json.getString_converts _).bind fun activeWakeword => ?_
  refine (Json.getBool_converts _).bind fun isActive => ?_
  refine (decodeWakewords_converts _).bind fun wakewords => ?_
  exact converts_ok _

/-- The entry has all required keys with values of the right kinds, and this is what
they say. -/
structure Carries (agentJson : Json) (args : VoiceAgent.Args) : Prop where
  id : agentJson.find? VA_JSON_ATTR_ID = some (.str args.id)
  name : agentJson.find? VA_JSON_ATTR_NAME = some (.str args.name)
  api : agentJson.find? VA_JSON_ATTR_API = some (.str args.api)
  description : agentJson.find? VA_JSON_ATTR_DESCRIPTION = some (.str args.description)
  vendor : agentJson.find? VA_JSON_ATTR_VENDOR = some (.str args.vendor)
  activeWakeword :
    agentJson.find? VA_JSON_ATTR_ACTIVE_WW = some (.str args.activeWakeword)
  isActive : agentJson.find? VA_JSON_ATTR_ACTIVE = some (.bool args.isActive)
  wakewords : ∃ wakewords : List String,
    agentJson.find? VA_JSON_ATTR_WWS = some (.arr (wakewords.map .str)) ∧
      args.wakewords = some ((∅ : UnorderedSet String).insertAll wakewords)

theorem Carries.decodeAgent {agentJson : Json} {args : VoiceAgent.Args}
    (h : Carries agentJson args) : decodeAgent agentJson = .ok args := by
  obtain ⟨wakewords, hfind, hargs⟩ := h.wakewords
  have hwakewords : decodeWakewords (param agentJson VA_JSON_ATTR_WWS) =
      .ok ((∅ : UnorderedSet String).insertAll wakewords) := by
    simp only [param, hfind, Option.getD_some, decodeWakewords, Json.iterate,
      Json.getStrings_map_str]
  simp only [Api.decodeAgent, hwakewords]
  simp only [param, h.id, h.name, h.api, h.description, h.vendor, h.activeWakeword,
    h.isActive, Option.getD_some, Json.getString, Json.getBool]
  have hsame : { args with wakewords := some ((∅ : UnorderedSet String).insertAll wakewords) } =
      args := by rw [← hargs]
  exact congrArg Except.ok hsame

theorem Carries.missesParam {agentJson : Json} {args : VoiceAgent.Args}
    (h : Carries agentJson args) : missesParam agentJson = false := by
  obtain ⟨wakewords, hfind, -⟩ := h.wakewords
  simp [Api.missesParam, requiredParams, h.id, h.name, h.api, h.description, h.vendor,
    h.activeWakeword, h.isActive, hfind]

/-- The values of the required keys can be converted. -/
structure RightKinds (agentJson : Json) : Prop where
  id : ∃ s, agentJson.find? VA_JSON_ATTR_ID = some (.str s)
  name : ∃ s, agentJson.find? VA_JSON_ATTR_NAME = some (.str s)
  api : ∃ s, agentJson.find? VA_JSON_ATTR_API = some (.str s)
  description : ∃ s, agentJson.find? VA_JSON_ATTR_DESCRIPTION = some (.str s)
  vendor : ∃ s, agentJson.find? VA_JSON_ATTR_VENDOR = some (.str s)
  activeWakeword : ∃ s, agentJson.find? VA_JSON_ATTR_ACTIVE_WW = some (.str s)
  isActive : ∃ b, agentJson.find? VA_JSON_ATTR_ACTIVE = some (.bool b)
  wakewords : ∃ wakewordsJson, agentJson.find? VA_JSON_ATTR_WWS = some wakewordsJson ∧
    ∃ wakewords : List String, wakewordsJson.iterate = wakewords.map .str

theorem find?_of_complete {agentJson : Json} (h : missesParam agentJson = false) {key : String}
    (hkey : key ∈ requiredParams) : agentJson.find? key = some (param agentJson key) := by
  unfold missesParam at h
  rw [List.any_eq_false] at h
  cases hfind : agentJson.find? key with
  | none => exact absurd (by rw [hfind]; rfl) (h key hkey)
  | some value => rw [param, hfind, Option.getD_some]

theorem decodeWakewords_isOk_iff {wakewordsJson : Json} :
    (∃ wakewords, decodeWakewords wakewordsJson = .ok wakewords) ↔
      ∃ wakewords : List String, wakewordsJson.iterate = wakewords.map .str := by
  unfold decodeWakewords
  cases hstrings : Json.getStrings wakewordsJson.iterate with
  | error fault =>
      refine iff_of_false (by simp) ?_
      rintro ⟨wakewords, heq⟩
      rw [heq, Json.getStrings_map_str] at hstrings
      exact absurd hstrings (by simp)
  | ok wakewords => exact iff_of_true ⟨_, rfl⟩ ⟨wakewords, Json.getStrings_eq_ok_iff.mp hstrings⟩

/-- What can be converted, in the order in which it is. -/
theorem decodeAgent_reads_iff {agentJson : Json} :
    (∃ args, decodeAgent agentJson = .ok args) ↔
      (∃ s, param agentJson VA_JSON_ATTR_ID = .str s) ∧
      (∃ s, param agentJson VA_JSON_ATTR_NAME = .str s) ∧
      (∃ s, param agentJson VA_JSON_ATTR_API = .str s) ∧
      (∃ s, param agentJson VA_JSON_ATTR_DESCRIPTION = .str s) ∧
      (∃ s, param agentJson VA_JSON_ATTR_VENDOR = .str s) ∧
      (∃ s, param agentJson VA_JSON_ATTR_ACTIVE_WW = .str s) ∧
      (∃ b, param agentJson VA_JSON_ATTR_ACTIVE = .bool b) ∧
      ∃ wakewords : List String,
        (param agentJson VA_JSON_ATTR_WWS).iterate = wakewords.map .str := by
  simp only [decodeAgent, bind_eq_ok_iff, Json.getString_eq_ok_iff, Json.getBool_eq_ok_iff,
    ← decodeWakewords_isOk_iff]
  constructor
  · rintro ⟨args, id, hid, name, hname, api, hapi, description, hdescription, vendor, hvendor,
      active, hactive, isActive, hisActive, wakewords, hwakewords, -⟩
    exact ⟨⟨id, hid⟩, ⟨name, hname⟩, ⟨api, hapi⟩, ⟨description, hdescription⟩,
      ⟨vendor, hvendor⟩, ⟨active, hactive⟩, ⟨isActive, hisActive⟩, wakewords, hwakewords⟩
  · rintro ⟨⟨id, hid⟩, ⟨name, hname⟩, ⟨api, hapi⟩, ⟨description, hdescription⟩,
      ⟨vendor, hvendor⟩, ⟨active, hactive⟩, ⟨isActive, hisActive⟩, wakewords, hwakewords⟩
    exact ⟨_, id, hid, name, hname, api, hapi, description, hdescription, vendor, hvendor,
      active, hactive, isActive, hisActive, wakewords, hwakewords, rfl⟩

/-- A complete entry can be read exactly if its values are of the right kinds. -/
theorem decodeAgent_isOk_iff {agentJson : Json} (h : missesParam agentJson = false) :
    (∃ args, decodeAgent agentJson = .ok args) ↔ RightKinds agentJson := by
  have hfind : ∀ key ∈ requiredParams, agentJson.find? key = some (param agentJson key) :=
    fun key => find?_of_complete h
  simp only [requiredParams, List.forall_mem_cons] at hfind
  obtain ⟨hid, hactive, hname, hapi, hwakewords, hactiveWakeword, hdescription, hvendor, -⟩ :=
    hfind
  rw [decodeAgent_reads_iff]
  constructor
  · rintro ⟨⟨id, hid'⟩, ⟨name, hname'⟩, ⟨api, hapi'⟩, ⟨description, hdescription'⟩,
      ⟨vendor, hvendor'⟩, ⟨active, hactive'⟩, ⟨isActive, hisActive'⟩, hstrings⟩
    exact ⟨⟨id, hid' ▸ hid⟩, ⟨name, hname' ▸ hname⟩, ⟨api, hapi' ▸ hapi⟩,
      ⟨description, hdescription' ▸ hdescription⟩, ⟨vendor, hvendor' ▸ hvendor⟩,
      ⟨active, hactive' ▸ hactiveWakeword⟩, ⟨isActive, hisActive' ▸ hactive⟩,
      _, hwakewords, hstrings⟩
  · intro hkinds
    obtain ⟨wakewordsJson, hwakewords', hstrings⟩ := hkinds.wakewords
    obtain rfl := Option.some.inj (hwakewords.symm.trans hwakewords')
    refine ⟨hkinds.id.imp fun s hs => ?_, hkinds.name.imp fun s hs => ?_,
      hkinds.api.imp fun s hs => ?_, hkinds.description.imp fun s hs => ?_,
      hkinds.vendor.imp fun s hs => ?_, hkinds.activeWakeword.imp fun s hs => ?_,
      hkinds.isActive.imp fun s hs => ?_, hstrings⟩
    · exact Option.some.inj (hid.symm.trans hs)
    · exact Option.some.inj (hname.symm.trans hs)
    · exact Option.some.inj (hapi.symm.trans hs)
    · exact Option.some.inj (hdescription.symm.trans hs)
    · exact Option.some.inj (hvendor.symm.trans hs)
    · exact Option.some.inj (hactiveWakeword.symm.trans hs)
    · exact Option.some.inj (hactive.symm.trans hs)

/-! ## Encoding -/

/-- The wakewords of an agent; an empty set leaves the JSON value null. -/
def encodeWakewords (wakewords : UnorderedSet String) : Json :=
  if wakewords.isEmpty then .null else .arr (wakewords.toList.map .str)

/-- One entry of the reply; the JSON library sorts the keys. -/
def encodeAgent (agent : VoiceAgent) : Json :=
  .obj
    [(VA_JSON_ATTR_ACTIVE, .bool agent.mIsActive),
      (VA_JSON_ATTR_ACTIVE_WW, .str agent.mActiveWakeword),
      (VA_JSON_ATTR_API, .str agent.mApi),
      (VA_JSON_ATTR_DESCRIPTION, .str agent.mDescription),
      (VA_JSON_ATTR_ID, .str agent.mId),
      (VA_JSON_ATTR_NAME, .str agent.mName),
      (VA_JSON_ATTR_VENDOR, .str agent.mVendor),
      (VA_JSON_ATTR_WWS, encodeWakewords agent.mWakewords)]

/-- The reply of `enumerateVoiceAgents`. -/
def encodeAgents (agents : List VoiceAgent) (defaultAgentId : String) : Json :=
  .obj [(VA_JSON_ATTR_AGENTS, .arr (agents.map encodeAgent)),
    (VA_JSON_ATTR_DEFAULT, .str defaultAgentId)]

theorem encodeAgents_agents (agents : List VoiceAgent) (defaultAgentId : String) :
    (encodeAgents agents defaultAgentId).find? VA_JSON_ATTR_AGENTS =
      some (.arr (agents.map encodeAgent)) := rfl

theorem encodeAgents_default (agents : List VoiceAgent) (defaultAgentId : String) :
    (encodeAgents agents defaultAgentId).find? VA_JSON_ATTR_DEFAULT =
      some (.str defaultAgentId) := rfl

theorem encodeWakewords_of_wf {agent : VoiceAgent} (h : agent.Wf) :
    encodeWakewords agent.mWakewords = .arr (agent.mWakewords.toList.map .str) := by
  have hnonempty : agent.mWakewords.isEmpty = false := by
    have hmem : agent.mActiveWakeword ∈ agent.mWakewords.toList := h
    cases hlist : agent.mWakewords.toList with
    | nil =>
        rw [hlist] at hmem
        exact absurd hmem (by simp)
    | cons first rest => simp [UnorderedSet.isEmpty, hlist]
  simp only [encodeWakewords, hnonempty, Bool.false_eq_true, if_false]

/-- What is encoded of a well-formed agent can be decoded again. -/
theorem encodeAgent_carries {agent : VoiceAgent} (h : agent.Wf) :
    Carries (encodeAgent agent)
      { id := agent.mId, name := agent.mName, description := agent.mDescription,
        api := agent.mApi, vendor := agent.mVendor,
        activeWakeword := agent.mActiveWakeword, isActive := agent.mIsActive,
        wakewords := some ((∅ : UnorderedSet String).insertAll agent.mWakewords.toList) } := by
  refine ⟨rfl, rfl, rfl, rfl, rfl, rfl, rfl, agent.mWakewords.toList, ?_, rfl⟩
  rw [← encodeWakewords_of_wf h]
  rfl

end Vshl.Api
