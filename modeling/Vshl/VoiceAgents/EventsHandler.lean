/-
  VoiceAgents/EventsHandler.lean --- `VoiceAgentEventsHandler`: the events a voice
  agent publishes through, one per name in `VSHL_EVENTS`.

  An event is stored under its name, a `#` and the id of the agent.  No name in
  `VSHL_EVENTS` contains a `#`, so the two parts can be read back from the key
  even when the id contains one (`eventNameWithVAId_inj`).
-/
import Vshl.Foundation.Unordered
import Vshl.Interfaces.Afb
import Vshl.VoiceAgents.VoiceAgent

set_option autoImplicit false

namespace Vshl.VoiceAgents

open Vshl.Foundation
open Vshl.Interfaces

/-! ## Event names -/

def VSHL_EVENT_AUTH_STATE_EVENT : String := "voice_authstate_event"
def VSHL_EVENT_CONNECTION_STATE_EVENT : String := "voice_connectionstate_event"
def VSHL_EVENT_DIALOG_STATE_EVENT : String := "voice_dialogstate_event"

def VSHL_EVENTS : List String :=
  [VSHL_EVENT_AUTH_STATE_EVENT, VSHL_EVENT_CONNECTION_STATE_EVENT,
    VSHL_EVENT_DIALOG_STATE_EVENT]

/-- `VoiceAgentEventsHandler::createEventNameWithVAId`. -/
def createEventNameWithVAId (eventName voiceAgentId : String) : String :=
  eventName ++ "#" ++ voiceAgentId

theorem noHash_of_mem_VSHL_EVENTS {eventName : String} (h : eventName ∈ VSHL_EVENTS) :
    '#' ∉ eventName.toList := by
  have hall : ∀ name ∈ VSHL_EVENTS, '#' ∉ name.toList := by decide
  exact hall eventName h

/-- Two lists cut at their first separator are equal only if both parts are. -/
theorem eq_of_append_separator {α : Type} {separator : α} :
    ∀ {front front' back back' : List α}, separator ∉ front → separator ∉ front' →
      front ++ separator :: back = front' ++ separator :: back' →
      front = front' ∧ back = back'
  | [], [], _, _, _, _, h => ⟨rfl, (List.cons.inj h).2⟩
  | [], _ :: _, _, _, _, hmem, h =>
      absurd (List.mem_cons.mpr (Or.inl (List.cons.inj h).1)) hmem
  | _ :: _, [], _, _, hmem, _, h =>
      absurd (List.mem_cons.mpr (Or.inl (List.cons.inj h).1.symm)) hmem
  | _ :: _, _ :: _, _, _, hmem, hmem', h => by
      obtain ⟨hhead, htail⟩ := List.cons.inj h
      rw [List.mem_cons, not_or] at hmem hmem'
      obtain ⟨hfront, hback⟩ := eq_of_append_separator hmem.2 hmem'.2 htail
      exact ⟨by rw [hhead, hfront], hback⟩

/-- A name without a `#` and an id are determined by their concatenation. -/
theorem eventNameWithVAId_inj {name name' voiceAgentId voiceAgentId' : String}
    (hname : '#' ∉ name.toList) (hname' : '#' ∉ name'.toList)
    (h : createEventNameWithVAId name voiceAgentId =
      createEventNameWithVAId name' voiceAgentId') :
    name = name' ∧ voiceAgentId = voiceAgentId' := by
  have hlist : name.toList ++ '#' :: voiceAgentId.toList =
      name'.toList ++ '#' :: voiceAgentId'.toList := by
    simpa [createEventNameWithVAId] using congrArg String.toList h
  obtain ⟨hfst, hsnd⟩ := eq_of_append_separator hname hname' hlist
  exact ⟨String.toList_injective hfst, String.toList_injective hsnd⟩

/-- The names of the events of one agent. -/
def IsEventOf (voiceAgentId key : String) : Prop :=
  ∃ eventName ∈ VSHL_EVENTS, key = createEventNameWithVAId eventName voiceAgentId

theorem IsEventOf.id_unique {key id id' : String} (h : IsEventOf id key)
    (h' : IsEventOf id' key) : id = id' := by
  obtain ⟨name, hname, rfl⟩ := h
  obtain ⟨name', hname', heq⟩ := h'
  exact (eventNameWithVAId_inj (noHash_of_mem_VSHL_EVENTS hname)
    (noHash_of_mem_VSHL_EVENTS hname') heq).2

theorem isEventOf_name_iff {eventName id id' : String} (h : eventName ∈ VSHL_EVENTS) :
    IsEventOf id (createEventNameWithVAId eventName id') ↔ id = id' := by
  constructor
  · intro hof
    exact hof.id_unique ⟨eventName, h, rfl⟩
  · rintro rfl
    exact ⟨eventName, h, rfl⟩

/-! ## The handler -/

/-- The state of a `VoiceAgentEventsHandler`.  `createEvent` may yield null, and
null is stored like any event. -/
structure VoiceAgentEventsHandler where
  mEventsMap : UnorderedMap String (Option EventPtr)

namespace VoiceAgentEventsHandler

/-- A new handler. -/
def create : VoiceAgentEventsHandler := ⟨∅⟩

/-- One round of the loop of `createVshlEventsForVoiceAgent`. -/
def createVshlEvent (env : Environment) (voiceAgentId : String)
    (state : VoiceAgentEventsHandler × Trace) (eventName : String) :
    VoiceAgentEventsHandler × Trace :=
  let eventNameWithVAId := createEventNameWithVAId eventName voiceAgentId
  if eventNameWithVAId ∉ state.1.mEventsMap ∧ env.afbApi then
    let event := env.doCreateEvent state.2 eventNameWithVAId
    (⟨state.1.mEventsMap.emplace eventNameWithVAId event.1⟩, event.2)
  else state

/-- `VoiceAgentEventsHandler::createVshlEventsForVoiceAgent`. -/
def createVshlEventsForVoiceAgent (env : Environment) (handler : VoiceAgentEventsHandler)
    (calls : Trace) (voiceAgentId : String) : VoiceAgentEventsHandler × Trace :=
  VSHL_EVENTS.foldl (createVshlEvent env voiceAgentId) (handler, calls)

/-- One round of the loop of `removeVshlEventsForVoiceAgent`. -/
def removeVshlEvent (voiceAgentId : String) (handler : VoiceAgentEventsHandler)
    (eventName : String) : VoiceAgentEventsHandler :=
  let eventNameWithVAId := createEventNameWithVAId eventName voiceAgentId
  if eventNameWithVAId ∈ handler.mEventsMap then
    ⟨handler.mEventsMap.remove eventNameWithVAId⟩
  else handler

/-- `VoiceAgentEventsHandler::removeVshlEventsForVoiceAgent`. -/
def removeVshlEventsForVoiceAgent (handler : VoiceAgentEventsHandler)
    (voiceAgentId : String) : VoiceAgentEventsHandler :=
  VSHL_EVENTS.foldl (removeVshlEvent voiceAgentId) handler

/-- `VoiceAgentEventsHandler::callSubscribeVerb`. -/
def callSubscribeVerb (env : Environment) (calls : Trace) (voiceAgent : VoiceAgent) :
    Bool × Trace :=
  if env.afbApi then
    let called := env.doCallSync calls voiceAgent.mApi "subscribe" none
    (true, free called.2 (resultObject calls called.1))
  else (false, calls)

/-- `VoiceAgentEventsHandler::subscribeToVshlEventFromVoiceAgent`.  Neither the
result of the event's `subscribe` nor that of `callSubscribeVerb` reaches the
caller. -/
def subscribeToVshlEventFromVoiceAgent (env : Environment)
    (handler : VoiceAgentEventsHandler) (calls : Trace) (request : RequestPtr)
    (eventName : String) (voiceAgent : VoiceAgent) : Except Fault Bool × Trace :=
  if eventName ∉ VSHL_EVENTS then (.ok false, calls)
  else
    match handler.mEventsMap.find (createEventNameWithVAId eventName voiceAgent.mId) with
    | none => (.ok false, calls)
    | some none => (.error .nullDereference, calls)
    | some (some event) =>
        let subscribed := env.doSubscribe calls event request
        let called := callSubscribeVerb env subscribed.2 voiceAgent
        (.ok true, called.2)

/-- `VoiceAgentEventsHandler::onIncomingEvent`.  The number of observers an event
reached is returned as a `bool`. -/
def onIncomingEvent (env : Environment) (handler : VoiceAgentEventsHandler)
    (calls : Trace) (eventName voiceAgentId payload : String) :
    Except Fault Bool × Trace :=
  match handler.mEventsMap.find (createEventNameWithVAId eventName voiceAgentId) with
  | none => (.ok true, calls)
  | some none => (.error .nullDereference, calls)
  | some (some event) =>
      let published := env.doPublishEvent calls event (jsonObjectNewString payload)
      (.ok (published.1 != 0), published.2)

/-! ## What the operations do to the map -/

/-- Every event in the map is the one a `createEvent` of its key made.  So the
event determines the key. -/
def Backed (handler : VoiceAgentEventsHandler) (calls : Trace) : Prop :=
  ∀ key event, handler.mEventsMap.find key = some (some event) →
    calls[event]? = some (.createEvent key true)

theorem Backed.key_unique {handler : VoiceAgentEventsHandler} {calls : Trace}
    (h : handler.Backed calls) {key key' : String} {event : EventPtr}
    (hkey : handler.mEventsMap.find key = some (some event))
    (hkey' : handler.mEventsMap.find key' = some (some event)) : key = key' := by
  have hsame := (h key event hkey).symm.trans (h key' event hkey')
  simpa using hsame

theorem Backed.append {handler : VoiceAgentEventsHandler} {calls : Trace}
    (h : handler.Backed calls) (added : Trace) : handler.Backed (calls ++ added) := by
  intro key event hfind
  have hget := h key event hfind
  obtain ⟨hlt, -⟩ := List.getElem?_eq_some_iff.mp hget
  rw [List.getElem?_append_left hlt]
  exact hget

/-- The keys of the map are the event names of a set of agents and no others. -/
def Owns (handler : VoiceAgentEventsHandler) (registered : String → Prop) : Prop :=
  ∀ key, key ∈ handler.mEventsMap ↔ ∃ id, registered id ∧ IsEventOf id key

theorem create_owns : create.Owns fun _ => False := by
  intro key
  simp [create]

/-- What creating the events of one agent does: keys that were there keep their
event, the missing names of the agent are added, and the calls grows by
`createEvent` added only. -/
structure Created (voiceAgentId : String) (before after : VoiceAgentEventsHandler × Trace) :
    Prop where
  keeps : ∀ key value, before.1.mEventsMap.find key = some value →
    after.1.mEventsMap.find key = some value
  keys : ∀ key, key ∈ after.1.mEventsMap →
    key ∈ before.1.mEventsMap ∨ IsEventOf voiceAgentId key
  backed : before.1.Backed before.2 → after.1.Backed after.2
  trace : ∃ added : Trace, after.2 = before.2 ++ added ∧
    ∀ call ∈ added, ∃ name nonNull, call = .createEvent name nonNull

theorem Created.refl (voiceAgentId : String) (state : VoiceAgentEventsHandler × Trace) :
    Created voiceAgentId state state :=
  ⟨fun _ _ h => h, fun _ h => Or.inl h, fun h => h, [], by simp, by simp⟩

theorem Created.trans {voiceAgentId : String}
    {first second third : VoiceAgentEventsHandler × Trace}
    (h₁ : Created voiceAgentId first second) (h₂ : Created voiceAgentId second third) :
    Created voiceAgentId first third := by
  obtain ⟨added₁, htrace₁, hadded₁⟩ := h₁.trace
  obtain ⟨added₂, htrace₂, hadded₂⟩ := h₂.trace
  refine ⟨fun key value h => h₂.keeps key value (h₁.keeps key value h), ?_,
    fun h => h₂.backed (h₁.backed h), added₁ ++ added₂, ?_, ?_⟩
  · intro key hkey
    rcases h₂.keys key hkey with hsecond | hof
    · exact h₁.keys key hsecond
    · exact Or.inr hof
  · rw [htrace₂, htrace₁, List.append_assoc]
  · intro call hcall
    rcases List.mem_append.mp hcall with h | h
    · exact hadded₁ call h
    · exact hadded₂ call h

theorem createVshlEvent_created (env : Environment) {voiceAgentId eventName : String}
    (hname : eventName ∈ VSHL_EVENTS) (state : VoiceAgentEventsHandler × Trace) :
    Created voiceAgentId state (createVshlEvent env voiceAgentId state eventName) := by
  unfold createVshlEvent
  simp only
  split
  · rename_i hguard
    have hnone := UnorderedMap.find_eq_none.mpr hguard.1
    refine ⟨?_, ?_, ?_, ?_⟩
    · intro key value hfind
      simp only [UnorderedMap.find_emplace_of_none _ hnone]
      rw [if_neg]
      · exact hfind
      · rintro rfl
        rw [hnone] at hfind
        exact absurd hfind (by simp)
    · intro key hkey
      obtain ⟨value, hfind⟩ := UnorderedMap.mem_iff_find.mp hkey
      simp only [UnorderedMap.find_emplace_of_none _ hnone] at hfind
      split at hfind
      · rename_i heq
        exact Or.inr ⟨eventName, hname, heq⟩
      · exact Or.inl (UnorderedMap.mem_iff_find.mpr ⟨value, hfind⟩)
    · intro hbacked key event hfind
      simp only [UnorderedMap.find_emplace_of_none _ hnone] at hfind
      split at hfind
      · -- the new event is named by the position of the call just made
        rename_i heq
        subst heq
        simp only [Environment.doCreateEvent, Option.some.injEq] at hfind ⊢
        split at hfind
        · rename_i hnonNull
          obtain rfl := Option.some.inj hfind
          simp [hnonNull]
        · exact absurd hfind (by simp)
      · exact hbacked.append _ key event hfind
    · refine ⟨_, rfl, ?_⟩
      intro call hcall
      exact ⟨_, _, List.mem_singleton.mp hcall⟩
  · exact Created.refl voiceAgentId state

theorem foldl_createVshlEvent_created (env : Environment) (voiceAgentId : String) :
    ∀ (names : List String) (state : VoiceAgentEventsHandler × Trace),
      (∀ name ∈ names, name ∈ VSHL_EVENTS) →
      Created voiceAgentId state (names.foldl (createVshlEvent env voiceAgentId) state)
  | [], state, _ => Created.refl voiceAgentId state
  | name :: rest, state, hnames => by
      have hfirst : Created voiceAgentId state
          (createVshlEvent env voiceAgentId state name) :=
        createVshlEvent_created env (hnames name List.mem_cons_self) state
      exact hfirst.trans (foldl_createVshlEvent_created env voiceAgentId rest _
        fun other hother => hnames other (List.mem_cons_of_mem name hother))

theorem createVshlEventsForVoiceAgent_created (env : Environment)
    (handler : VoiceAgentEventsHandler) (calls : Trace) (voiceAgentId : String) :
    Created voiceAgentId (handler, calls)
      (handler.createVshlEventsForVoiceAgent env calls voiceAgentId) :=
  foldl_createVshlEvent_created env voiceAgentId VSHL_EVENTS (handler, calls) fun _ h => h

theorem createVshlEvent_mem {env : Environment} (henv : env.afbApi = true)
    (voiceAgentId eventName : String) (state : VoiceAgentEventsHandler × Trace) :
    createEventNameWithVAId eventName voiceAgentId ∈
      (createVshlEvent env voiceAgentId state eventName).1.mEventsMap := by
  unfold createVshlEvent
  by_cases hmem : createEventNameWithVAId eventName voiceAgentId ∈ state.1.mEventsMap
  · simp [hmem]
  · simp only [hmem, not_false_eq_true, henv, and_self, if_true]
    rw [UnorderedMap.mem_iff_find]
    refine ⟨(env.doCreateEvent state.2
      (createEventNameWithVAId eventName voiceAgentId)).1, ?_⟩
    rw [UnorderedMap.find_emplace_of_none _ (UnorderedMap.find_eq_none.mpr hmem),
      if_pos rfl]

/-- With an API, every event of the agent is in the map afterwards. -/
theorem foldl_createVshlEvent_mem {env : Environment} (henv : env.afbApi = true)
    {voiceAgentId : String} :
    ∀ (names : List String) (state : VoiceAgentEventsHandler × Trace),
      (∀ name ∈ names, name ∈ VSHL_EVENTS) →
      ∀ name ∈ names, createEventNameWithVAId name voiceAgentId ∈
        (names.foldl (createVshlEvent env voiceAgentId) state).1.mEventsMap
  | [], _, _, _, hname => absurd hname (by simp)
  | first :: rest, state, hnames, name, hname => by
      have hrest : ∀ other ∈ rest, other ∈ VSHL_EVENTS :=
        fun other hother => hnames other (List.mem_cons_of_mem first hother)
      rcases List.mem_cons.mp hname with heq | htail
      · subst heq
        obtain ⟨value, hfind⟩ := UnorderedMap.mem_iff_find.mp
          (createVshlEvent_mem henv voiceAgentId name state)
        have hkeeps := (foldl_createVshlEvent_created env voiceAgentId rest
          (createVshlEvent env voiceAgentId state name) hrest).keeps _ value hfind
        exact UnorderedMap.mem_iff_find.mpr ⟨value, hkeeps⟩
      · exact foldl_createVshlEvent_mem henv rest _ hrest name htail

theorem Owns.createVshlEvents {env : Environment} (henv : env.afbApi = true)
    {handler : VoiceAgentEventsHandler} {registered : String → Prop}
    (h : handler.Owns registered) (calls : Trace) (voiceAgentId : String) :
    (handler.createVshlEventsForVoiceAgent env calls voiceAgentId).1.Owns
      fun id => registered id ∨ id = voiceAgentId := by
  have hcreated := createVshlEventsForVoiceAgent_created env handler calls voiceAgentId
  intro key
  constructor
  · intro hkey
    rcases hcreated.keys key hkey with hbefore | hof
    · obtain ⟨id, hid, hof⟩ := (h key).mp hbefore
      exact ⟨id, Or.inl hid, hof⟩
    · exact ⟨voiceAgentId, Or.inr rfl, hof⟩
  · intro hex
    obtain ⟨id, hid | heq, hof⟩ := hex
    · obtain ⟨value, hfind⟩ := UnorderedMap.mem_iff_find.mp ((h key).mpr ⟨id, hid, hof⟩)
      exact UnorderedMap.mem_iff_find.mpr ⟨value, hcreated.keeps key value hfind⟩
    · subst heq
      obtain ⟨name, hname, rfl⟩ := hof
      exact foldl_createVshlEvent_mem henv VSHL_EVENTS (handler, calls)
        (fun _ hmem => hmem) name hname

/-! ### Removal -/

theorem find_removeVshlEvent (handler : VoiceAgentEventsHandler)
    (voiceAgentId eventName key : String) :
    (removeVshlEvent voiceAgentId handler eventName).mEventsMap.find key =
      if key = createEventNameWithVAId eventName voiceAgentId then none
      else handler.mEventsMap.find key := by
  unfold removeVshlEvent
  by_cases hmem : createEventNameWithVAId eventName voiceAgentId ∈ handler.mEventsMap
  · simp only [hmem, if_true, UnorderedMap.find_remove]
  · simp only [hmem, if_false]
    split
    · rename_i heq
      rw [heq]
      exact UnorderedMap.find_eq_none.mpr hmem
    · rfl

theorem find_foldl_removeVshlEvent {voiceAgentId : String} :
    ∀ (names : List String) (handler : VoiceAgentEventsHandler) (key : String),
      (names.foldl (removeVshlEvent voiceAgentId) handler).mEventsMap.find key =
        if ∃ name ∈ names, key = createEventNameWithVAId name voiceAgentId then none
        else handler.mEventsMap.find key
  | [], handler, key => by simp
  | name :: rest, handler, key => by
      rw [List.foldl_cons, find_foldl_removeVshlEvent rest, find_removeVshlEvent]
      by_cases hrest : ∃ other ∈ rest, key = createEventNameWithVAId other voiceAgentId
      · rw [if_pos hrest, if_pos]
        obtain ⟨other, hother, heq⟩ := hrest
        exact ⟨other, List.mem_cons_of_mem name hother, heq⟩
      · rw [if_neg hrest]
        by_cases hfirst : key = createEventNameWithVAId name voiceAgentId
        · rw [if_pos hfirst, if_pos ⟨name, List.mem_cons_self, hfirst⟩]
        · rw [if_neg hfirst, if_neg]
          intro hex
          obtain ⟨other, hother, heq⟩ := hex
          rcases List.mem_cons.mp hother with rfl | htail
          · exact hfirst heq
          · exact hrest ⟨other, htail, heq⟩

/-- Removing the events of one agent removes exactly these. -/
theorem find_removeVshlEventsForVoiceAgent (handler : VoiceAgentEventsHandler)
    (voiceAgentId key : String) [Decidable (IsEventOf voiceAgentId key)] :
    (handler.removeVshlEventsForVoiceAgent voiceAgentId).mEventsMap.find key =
      if IsEventOf voiceAgentId key then none else handler.mEventsMap.find key := by
  unfold removeVshlEventsForVoiceAgent
  rw [find_foldl_removeVshlEvent]
  congr

theorem Owns.removeVshlEvents {handler : VoiceAgentEventsHandler}
    {registered : String → Prop} (h : handler.Owns registered) (voiceAgentId : String) :
    (handler.removeVshlEventsForVoiceAgent voiceAgentId).Owns
      fun id => registered id ∧ id ≠ voiceAgentId := by
  classical
  intro key
  rw [UnorderedMap.mem_iff_find, find_removeVshlEventsForVoiceAgent]
  by_cases hof : IsEventOf voiceAgentId key
  · rw [if_pos hof]
    constructor
    · intro hex
      obtain ⟨value, hvalue⟩ := hex
      exact absurd hvalue (by simp)
    · intro hex
      obtain ⟨id, ⟨-, hne⟩, hid⟩ := hex
      exact absurd (hid.id_unique hof) hne
  · rw [if_neg hof, ← UnorderedMap.mem_iff_find, h key]
    constructor
    · intro hex
      obtain ⟨id, hid, hkey⟩ := hex
      refine ⟨id, ⟨hid, ?_⟩, hkey⟩
      intro heq
      exact hof (heq ▸ hkey)
    · intro hex
      obtain ⟨id, ⟨hid, -⟩, hkey⟩ := hex
      exact ⟨id, hid, hkey⟩

theorem Backed.removeVshlEvents {handler : VoiceAgentEventsHandler} {calls : Trace}
    (h : handler.Backed calls) (voiceAgentId : String) :
    (handler.removeVshlEventsForVoiceAgent voiceAgentId).Backed calls := by
  classical
  intro key event hfind
  rw [find_removeVshlEventsForVoiceAgent] at hfind
  split at hfind
  · exact absurd hfind (by simp)
  · exact h key event hfind

end VoiceAgentEventsHandler

end Vshl.VoiceAgents
