/-
# The configuration POST

The handler checks every field it was given, merges the station update to check that too,
and only then saves the groups one after the other. The first setter that fails ends the
request; the groups saved before it stay saved.
-/

import EspNmeaBridge.WebApp.ConfigPayload

namespace EspNmeaBridge

open CString

/-! ## The request body -/

def webAppRxBufSize : ℕ := 1536
def webAppConfigBodyMax : ℕ := 768

/-- A request whose header was read: `body` is what arrived behind it, in the same buffer. -/
structure HttpRequest where
  hasContentLength : Bool
  contentLength : ℕ
  bodyOffset : ℕ
  body : List UInt8
  fits : bodyOffset + body.length ≤ webAppRxBufSize

/-- What `web_recv` returned; nothing was read once the peer has closed. -/
inductive WebRecv where
  | received (bytes : List UInt8)
  | error (errno : Errno)
  deriving DecidableEq, Repr

/-- The loop of `read_remaining_body`. Without a further result the receive timed out. -/
def recvBody : (missing : ℕ) → (body : List UInt8) → List WebRecv → Option (List UInt8)
  | 0, body, _ => some body
  | _ + 1, _, [] => none
  | missing + 1, body, .error errno :: recvs =>
    if errno = .eintr then recvBody (missing + 1) body recvs else none
  | missing + 1, body, .received bytes :: recvs =>
    -- the socket is asked for no more than what is missing
    let chunk := bytes.take (missing + 1)
    if chunk = [] then none
    else recvBody (missing + 1 - chunk.length) (body ++ chunk) recvs

/-- The body, when all of it arrives and a byte is left behind it. -/
def readRemainingBody (request : HttpRequest) (recvs : List WebRecv) : Option (List UInt8) :=
  if webAppRxBufSize - request.bodyOffset ≤ request.contentLength then none
  else recvBody (request.contentLength - request.body.length) request.body recvs

/-! ## Saving -/

/-- The response, the state after the request, and the setters called with what they did. -/
structure ConfigUpdate where
  response : ConfigResponse
  world : ConfigWorld
  calls : List (Group × ConfigAnswer)

/-- An answer without a setter call. -/
def answered (response : ConfigResponse) (world : ConfigWorld) : ConfigUpdate :=
  ⟨response, world, []⟩

/-- The order of the setter calls. -/
def saveOrder : List Group := [.ais, .tcpClient, .sta, .ap, .system]

/-- One setter after the other until one fails; `next` is the argument of each, given the
configuration at its turn, and `saveRet` what `settings_save_one` returns in it. -/
def saveGroups (next : (g : Group) → EffectiveConfig → Option g.Config)
    (saveRet : Group → Option Errno) : List Group → ConfigWorld → Option ConfigUpdate
  | [], world => some (answered (.configJson world.config world.rebootRequired) world)
  | g :: groups, world => do
    let config ← next g world.config
    let (world, answer) := bridgeConfigSet g world (some config) (saveRet g)
    if answer.ret ≠ none then some ⟨.saveFailed g, world, [(g, answer)]⟩
    else do
      let update ← saveGroups next saveRet groups world
      some { update with calls := (g, answer) :: update.calls }

/-- The argument of each setter: two are merged at their turn, three before the first save. -/
def setterArgument (merged : (g : Group) → EffectiveConfig → Option g.Config)
    (sta : BridgeConfigSta) (ap : BridgeConfigAp) (sysCfg : BridgeConfigSystem) :
    (g : Group) → EffectiveConfig → Option g.Config
  | .ais, config => merged .ais config
  | .tcpClient, config => merged .tcpClient config
  | .sta, _ => some sta
  | .ap, _ => some ap
  | .system, _ => some sysCfg

/-- The handler once the payload is decoded. -/
def updateConfig (fields : ℕ) (payload : ConfigPayload) (saveRet : Group → Option Errno)
    (world : ConfigWorld) : Option ConfigUpdate :=
  match firstFieldError fields payload with
  | some response => some (answered response world)
  | none => do
    -- a group that is not submitted is not merged; its local stays unread
    let merged (g : Group) (config : EffectiveConfig) : Option g.Config :=
      if hasFields fields g.fields then merge fields payload g (config g) else some (config g)
    let sta ← merged .sta world.config
    if hasFields fields Group.sta.fields && staNeedsSsid fields payload sta then
      some (answered (.fieldError ConfigField.staSsid.key
        "required when enabling station mode") world)
    else do
      let ap ← merged .ap world.config
      let sysCfg ← merged .system world.config
      saveGroups (setterArgument merged sta ap sysCfg) saveRet
        (saveOrder.filter fun g => hasFields fields g.fields) world

/-- A POST to `/api/config`. There is no result if a copy leaves its destination. -/
def handleConfigUpdate (jsonObjParse : List UInt8 → JsonResult) (request : HttpRequest)
    (recvs : List WebRecv) (saveRet : Group → Option Errno) (world : ConfigWorld) :
    Option ConfigUpdate :=
  if !request.hasContentLength then
    some (answered (.fieldError "body" "Content-Length required") world)
  else if webAppConfigBodyMax < request.contentLength then
    some (answered .payloadTooLarge world)
  else if request.contentLength < request.body.length then
    some (answered (.fieldError "body" "body exceeds Content-Length") world)
  else
    match readRemainingBody request recvs with
    | none => some (answered (.fieldError "body" "body ended early") world)
    | some body =>
      match jsonObjParse body with
      | .failed => some (answered (.fieldError "body" "invalid JSON") world)
      | .decoded present payload =>
        let fields := jsonMask present
        if fields = 0 then
          some (answered (.fieldError "body" "no recognised configuration fields") world)
        else updateConfig fields payload saveRet world

/-! ## What the saves can do -/

section Saves

variable {world : ConfigWorld} {g : Group}

/-- A setter that fails changes nothing; one that returns 0 took its argument over and
left the other groups alone. -/
theorem bridgeConfigSet_effect (world : ConfigWorld) (config : g.Config)
    (saveRet : Option Errno) :
    let result := bridgeConfigSet g world (some config) saveRet
    (result.2.ret ≠ none ∧ result.1 = world ∧ result.2.notified = false) ∨
      (result.2.ret = none ∧
        (configGroup g).value (result.1.config g) = (configGroup g).value config ∧
        (∀ h, h ≠ g → result.1.config h = world.config h) ∧
        ∀ name, name ≠ g.key → result.1.store.lookup name = world.store.lookup name) := by
  intro result
  rcases bridgeConfigSet_cases world (some config) saveRet with
    refused | ⟨v, given, -, done, ⟨same, -, -, -, value⟩ | ⟨config', store, -⟩⟩
  · exact Or.inl refused
  · -- nothing to change
    obtain rfl := Option.some.inj given
    refine Or.inr ⟨done, ?_, ?_, ?_⟩
    · rw [same, value]
    · intro h _
      rw [same]
    · intro name _
      rw [same]
  · obtain rfl := Option.some.inj given
    refine Or.inr ⟨done, ?_, ?_, ?_⟩
    · rw [config', Function.update_self]
    · intro h other
      rw [config', Function.update_of_ne other]
    · intro name other
      rw [store, AList.lookup_insert_ne other]

/-- A setter leaves the groups of the others alone. -/
theorem bridgeConfigSet_others (world : ConfigWorld) {g : Group} (next : Option g.Config)
    (saveRet : Option Errno) (h : Group) (other : h ≠ g) :
    (bridgeConfigSet g world next saveRet).1.config h = world.config h := by
  cases next with
  | none => rfl
  | some config =>
    rcases bridgeConfigSet_effect world config saveRet with ⟨-, same, -⟩ | ⟨-, -, others, -⟩
    · rw [same]
    · exact others h other

/-- The groups `saved` took over what was submitted for them; everything else is as before,
and nobody heard of a group that was not saved. -/
structure SavedOnly (submitted : (g : Group) → Option g.Config) (saved : List Group)
    (world : ConfigWorld) (update : ConfigUpdate) : Prop where
  taken : ∀ g ∈ saved, ∃ config, submitted g = some config ∧
    (configGroup g).value (update.world.config g) = (configGroup g).value config
  kept : ∀ g, g ∉ saved → update.world.config g = world.config g
  stored : ∀ name, (∀ g ∈ saved, name ≠ g.key) →
    update.world.store.lookup name = world.store.lookup name
  returned : ∀ call ∈ update.calls, call.2.ret = none ↔ call.1 ∈ saved
  quiet : ∀ call ∈ update.calls, call.2.notified = true → call.1 ∈ saved

/-- The group is as before, in RAM and in the store. -/
def GroupUnchanged (g : Group) (world world' : ConfigWorld) : Prop :=
  world'.config g = world.config g ∧ world'.store.lookup g.key = world.store.lookup g.key

theorem SavedOnly.unchanged {submitted : (g : Group) → Option g.Config} {saved : List Group}
    {update : ConfigUpdate} (only : SavedOnly submitted saved world update) (unsaved : g ∉ saved) :
    GroupUnchanged g world update.world := by
  refine ⟨only.kept g unsaved, only.stored g.key ?_⟩
  intro h member same
  exact unsaved (Group.key_injective same ▸ member)

/-- A setter in front of the others adds its group to the saved ones. -/
theorem SavedOnly.cons {submitted : (g : Group) → Option g.Config} {saved : List Group}
    {world' : ConfigWorld} {answer : ConfigAnswer} {update : ConfigUpdate} {config : g.Config}
    (rest : SavedOnly submitted saved world' update) (given : submitted g = some config)
    (new : g ∉ saved) (fresh : ∀ call ∈ update.calls, call.1 ≠ g) (done : answer.ret = none)
    (value : (configGroup g).value (world'.config g) = (configGroup g).value config)
    (others : ∀ h, h ≠ g → world'.config h = world.config h)
    (store : ∀ name, name ≠ g.key → world'.store.lookup name = world.store.lookup name) :
    SavedOnly submitted (g :: saved) world
      { update with calls := (g, answer) :: update.calls } where
  taken := by
    rw [List.forall_mem_cons]
    refine ⟨⟨config, given, ?_⟩, rest.taken⟩
    -- the later setters left the group alone
    rw [rest.kept g new, value]
  kept h unsaved := by
    rw [List.mem_cons, not_or] at unsaved
    exact (rest.kept h unsaved.2).trans (others h unsaved.1)
  stored name other := by
    rw [List.forall_mem_cons] at other
    exact (rest.stored name other.2).trans (store name other.1)
  returned := by
    rw [List.forall_mem_cons]
    refine ⟨by simp [done], ?_⟩
    intro call member
    rw [rest.returned call member, List.mem_cons, or_iff_right (fresh call member)]
  quiet := by
    rw [List.forall_mem_cons]
    refine ⟨fun _ => List.mem_cons_self, ?_⟩
    intro call member notified
    exact List.mem_cons_of_mem g (rest.quiet call member notified)

/-- How a sequence of saves ends: all groups were saved and the configuration is returned,
or the first that failed ended it. -/
def SavesEnd (groups saved : List Group) (update : ConfigUpdate) : Prop :=
  (groups = saved ∧ update.calls.map Prod.fst = saved ∧
      update.response = .configJson update.world.config update.world.rebootRequired) ∨
    ∃ failed rest, groups = saved ++ failed :: rest ∧
      update.calls.map Prod.fst = saved ++ [failed] ∧ update.response = .saveFailed failed

/-- The saves in order, each of a group of its own. -/
theorem saveGroups_spec {next : (g : Group) → EffectiveConfig → Option g.Config}
    {submitted : (g : Group) → Option g.Config} (saveRet : Group → Option Errno)
    {groups : List Group} (distinct : groups.Nodup)
    (looksAtOwn : ∀ g ∈ groups, ∀ config : EffectiveConfig,
      config g = world.config g → next g config = submitted g)
    (defined : ∀ g ∈ groups, (submitted g).isSome) :
    ∃ update saved, saveGroups next saveRet groups world = some update ∧
      SavedOnly submitted saved world update ∧ SavesEnd groups saved update := by
  induction groups generalizing world with
  | nil =>
    refine ⟨_, [], rfl, ?_, Or.inl ⟨rfl, rfl, rfl⟩⟩
    constructor <;> simp [answered]
  | cons g groups ih =>
    rw [List.nodup_cons] at distinct
    rw [List.forall_mem_cons] at looksAtOwn defined
    obtain ⟨config, given⟩ := Option.isSome_iff_exists.mp defined.1
    simp only [saveGroups, looksAtOwn.1 world.config rfl, given, Option.bind_eq_bind,
      Option.bind_some]
    rcases bridgeConfigSet_effect world config (saveRet g) with
      ⟨failed, same, silent⟩ | ⟨done, value, others, store⟩
    · rw [if_pos failed]
      refine ⟨_, [], rfl, ?_, Or.inr ⟨g, groups, rfl, rfl, rfl⟩⟩
      constructor <;> simp [same, failed, silent]
    · rw [if_neg (not_not.mpr done)]
      -- the remaining groups are still as they were before this setter
      obtain ⟨update, saved, run, only, ends⟩ := ih distinct.2
        (fun h member config same => looksAtOwn.2 h member config
          (same.trans (others h (ne_of_mem_of_not_mem member distinct.1)))) defined.2
      have inside : saved ⊆ groups ∧ update.calls.map Prod.fst ⊆ groups := by
        rcases ends with ⟨rfl, calls, -⟩ | ⟨failed, rest, rfl, calls, -⟩
        · simp [calls]
        · simp [calls]
      refine ⟨_, g :: saved, by rw [run]; rfl, ?_, ?_⟩
      · refine only.cons given (fun member => distinct.1 (inside.1 member)) ?_ done value others
          store
        rintro call member rfl
        exact distinct.1 (inside.2 (List.mem_map_of_mem member))
      · rcases ends with ⟨rfl, calls, response⟩ | ⟨failed, rest, rfl, calls, response⟩
        · exact Or.inl ⟨rfl, by simp [calls], response⟩
        · exact Or.inr ⟨failed, rest, rfl, by simp [calls], response⟩

end Saves

/-! ## What the handler can do -/

/-- What becomes of a decoded payload. -/
inductive PayloadOutcome (present : ConfigField → Bool) (payload : ConfigPayload)
    (world : ConfigWorld) (update : ConfigUpdate) : Prop where
  /-- A check named a field. -/
  | refused (f : ConfigField) (message : String)
      (answer : update = answered (.fieldError f.key message) world)
  /-- The checks passed, and the submitted groups were saved in order. -/
  | stored (saved : List Group) (accepted : Accepted (jsonMask present) payload)
      (ssidGiven : ∀ sta, merge (jsonMask present) payload .sta (world.config .sta) = some sta →
        staNeedsSsid (jsonMask present) payload sta = false)
      (only : SavedOnly (fun g => merge (jsonMask present) payload g (world.config g)) saved world
        update)
      (ends : SavesEnd (saveOrder.filter fun g => g.fields.any present) saved update)

/-- What becomes of a request. -/
inductive RequestOutcome (jsonObjParse : List UInt8 → JsonResult) (request : HttpRequest)
    (recvs : List WebRecv) (saveRet : Group → Option Errno) (world : ConfigWorld)
    (update : ConfigUpdate) : Prop where
  | tooLarge (answer : update = answered .payloadTooLarge world)
  | badBody (message : String) (answer : update = answered (.fieldError "body" message) world)
  | decoded (body : List UInt8) (present : ConfigField → Bool) (payload : ConfigPayload)
      (received : readRemainingBody request recvs = some body)
      (parsed : jsonObjParse body = .decoded present payload)
      (run : updateConfig (jsonMask present) payload saveRet world = some update)

section Handler

variable {present : ConfigField → Bool} {payload : ConfigPayload}
  {jsonObjParse : List UInt8 → JsonResult} {request : HttpRequest} {recvs : List WebRecv}
  {saveRet : Group → Option Errno} {world : ConfigWorld} {update : ConfigUpdate}

/-- Behind the checks every group is merged, whether or not it is submitted. -/
theorem updateConfig_merges (saveRet : Group → Option Errno) (world : ConfigWorld)
    (passed : firstFieldError (jsonMask present) payload = none) :
    ∃ sta ap system, merge (jsonMask present) payload .sta (world.config .sta) = some sta ∧
      merge (jsonMask present) payload .ap (world.config .ap) = some ap ∧
      merge (jsonMask present) payload .system (world.config .system) = some system ∧
      updateConfig (jsonMask present) payload saveRet world =
        if Group.sta.fields.any present && staNeedsSsid (jsonMask present) payload sta then
          some (answered (.fieldError ConfigField.staSsid.key
            "required when enabling station mode") world)
        else
          saveGroups (setterArgument
              (fun g config => merge (jsonMask present) payload g (config g)) sta ap system)
            saveRet (saveOrder.filter fun g => g.fields.any present) world := by
  -- The guard in front of a merge makes no difference.
  have merged (g : Group) (config : EffectiveConfig) :
      (if hasFields (jsonMask present) g.fields then merge (jsonMask present) payload g (config g)
        else some (config g)) = merge (jsonMask present) payload g (config g) := by
    rw [hasFields_jsonMask]
    by_cases submitted : g.fields.any present = true
    · rw [if_pos submitted]
    · rw [if_neg submitted, merge_of_absent (by simpa using submitted)]
  have defined (g : Group) :=
    merge_isSome (accepted_of_firstFieldError passed) g (world.config g)
  obtain ⟨sta, staMerged⟩ := Option.isSome_iff_exists.mp (defined .sta)
  obtain ⟨ap, apMerged⟩ := Option.isSome_iff_exists.mp (defined .ap)
  obtain ⟨system, systemMerged⟩ := Option.isSome_iff_exists.mp (defined .system)
  refine ⟨sta, ap, system, staMerged, apMerged, systemMerged, ?_⟩
  simp only [updateConfig, merged, passed]
  simp only [staMerged, apMerged, systemMerged, Option.bind_eq_bind, Option.bind_some,
    hasFields_jsonMask]

/-- No setter changes what a later one is given. -/
theorem setterArgument_looksAtOwn {sta : BridgeConfigSta} {ap : BridgeConfigAp}
    {system : BridgeConfigSystem}
    (staMerged : merge (jsonMask present) payload .sta (world.config .sta) = some sta)
    (apMerged : merge (jsonMask present) payload .ap (world.config .ap) = some ap)
    (systemMerged : merge (jsonMask present) payload .system (world.config .system) = some system)
    (g : Group) (config : EffectiveConfig) (same : config g = world.config g) :
    setterArgument (fun g config => merge (jsonMask present) payload g (config g)) sta ap system
      g config = merge (jsonMask present) payload g (world.config g) := by
  cases g <;> simp only [setterArgument, same, staMerged, apMerged, systemMerged]

theorem saveOrder_nodup (present : ConfigField → Bool) :
    (saveOrder.filter fun g => g.fields.any present).Nodup :=
  List.Nodup.filter _ (by decide)

/-- A decoded payload is rejected with a field error, or its groups are saved in order. -/
theorem updateConfig_total (present : ConfigField → Bool) (payload : ConfigPayload)
    (saveRet : Group → Option Errno) (world : ConfigWorld) :
    ∃ update, updateConfig (jsonMask present) payload saveRet world = some update ∧
      PayloadOutcome present payload world update := by
  cases failed : firstFieldError (jsonMask present) payload with
  | some response =>
    obtain ⟨f, message, -, rfl⟩ := firstFieldError_eq_some failed
    exact ⟨_, by simp only [updateConfig, failed], .refused f message rfl⟩
  | none =>
    have accepted := accepted_of_firstFieldError failed
    obtain ⟨sta, ap, system, staMerged, apMerged, systemMerged, handled⟩ :=
      updateConfig_merges saveRet world failed
    rw [handled]
    by_cases needsSsid : (Group.sta.fields.any present &&
        staNeedsSsid (jsonMask present) payload sta) = true
    · -- the station would be enabled without an SSID
      rw [if_pos needsSsid]
      exact ⟨_, rfl, .refused .staSsid _ rfl⟩
    · rw [if_neg needsSsid]
      obtain ⟨update, saved, run, only, ends⟩ := saveGroups_spec saveRet (saveOrder_nodup present)
        (fun g _ => setterArgument_looksAtOwn staMerged apMerged systemMerged g)
        (fun g _ => merge_isSome accepted g (world.config g))
      refine ⟨update, run, .stored saved accepted ?_ only ends⟩
      intro sta' same
      obtain rfl := Option.some.inj (staMerged.symm.trans same)
      by_contra needs
      -- the check asks for the enable bit itself, so the group is submitted
      have asked : present .staEnabled = true := by
        simp only [Bool.not_eq_false, staNeedsSsid, Bool.and_eq_true, hasField_jsonMask] at needs
        exact needs.1.1
      exact needsSsid (by simp [Group.fields, asked, Bool.eq_true_of_not_eq_false needs])

theorem updateConfig_outcome
    (run : updateConfig (jsonMask present) payload saveRet world = some update) :
    PayloadOutcome present payload world update := by
  obtain ⟨update', run', outcome⟩ := updateConfig_total present payload saveRet world
  obtain rfl := Option.some.inj (run.symm.trans run')
  exact outcome

/-- Every request is answered: without looking at the configuration, or as its payload is. -/
theorem handleConfigUpdate_total (jsonObjParse : List UInt8 → JsonResult) (request : HttpRequest)
    (recvs : List WebRecv) (saveRet : Group → Option Errno) (world : ConfigWorld) :
    ∃ update, handleConfigUpdate jsonObjParse request recvs saveRet world = some update ∧
      RequestOutcome jsonObjParse request recvs saveRet world update := by
  unfold handleConfigUpdate
  split_ifs with length large exceeds
  · exact ⟨_, rfl, .badBody _ rfl⟩
  · exact ⟨_, rfl, .tooLarge rfl⟩
  · exact ⟨_, rfl, .badBody _ rfl⟩
  · cases received : readRemainingBody request recvs with
    | none => exact ⟨_, rfl, .badBody _ rfl⟩
    | some body =>
      dsimp only
      cases parsed : jsonObjParse body with
      | failed => exact ⟨_, rfl, .badBody _ rfl⟩
      | decoded present payload =>
        dsimp only
        -- Decoded, but without a single known field.
        by_cases nothing : jsonMask present = 0
        · exact ⟨_, if_pos nothing, .badBody _ rfl⟩
        · obtain ⟨update, run, -⟩ := updateConfig_total present payload saveRet world
          exact ⟨update, (if_neg nothing).trans run,
            .decoded body present payload received parsed run⟩

/-- An error response names the body or a field of the payload. -/
theorem RequestOutcome.error_names
    (outcome : RequestOutcome jsonObjParse request recvs saveRet world update)
    {field message : String} (failed : update.response.error = some (field, message)) :
    field = "body" ∨ ∃ f : ConfigField, field = f.key := by
  cases outcome with
  | tooLarge answer =>
    rw [answer] at failed
    exact Or.inl (Prod.mk.inj (Option.some.inj failed)).1.symm
  | badBody message answer =>
    rw [answer] at failed
    exact Or.inl (Prod.mk.inj (Option.some.inj failed)).1.symm
  | decoded body present payload received parsed run =>
    cases updateConfig_outcome run with
    | refused f message answer =>
      rw [answer] at failed
      exact Or.inr ⟨f, (Prod.mk.inj (Option.some.inj failed)).1.symm⟩
    | stored saved accepted ssidGiven only ends =>
      rcases ends with ⟨-, -, response⟩ | ⟨g, rest, -, -, response⟩
      · simp [response, ConfigResponse.error] at failed
      · rw [response] at failed
        exact Or.inl (Prod.mk.inj (Option.some.inj failed)).1.symm

end Handler

end EspNmeaBridge
