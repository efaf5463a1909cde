/-
# The effective configuration is always valid

Values enter RAM from the defaults, from stored bytes and from setter arguments. The
unpackers and the setters have checks of their own; both enforce one set of limits,
stated here without reference to either.
-/

import EspNmeaBridge.BridgeConfig
import EspNmeaBridge.Lib.Machine

namespace EspNmeaBridge

open CString Machine

/-- Empty, or of WPA2 length. -/
def IsPsk (text : List UInt8) : Prop := text = [] ∨ 8 ≤ text.length ∧ text.length ≤ 63

/-- A terminated array with at most 32 bytes of text. -/
def IsSsid {n : ℕ} (ssid : CharArray n) : Prop :=
  ssid.terminated = true ∧ ssid.str.length ≤ 32 ∧ IsText ssid.str

/-- The limits of each group. -/
def Group.Valid : (g : Group) → g.Config → Prop
  | .ais, config => config.ownMmsi ≤ 999999999
  | .tcpClient, config =>
    config.host.terminated = true ∧ IsHost config.host.str ∧ config.host.str.length ≤ 15 ∧
      config.port ≠ 0
  | .ap, config =>
    IsSsid config.ssid ∧ config.ssid.str ≠ [] ∧ config.psk.terminated = true ∧
      IsPsk config.psk.str
  | .system, config => config.hostname.terminated = true ∧ IsHostname config.hostname.str
  | .sta, config => IsSsid config.ssid ∧ config.psk.terminated = true ∧ IsPsk config.psk.str

section Limits

variable {n : ℕ}

theorem isPsk_of_pskLenOk {psk : CharArray n} (ok : pskLenOk psk.strlen = true) :
    IsPsk psk.str := by
  simp only [pskLenOk, Bool.or_eq_true, beq_iff_eq, Bool.and_eq_true, decide_eq_true_eq] at ok
  exact ok.imp_left List.length_eq_zero_iff.mp

theorem lt_of_pskLenOk {length : ℕ} (ok : pskLenOk length = true) :
    length < bridgeConfigWifiPskMax + 1 := by
  simp only [pskLenOk, Bool.or_eq_true, beq_iff_eq, Bool.and_eq_true, decide_eq_true_eq] at ok
  omega

theorem isSsid_of_valid {ssid : CharArray (bridgeConfigWifiSsidMax + 1)}
    (ended : ssid.terminated = true)
    (valid : bridgeConfigTextValid ssid.bytes = some true) : IsSsid ssid :=
  ⟨ended, Nat.le_of_lt_succ (CharArray.strlen_lt_of_terminated ended),
    isText_of_textValidFrom valid⟩

/-- A copy shorter than the array ends inside it. -/
theorem terminated_slice {k m : ℕ} (record : CharArray k) (offset : ℕ) {length : ℕ}
    (fits : length < m) : (CharArray.ofBytes m (record.slice offset length)).terminated = true := by
  apply CharArray.terminated_ofBytes
  have bound : (record.slice offset length).length ≤ length := List.length_take_le _ _
  omega

end Limits

/-- Every setter argument that passes the checks is within the limits. -/
theorem valid_of_accepts {g : Group} {config : g.Config}
    (accepted : (configGroup g).accepts config = true) : g.Valid config := by
  cases g with
  | ais =>
    simp only [configGroup, aisGroup, aisAccepts, decide_eq_true_eq] at accepted
    exact accepted
  | tcpClient =>
    simp only [configGroup, tcpClientGroup, tcpClientAccepts, Bool.and_eq_true, beq_iff_eq,
      bne_iff_ne] at accepted
    -- The host check bounds the length, too: a dotted quad fits its array.
    have host := isHost_of_valid accepted.1.2
    exact ⟨accepted.1.1, host, host.length_le, accepted.2⟩
  | ap =>
    simp only [configGroup, apGroup, apAccepts, Bool.and_eq_true, beq_iff_eq, bne_iff_ne]
      at accepted
    obtain ⟨⟨⟨⟨ssidEnds, pskEnds⟩, text⟩, nonempty⟩, psk⟩ := accepted
    refine ⟨isSsid_of_valid ssidEnds text, ?_, pskEnds, isPsk_of_pskLenOk psk⟩
    intro empty
    exact nonempty (by rw [CharArray.strlen, empty, List.length_nil])
  | system =>
    simp only [configGroup, systemGroup, systemAccepts, Bool.and_eq_true, beq_iff_eq] at accepted
    exact ⟨accepted.1, isHostname_of_valid accepted.2⟩
  | sta =>
    simp only [configGroup, staGroup, staAccepts, Bool.and_eq_true, beq_iff_eq] at accepted
    obtain ⟨⟨⟨ssidEnds, pskEnds⟩, text⟩, psk⟩ := accepted
    exact ⟨isSsid_of_valid ssidEnds text, pskEnds, isPsk_of_pskLenOk psk⟩

/-- Every record that unpacks is within the limits. -/
theorem valid_of_unpack {g : Group} {config : g.Config}
    {record : CharArray (configGroup g).recordLen}
    (unpacked : (configGroup g).unpack record = some config) : g.Valid config := by
  cases g with
  | ais =>
    simp only [configGroup, aisGroup, Option.ite_none_left_eq_some, Option.some.injEq] at unpacked
    obtain ⟨inRange, rfl⟩ := unpacked
    simpa [Group.Valid, bridgeConfigAisMmsiMax] using inRange
  | tcpClient =>
    simp only [configGroup, tcpClientGroup, tcpRecordUnpack, Option.ite_none_left_eq_some,
      Option.ite_none_right_eq_some, Option.some.injEq] at unpacked
    -- The unpacker copies into a zeroed array, and the length it checked leaves room.
    obtain ⟨short, ⟨valid, port⟩, rfl⟩ := unpacked
    have host := isHost_of_valid valid
    exact ⟨terminated_slice _ _ (by omega), host, host.length_le, port⟩
  | ap =>
    simp only [configGroup, apGroup, apRecordUnpack, Option.ite_none_left_eq_some,
      Option.ite_none_right_eq_some, Option.some.injEq, not_or] at unpacked
    obtain ⟨⟨nonempty, short, psk⟩, ⟨ssidLen, pskLen, text⟩, rfl⟩ := unpacked
    refine ⟨isSsid_of_valid (terminated_slice _ _ (by omega)) text, ?_, ?_, ?_⟩
    · intro empty
      -- The record's length byte is compared with `strlen` of the copy.
      exact nonempty (by rw [← ssidLen, CharArray.strlen, empty, List.length_nil])
    · exact terminated_slice _ _ (lt_of_pskLenOk (by simpa using psk))
    · exact isPsk_of_pskLenOk (by simpa [pskLen] using psk)
  | system =>
    simp only [configGroup, systemGroup, sysRecordUnpack, Option.ite_none_left_eq_some,
      Option.ite_none_right_eq_some, Option.some.injEq] at unpacked
    obtain ⟨short, ⟨-, label⟩, rfl⟩ := unpacked
    exact ⟨terminated_slice _ _ (by omega), isHostname_of_valid label⟩
  | sta =>
    simp only [configGroup, staGroup, staRecordUnpack, Option.ite_none_left_eq_some,
      Option.ite_none_right_eq_some, Option.some.injEq, not_or] at unpacked
    obtain ⟨⟨short, psk⟩, ⟨ssidLen, pskLen, text⟩, rfl⟩ := unpacked
    refine ⟨isSsid_of_valid (terminated_slice _ _ (by omega)) text, ?_, ?_⟩
    · exact terminated_slice _ _ (lt_of_pskLenOk (by simpa using psk))
    · exact isPsk_of_pskLenOk (by simpa [pskLen] using psk)

/-! ## Every run -/

/-- Every group is within its limits. -/
def AllValid (config : EffectiveConfig) : Prop := ∀ g : Group, g.Valid (config g)

section Steps

variable {build : ConfigBuild} {world : ConfigWorld} {config : EffectiveConfig}

theorem AllValid.update (valid : AllValid config) {g : Group} {v : g.Config} (new : g.Valid v) :
    AllValid (Function.update config g v) := by
  intro h
  by_cases same : h = g
  · subst same
    rwa [Function.update_self]
  · rw [Function.update_of_ne same]
    exact valid h

/-- Whatever bytes are handed over, what gets into RAM is valid. -/
theorem AllValid.settingsSet (valid : AllValid config) (load : SettingsLoad) :
    AllValid (bridgeConfigSettingsSet config load).1 := by
  unfold bridgeConfigSettingsSet
  split
  · -- No group has that name.
    exact valid
  · split
    · exact valid
    · rename_i loaded
      unfold ConfigGroup.load at loaded
      dsimp only at loaded
      split_ifs at loaded
      exact valid.update (valid_of_unpack loaded)

theorem AllValid.boot (valid : AllValid build.defaults) (order : EnumerationOrder)
    (store : SettingsStore) : AllValid (boot build.defaults order store).config := by
  simp only [EspNmeaBridge.boot, bridgeConfigInit]
  -- One load after the other, the last one outermost.
  induction storedLoads order store using List.reverseRecOn with
  | nil => exact valid
  | append_singleton loads load ih =>
    rw [List.foldl_append]
    exact ih.settingsSet load

theorem AllValid.step (defaults : AllValid build.defaults) (valid : AllValid world.config)
    (op : ConfigOp) : AllValid (configStep build world op).1.config := by
  cases op with
  | boot order => exact defaults.boot order world.store
  | setListener present => exact valid
  | settingsSet load => exact valid.settingsSet load
  | set g arg saveRet =>
    rcases bridgeConfigSet_cases world arg saveRet with
      ⟨-, same, -⟩ | ⟨v, -, accepted, -, ⟨same, -⟩ | ⟨config, -⟩⟩
    · rwa [configStep, same]
    · rwa [configStep, same]
    · rw [configStep, config]
      exact valid.update (valid_of_accepts accepted)
  | factoryReset order deleteRet => exact valid

end Steps

/-- The device before its first load: RAM holds the defaults. -/
def unloaded (defaults : EffectiveConfig) (store : SettingsStore) : ConfigWorld where
  config := defaults
  rebootRequired := false
  factoryResetPending := false
  listener := false
  store := store

/-- With valid defaults, the effective configuration is valid after every sequence of
loads, setter calls, resets and boots, whatever is stored and whatever fails. -/
theorem effective_configuration_valid (build : ConfigBuild) (defaults : AllValid build.defaults)
    (store : SettingsStore) (ops : List ConfigOp) :
    AllValid (stateAfter (configStep build) (unloaded build.defaults store) ops).config :=
  invariant (configStep build) (P := fun world => AllValid world.config)
    (fun _ op valid => defaults.step valid op) defaults ops

/-- A corrupt record of the access point, with a PSK of three bytes, is ignored. -/
theorem effective_configuration_valid_corrupt :
    (stateAfter (configStep sampleBuild) (unloaded sampleBuild.defaults ∅)
      [.settingsSet (storedLoad ['a', 'p'] (field 33 [2, 0x41, 0x50] ++ field 64 [3, 1, 2, 3]))]).config
      .ap = sampleBuild.defaults .ap ∧
    AllValid (stateAfter (configStep sampleBuild) (unloaded sampleBuild.defaults ∅)
      [.settingsSet (storedLoad ['a', 'p']
        (field 33 [2, 0x41, 0x50] ++ field 64 [3, 1, 2, 3]))]).config :=
  ⟨by decide, effective_configuration_valid sampleBuild
    (fun g => valid_of_accepts (by cases g <;> decide)) ∅ _⟩

end EspNmeaBridge
