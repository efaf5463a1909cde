/-
# Stored records round-trip

A record that a setter saves is taken back by the load of its key, with the values
it was packed from. The load and the setters check the same limits, so a value that
came from a record can be packed again, and comes back once more.
-/

import EspNmeaBridge.BridgeConfig.AlwaysValid
import EspNmeaBridge.BridgeConfig.SurvivesReboot

namespace EspNmeaBridge

open CString

/-! ## The setters accept what was loaded -/

theorem tcpClientAccepts_of_unpack {record : CharArray tcpRecordLen}
    {config : BridgeConfigTcpClient} (unpacked : tcpRecordUnpack record = some config) :
    tcpClientAccepts config = true := by
  simp only [tcpRecordUnpack, Option.ite_none_left_eq_some, Option.ite_none_right_eq_some,
    Option.some.injEq] at unpacked
  obtain ⟨short, ⟨valid, port⟩, rfl⟩ := unpacked
  simp only [tcpClientAccepts, Bool.and_eq_true, beq_iff_eq, bne_iff_ne]
  exact ⟨⟨terminated_slice _ _ (by omega), valid⟩, port⟩

theorem apAccepts_of_unpack {record : CharArray apRecordLen} {config : BridgeConfigAp}
    (unpacked : apRecordUnpack record = some config) : apAccepts config = true := by
  simp only [apRecordUnpack, Option.ite_none_left_eq_some, Option.ite_none_right_eq_some,
    Option.some.injEq, not_or, Bool.not_eq_true', Bool.not_eq_false] at unpacked
  obtain ⟨⟨nonempty, short, psk⟩, ⟨ssidLen, pskLen, text⟩, rfl⟩ := unpacked
  simp only [apAccepts, Bool.and_eq_true, beq_iff_eq, bne_iff_ne]
  -- The length bytes that were checked are the lengths of the strings.
  exact ⟨⟨⟨⟨terminated_slice _ _ (by omega), terminated_slice _ _ (lt_of_pskLenOk psk)⟩, text⟩,
    fun empty => nonempty (ssidLen.symm.trans empty)⟩, pskLen.symm ▸ psk⟩

theorem systemAccepts_of_unpack {record : CharArray sysRecordLen} {config : BridgeConfigSystem}
    (unpacked : sysRecordUnpack record = some config) : systemAccepts config = true := by
  simp only [sysRecordUnpack, Option.ite_none_left_eq_some, Option.ite_none_right_eq_some,
    Option.some.injEq] at unpacked
  obtain ⟨short, ⟨-, label⟩, rfl⟩ := unpacked
  simp only [systemAccepts, Bool.and_eq_true, beq_iff_eq]
  exact ⟨terminated_slice _ _ (by omega), label⟩

theorem staAccepts_of_unpack {record : CharArray staRecordLen} {config : BridgeConfigSta}
    (unpacked : staRecordUnpack record = some config) : staAccepts config = true := by
  simp only [staRecordUnpack, Option.ite_none_left_eq_some, Option.ite_none_right_eq_some,
    Option.some.injEq, not_or, Bool.not_eq_true', Bool.not_eq_false] at unpacked
  obtain ⟨⟨short, psk⟩, ⟨ssidLen, pskLen, text⟩, rfl⟩ := unpacked
  simp only [staAccepts, Bool.and_eq_true, beq_iff_eq]
  exact ⟨⟨⟨terminated_slice _ _ (by omega), terminated_slice _ _ (lt_of_pskLenOk psk)⟩, text⟩,
    pskLen.symm ▸ psk⟩

section RoundTrip

variable {g : Group}

/-- What the load of a record lets through, the setter of the group accepts. -/
theorem accepts_of_unpack {config : g.Config} {record : CharArray (configGroup g).recordLen}
    (unpacked : (configGroup g).unpack record = some config) :
    (configGroup g).accepts config = true := by
  cases g with
  | ais =>
    simp only [configGroup, aisGroup, Option.ite_none_left_eq_some, Option.some.injEq] at unpacked
    obtain ⟨inRange, rfl⟩ := unpacked
    simpa [configGroup, aisGroup, aisAccepts] using inRange
  | tcpClient => exact tcpClientAccepts_of_unpack unpacked
  | ap => exact apAccepts_of_unpack unpacked
  | system => exact systemAccepts_of_unpack unpacked
  | sta => exact staAccepts_of_unpack unpacked

/-! ## Loading what was packed -/

/-- What is accepted on load has passed the unpacker of the group. -/
theorem exists_unpack_of_load {α : Type} {group : ConfigGroup α} {load : SettingsLoad} {config : α}
    (loaded : group.load load = some config) : ∃ record, group.unpack record = some config := by
  unfold ConfigGroup.load at loaded
  dsimp only at loaded
  split_ifs at loaded
  exact ⟨_, loaded⟩

/-- The load of a group's key takes the record over, or ignores it. -/
theorem bridgeConfigSettingsSet_eq (config : EffectiveConfig) {load : SettingsLoad}
    (named : load.name = (configGroup g).name) :
    bridgeConfigSettingsSet config load =
      match (configGroup g).load load with
      | none => (config, none)
      | some stored => (Function.update config g stored, none) := by
  cases loaded : (configGroup g).load load <;>
    simp [bridgeConfigSettingsSet, named, find?_name, loaded]

/-- An accepted value is taken back from its record, whatever RAM holds. -/
theorem settingsSet_pack {v : g.Config} (accepted : (configGroup g).accepts v = true)
    (config : EffectiveConfig) :
    ∃ loaded : g.Config,
      bridgeConfigSettingsSet config
          (storedLoad (configGroup g).name ((configGroup g).pack v).bytes) =
        (Function.update config g loaded, none) ∧
      (configGroup g).value loaded = (configGroup g).value v := by
  obtain ⟨loaded, unpacked, same⟩ := (configGroup g).unpack_pack v accepted
  refine ⟨loaded, ?_, same⟩
  rw [bridgeConfigSettingsSet_eq config rfl, load_storedLoad, unpacked]

end RoundTrip

/-- What a setter of the group saves is its argument's record; loaded under the same key,
that record is accepted and restores the argument's values. A configuration that came
from a record is restored by packing it again. -/
theorem stored_records_round_trip (g : Group) :
    (∀ (world : ConfigWorld) (v : g.Config) (saveRet : Option Errno),
      (configGroup g).accepts v = true →
      (bridgeConfigSet g world (some v) saveRet).2.ret = none →
      (bridgeConfigSet g world (some v) saveRet).2.saved = some g.key →
      ∃ record, (bridgeConfigSet g world (some v) saveRet).1.store.lookup g.key = some record ∧
        ∀ config : EffectiveConfig, ∃ loaded : g.Config,
          bridgeConfigSettingsSet config (storedLoad (configGroup g).name record) =
            (Function.update config g loaded, none) ∧
          (configGroup g).value loaded = (configGroup g).value v) ∧
    ∀ (load : SettingsLoad) (v : g.Config), load.name = (configGroup g).name →
      (configGroup g).load load = some v →
      ∀ config : EffectiveConfig,
        bridgeConfigSettingsSet config load = (Function.update config g v, none) ∧
        ∃ loaded : g.Config,
          bridgeConfigSettingsSet config
              (storedLoad (configGroup g).name ((configGroup g).pack v).bytes) =
            (Function.update config g loaded, none) ∧
          (configGroup g).value loaded = (configGroup g).value v := by
  refine ⟨fun world v saveRet accepted done saved => ?_, fun load v named loaded config => ?_⟩
  · rcases bridgeConfigSet_cases world (some v) saveRet with
      ⟨failed, -⟩ | ⟨v', same, -, -, ⟨-, -, unsaved, -⟩ | ⟨-, store, -⟩⟩
    · exact absurd done failed
    · -- An unchanged value is not saved.
      exact absurd (saved.symm.trans unsaved) (by simp)
    · obtain rfl := Option.some.inj same
      refine ⟨((configGroup g).pack v).bytes, ?_, settingsSet_pack accepted⟩
      rw [store, AList.lookup_insert]
  · refine ⟨?_, ?_⟩
    · rw [bridgeConfigSettingsSet_eq config named, loaded]
    · -- What an unpacker lets through passes the setter's check, and is packed again.
      obtain ⟨record, unpacked⟩ := exists_unpack_of_load loaded
      exact settingsSet_pack (accepts_of_unpack unpacked) config

/-- An SSID and a PSK of full length. -/
def fullLengthAp : BridgeConfigAp :=
  ⟨.ofBytes _ (List.replicate 32 0x41), .ofBytes _ (List.replicate 63 0x70)⟩

/-- Strings of full length leave no terminator in the record and come back all the same. -/
theorem stored_records_round_trip_full :
    ∃ loaded : BridgeConfigAp,
      bridgeConfigSettingsSet sampleBuild.defaults
          (storedLoad apGroup.name (apRecordPack fullLengthAp).bytes) =
        (Function.update sampleBuild.defaults .ap loaded, none) ∧
      loaded.value = fullLengthAp.value := by
  obtain ⟨record, stored, restores⟩ := (stored_records_round_trip .ap).1
    (boot sampleBuild.defaults storageOrder ∅) fullLengthAp none (by decide) (by decide) (by decide)
  obtain ⟨loaded, taken, same⟩ := restores sampleBuild.defaults
  obtain rfl : record = (apRecordPack fullLengthAp).bytes :=
    Option.some.inj (stored.symm.trans (by decide))
  exact ⟨loaded, taken, same⟩

end EspNmeaBridge
