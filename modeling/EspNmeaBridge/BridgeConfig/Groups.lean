/-
# The five configuration groups

Five pairs of a static struct and a stored record are kept by one pattern: a check, a
comparison with the value in RAM, a save, and a note for whoever depends on it. A group
says what the pattern is filled with, and proves that its record gives back what its
check let through.
-/

import EspNmeaBridge.Errno
import EspNmeaBridge.BridgeConfig.Records

namespace EspNmeaBridge

open CString

/-- A settings name, such as `bridge/ais`. -/
abbrev SettingsName := List Char

/-- The settings store: a record under each name. -/
abbrev SettingsStore := AList fun _ : SettingsName => List UInt8

def bridgeConfigSubtree : SettingsName := ['b', 'r', 'i', 'd', 'g', 'e']

/-- The full name of a key below the subtree. -/
def subtreeKey (name : SettingsName) : SettingsName := bridgeConfigSubtree ++ '/' :: name

inductive Group where
  | ais
  | tcpClient
  | ap
  | system
  | sta
  deriving DecidableEq, Repr

/-- The struct that holds the group. -/
@[reducible] def Group.Config : Group → Type
  | .ais => BridgeConfigAis
  | .tcpClient => BridgeConfigTcpClient
  | .ap => BridgeConfigAp
  | .system => BridgeConfigSystem
  | .sta => BridgeConfigSta

/-- What the pattern of `bridge_config.c` is filled with. -/
structure ConfigGroup (α : Type) where
  /-- The name that `bridge_config_settings_set` compares with. -/
  name : SettingsName
  recordLen : ℕ
  accepts : α → Bool
  valueChanged : α → α → Bool
  pack : α → CharArray recordLen
  unpack : CharArray recordLen → Option α
  /-- Consumers are notified at once; without it the values are read at the next boot. -/
  live : Bool
  /-- What the consumers read. -/
  Value : Type
  value : α → Value
  valueChanged_iff : ∀ a b, valueChanged a b = true ↔ value a ≠ value b
  unpack_pack : ∀ a, accepts a = true → ∃ b, unpack (pack a) = some b ∧ value b = value a

section Changes

-- a setter compares field by field what the consumers read as a whole

theorem tcpClient_valueChanged (a b : BridgeConfigTcpClient) :
    (a.enabled != b.enabled || a.port != b.port || !a.host.strcmpEq b.host) = true ↔
      a.value ≠ b.value := by
  simp only [BridgeConfigTcpClient.value, CharArray.strcmpEq]
  grind

theorem ap_valueChanged (a b : BridgeConfigAp) :
    (!a.ssid.strcmpEq b.ssid || !a.psk.strcmpEq b.psk) = true ↔ a.value ≠ b.value := by
  simp only [BridgeConfigAp.value, CharArray.strcmpEq]
  grind

theorem sta_valueChanged (a b : BridgeConfigSta) :
    (a.enabled != b.enabled || a.rotateMac != b.rotateMac || !a.ssid.strcmpEq b.ssid ||
      !a.psk.strcmpEq b.psk) = true ↔ a.value ≠ b.value := by
  simp only [BridgeConfigSta.value, CharArray.strcmpEq]
  grind

end Changes

def aisGroup : ConfigGroup BridgeConfigAis where
  name := ['a', 'i', 's']
  recordLen := aisRecordLen
  accepts := aisAccepts
  valueChanged a b := a.filterEnabled != b.filterEnabled || a.ownMmsi != b.ownMmsi
  pack := aisRecordPack
  -- the range is checked by `bridge_config_settings_set` itself
  unpack record :=
    let stored := aisRecordUnpack record
    if bridgeConfigAisMmsiMax < stored.ownMmsi then none else some stored
  live := true
  Value := Bool × UInt32
  value := BridgeConfigAis.value
  valueChanged_iff a b := by
    simp [BridgeConfigAis.value, Classical.or_iff_not_imp_left]
  unpack_pack a accepted := by
    refine ⟨a, ?_, rfl⟩
    simp only [aisRecordUnpack_pack]
    rw [if_neg]
    simpa [aisAccepts] using accepted

def tcpClientGroup : ConfigGroup BridgeConfigTcpClient where
  name := ['t', 'c', 'p']
  recordLen := tcpRecordLen
  accepts := tcpClientAccepts
  valueChanged a b := a.enabled != b.enabled || a.port != b.port || !a.host.strcmpEq b.host
  pack := tcpRecordPack
  unpack := tcpRecordUnpack
  live := true
  Value := Bool × List UInt8 × UInt16
  value := BridgeConfigTcpClient.value
  valueChanged_iff := tcpClient_valueChanged
  unpack_pack _ := tcpRecordUnpack_pack

def apGroup : ConfigGroup BridgeConfigAp where
  name := ['a', 'p']
  recordLen := apRecordLen
  accepts := apAccepts
  valueChanged a b := !a.ssid.strcmpEq b.ssid || !a.psk.strcmpEq b.psk
  pack := apRecordPack
  unpack := apRecordUnpack
  live := false
  Value := List UInt8 × List UInt8
  value := BridgeConfigAp.value
  valueChanged_iff := ap_valueChanged
  unpack_pack _ := apRecordUnpack_pack

def systemGroup : ConfigGroup BridgeConfigSystem where
  name := ['s', 'y', 's']
  recordLen := sysRecordLen
  accepts := systemAccepts
  valueChanged a b := !a.hostname.strcmpEq b.hostname
  pack := sysRecordPack
  unpack := sysRecordUnpack
  live := false
  Value := List UInt8
  value := BridgeConfigSystem.value
  valueChanged_iff a b := by
    simp [BridgeConfigSystem.value, CharArray.strcmpEq]
  unpack_pack _ := sysRecordUnpack_pack

def staGroup : ConfigGroup BridgeConfigSta where
  name := ['s', 't', 'a']
  recordLen := staRecordLen
  accepts := staAccepts
  valueChanged a b :=
    a.enabled != b.enabled || a.rotateMac != b.rotateMac || !a.ssid.strcmpEq b.ssid ||
      !a.psk.strcmpEq b.psk
  pack := staRecordPack
  unpack := staRecordUnpack
  live := false
  Value := Bool × Bool × List UInt8 × List UInt8
  value := BridgeConfigSta.value
  valueChanged_iff := sta_valueChanged
  unpack_pack _ := staRecordUnpack_pack

/-- The pattern of each group. -/
def configGroup : (g : Group) → ConfigGroup g.Config
  | .ais => aisGroup
  | .tcpClient => tcpClientGroup
  | .ap => apGroup
  | .system => systemGroup
  | .sta => staGroup

/-- The key a group is saved under, such as `BRIDGE_CONFIG_KEY_AIS`. -/
def Group.key (g : Group) : SettingsName := subtreeKey (configGroup g).name

theorem Group.key_injective {g h : Group} (same : g.key = h.key) : g = h := by
  cases g <;> cases h <;> first | rfl | exact absurd same (by decide)

end EspNmeaBridge
