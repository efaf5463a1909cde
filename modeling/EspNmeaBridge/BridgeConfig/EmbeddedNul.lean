/-
# Stored strings with an embedded NUL

A stored string travels with a length byte, and is used as a C string. Where a NUL stands
among the declared bytes the two disagree: the string in use would be a shorter one. Three
of the four unpackers compare the lengths and refuse such a record. The unpacker of the
TCP client does not, and takes over what stands before the NUL when that is a host.
-/

import EspNmeaBridge.BridgeConfig.ExactStrings
import EspNmeaBridge.BridgeConfig.RoundTrip

namespace EspNmeaBridge

open CString

/-- A length byte and the bytes it declares. -/
structure DeclaredString where
  length : ℕ
  bytes : List UInt8
  deriving DecidableEq

/-- The string whose length byte is followed by its bytes. -/
def declaredAt {n : ℕ} (record : CharArray n) (lenOff : ℕ) : DeclaredString :=
  let length := (record.byteAt lenOff).toNat
  ⟨length, record.slice (lenOff + 1) length⟩

/-- The strings a record of the group declares. -/
def declaredStrings : (g : Group) → CharArray (configGroup g).recordLen → List DeclaredString
  | .ais, _ => []
  | .tcpClient, record => [declaredAt record 1]
  | .ap, record => [declaredAt record 0, declaredAt record apRecordPskLenOff]
  | .system, record => [declaredAt record 0]
  | .sta, record => [declaredAt record 2, declaredAt record staRecordPskLenOff]

/-- The strings of a configuration, in the order of its record. -/
def loadedStrings : (g : Group) → g.Config → List (List UInt8)
  | .ais, _ => []
  | .tcpClient, config => [config.host.str]
  | .ap, config => [config.ssid.str, config.psk.str]
  | .system, config => [config.hostname.str]
  | .sta, config => [config.ssid.str, config.psk.str]

/-- No string of the record is shortened on load: accepted, it gives strings of the declared
lengths, and with a NUL among the declared bytes it is rejected and changes nothing. -/
def StringsKept (g : Group) (record : CharArray (configGroup g).recordLen) : Prop :=
  (∀ config, (configGroup g).unpack record = some config →
    (loadedStrings g config).map List.length = (declaredStrings g record).map (·.length)) ∧
  ((∃ declared ∈ declaredStrings g record, 0 ∈ declared.bytes) →
    (configGroup g).unpack record = none ∧
      ∀ (config : EffectiveConfig) (load : SettingsLoad), load.name = (configGroup g).name →
        (load.read (configGroup g).recordLen).record = record →
        bridgeConfigSettingsSet config load = (config, none))

/-- A record of the TCP client with a NUL among the declared bytes of the host, a blank or
canonical host before it, and a port. -/
def ShortenedHost (g : Group) (record : CharArray (configGroup g).recordLen) : Prop :=
  g = .tcpClient ∧ ∃ declared ∈ declaredStrings g record,
    declared.length ≤ bridgeConfigTcpClientHostMax ∧ 0 ∈ declared.bytes ∧
      IsHost (content declared.bytes) ∧ ofNativeBytes16 (record.slice tcpRecordPortOff 2) ≠ 0

section Records

variable {g : Group} {record : CharArray (configGroup g).recordLen}

/-- A copy as long as declared holds no NUL. -/
theorem zero_notMem_of_strlen {n m offset len : ℕ} {record : CharArray n} (fits : len < m)
    (full : (CharArray.ofBytes m (record.slice offset len)).strlen = len) :
    (0 : UInt8) ∉ record.slice offset len := by
  have bound : (record.slice offset len).length ≤ len := List.length_take_le _ _
  rw [CharArray.strlen, CharArray.str_ofBytes (by omega)] at full
  have whole : content (record.slice offset len) = record.slice offset len :=
    (List.takeWhile_prefix _).eq_of_length
      (Nat.le_antisymm (content_length_le _) (bound.trans full.ge))
  rw [← whole]
  exact zero_notMem_content _

theorem length_slice {n offset len : ℕ} {record : CharArray n} (inside : offset + len ≤ n) :
    (record.slice offset len).length = len := by
  rw [CharArray.slice, List.length_take, List.length_drop, record.size_eq]
  omega

/-- A record that is not taken over leaves the configuration as it was, however it is read. -/
theorem settingsSet_of_unpack_none (rejected : (configGroup g).unpack record = none)
    (config : EffectiveConfig) {load : SettingsLoad} (named : load.name = (configGroup g).name)
    (delivered : (load.read (configGroup g).recordLen).record = record) :
    bridgeConfigSettingsSet config load = (config, none) := by
  have ignored : (configGroup g).load load = none := by
    unfold ConfigGroup.load
    dsimp only
    split_ifs
    · rfl
    · rfl
    · rw [delivered, rejected]
  rw [bridgeConfigSettingsSet_eq config named, ignored]

/-- With matching lengths and no NUL in what is accepted, nothing is shortened. -/
theorem stringsKept_of_unpack
    (kept : ∀ config, (configGroup g).unpack record = some config →
      (loadedStrings g config).map List.length = (declaredStrings g record).map (·.length) ∧
        ∀ declared ∈ declaredStrings g record, (0 : UInt8) ∉ declared.bytes) :
    StringsKept g record := by
  refine ⟨fun config unpacked => (kept config unpacked).1, ?_⟩
  rintro ⟨declared, member, nul⟩
  have rejected : (configGroup g).unpack record = none := by
    by_contra accepted
    obtain ⟨config, unpacked⟩ := Option.ne_none_iff_exists'.mp accepted
    exact (kept config unpacked).2 declared member nul
  exact ⟨rejected, fun config load named delivered =>
    settingsSet_of_unpack_none rejected config named delivered⟩

end Records

/-- Where the lengths are compared, nothing is shortened. -/
theorem sta_stringsKept (record : CharArray staRecordLen) : StringsKept .sta record := by
  refine stringsKept_of_unpack fun config unpacked => ?_
  simp only [configGroup, staGroup, staRecordUnpack, Option.ite_none_left_eq_some,
    Option.ite_none_right_eq_some, Option.some.injEq, not_or, not_lt, Bool.not_eq_true',
    Bool.not_eq_false] at unpacked
  obtain ⟨⟨short, psk⟩, ⟨ssidLen, pskLen, -⟩, rfl⟩ := unpacked
  refine ⟨?_, ?_⟩
  · exact congrArg₂ (fun ssid psk => [ssid, psk]) ssidLen pskLen
  · simp only [declaredStrings, List.forall_mem_cons]
    exact ⟨zero_notMem_of_strlen (Nat.lt_succ_of_le short) ssidLen,
      zero_notMem_of_strlen (lt_of_pskLenOk psk) pskLen, by simp⟩

theorem ap_stringsKept (record : CharArray apRecordLen) : StringsKept .ap record := by
  refine stringsKept_of_unpack fun config unpacked => ?_
  simp only [configGroup, apGroup, apRecordUnpack, Option.ite_none_left_eq_some,
    Option.ite_none_right_eq_some, Option.some.injEq, not_or, not_lt, Bool.not_eq_true',
    Bool.not_eq_false] at unpacked
  obtain ⟨⟨-, short, psk⟩, ⟨ssidLen, pskLen, -⟩, rfl⟩ := unpacked
  refine ⟨?_, ?_⟩
  · exact congrArg₂ (fun ssid psk => [ssid, psk]) ssidLen pskLen
  · simp only [declaredStrings, List.forall_mem_cons]
    exact ⟨zero_notMem_of_strlen (Nat.lt_succ_of_le short) ssidLen,
      zero_notMem_of_strlen (lt_of_pskLenOk psk) pskLen, by simp⟩

theorem system_stringsKept (record : CharArray sysRecordLen) : StringsKept .system record := by
  refine stringsKept_of_unpack fun config unpacked => ?_
  simp only [configGroup, systemGroup, sysRecordUnpack, Option.ite_none_left_eq_some,
    Option.ite_none_right_eq_some, Option.some.injEq, not_lt] at unpacked
  obtain ⟨short, ⟨len, -⟩, rfl⟩ := unpacked
  refine ⟨congrArg (fun len => [len]) len, ?_⟩
  simp only [declaredStrings, List.forall_mem_cons]
  exact ⟨zero_notMem_of_strlen (Nat.lt_succ_of_le short) len, by simp⟩

/-- The unpacker of the TCP client takes over the declared bytes, when what stands before
their first NUL is a host. -/
theorem tcpRecordUnpack_eq_some_iff {record : CharArray tcpRecordLen}
    {config : BridgeConfigTcpClient} :
    tcpRecordUnpack record = some config ↔
      (declaredAt record 1).length ≤ bridgeConfigTcpClientHostMax ∧
        IsHost (content (declaredAt record 1).bytes) ∧
        ofNativeBytes16 (record.slice tcpRecordPortOff 2) ≠ 0 ∧
        config = ⟨record.byteAt 0 != 0, .ofBytes _ (declaredAt record 1).bytes,
          ofNativeBytes16 (record.slice tcpRecordPortOff 2)⟩ := by
  simp only [tcpRecordUnpack, Option.ite_none_left_eq_some, Option.ite_none_right_eq_some,
    Option.some.injEq, not_lt]
  refine and_congr_right fun short => ?_
  have bound : (declaredAt record 1).bytes.length ≤ (declaredAt record 1).length :=
    List.length_take_le _ _
  have fits : (declaredAt record 1).bytes.length < bridgeConfigTcpClientHostMax + 1 :=
    Nat.lt_succ_of_le (bound.trans short)
  have decides := (valid_iff_of_terminated (CharArray.terminated_ofBytes fits)).2.1
  rw [CharArray.str_ofBytes fits] at decides
  rw [and_assoc]
  exact and_congr decides (and_congr_right fun _ => eq_comm)

/-- Without a NUL the string is all of the declared bytes, and these are in the record. -/
theorem tcpRecordUnpack_strlen {record : CharArray tcpRecordLen} {config : BridgeConfigTcpClient}
    (unpacked : tcpRecordUnpack record = some config)
    (clean : (0 : UInt8) ∉ (declaredAt record 1).bytes) :
    config.host.str.length = (declaredAt record 1).length := by
  obtain ⟨short, -, -, rfl⟩ := tcpRecordUnpack_eq_some_iff.mp unpacked
  have count : (declaredAt record 1).bytes.length = (declaredAt record 1).length :=
    length_slice (Nat.le_trans (Nat.add_le_add_left short 2) (by decide))
  rw [CharArray.str_ofBytes (Nat.lt_succ_of_le (count.trans_le short)), content_eq_self clean,
    count]

/-- A string is shortened on load exactly when it is the host of such a record. -/
theorem stringsKept_iff (g : Group) (record : CharArray (configGroup g).recordLen) :
    StringsKept g record ↔ ¬ ShortenedHost g record := by
  cases g with
  | ais =>
    refine iff_of_true (stringsKept_of_unpack fun config _ => ⟨rfl, by simp [declaredStrings]⟩) ?_
    rintro ⟨other, -⟩
    exact absurd other (by simp)
  | ap => exact iff_of_true (ap_stringsKept record) fun ⟨other, _⟩ => absurd other (by simp)
  | system => exact iff_of_true (system_stringsKept record) fun ⟨other, _⟩ => absurd other (by simp)
  | sta => exact iff_of_true (sta_stringsKept record) fun ⟨other, _⟩ => absurd other (by simp)
  | tcpClient =>
    constructor
    · rintro ⟨-, kept⟩ ⟨-, declared, member, short, nul, host, port⟩
      have rejected := (kept ⟨declared, member, nul⟩).1
      obtain rfl := List.mem_singleton.mp member
      exact absurd (rejected.symm.trans (tcpRecordUnpack_eq_some_iff.mpr ⟨short, host, port, rfl⟩))
        (by simp)
    · intro whole
      refine stringsKept_of_unpack fun config unpacked => ?_
      obtain ⟨short, host, port, -⟩ := tcpRecordUnpack_eq_some_iff.mp unpacked
      have clean : (0 : UInt8) ∉ (declaredAt record 1).bytes := fun nul =>
        whole ⟨rfl, _, List.mem_singleton_self _, short, nul, host, port⟩
      exact ⟨congrArg (fun len => [len]) (tcpRecordUnpack_strlen unpacked clean),
        List.forall_mem_singleton.mpr clean⟩

/-- A record of the TCP client whose five declared bytes start with a NUL. -/
def nulHostRecord : CharArray tcpRecordLen :=
  .ofBytes _ ([1, 5, 0, 0x61, 0x62, 0x63, 0x64] ++ List.replicate 10 0 ++ [0x7E, 0x27])

/-- Its host is loaded as the blank one, which stands for the gateway. -/
theorem nulHostRecord_shortened :
    (bridgeConfigSettingsSet sampleBuild.defaults (storedLoad ['t', 'c', 'p'] nulHostRecord.bytes)).1
        .tcpClient = ⟨true, .ofBytes _ [0, 0x61, 0x62, 0x63, 0x64], 10110⟩ ∧
      (CharArray.ofBytes 16 [0, 0x61, 0x62, 0x63, 0x64]).str = [] ∧
      ¬ StringsKept .tcpClient nulHostRecord := by
  refine ⟨by decide, by decide, fun kept => ?_⟩
  have rejected := (kept.2 ⟨declaredAt nulHostRecord 1, List.mem_singleton_self _, by decide⟩).1
  exact absurd rejected (by decide)

end EspNmeaBridge
