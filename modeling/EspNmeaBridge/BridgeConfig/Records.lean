/-
# Configuration structs and their stored records

The fields of a group travel in one record of fixed size. A record that was packed
from an accepted configuration unpacks to the same values. The values are what the
consumers read: flags, numbers and C strings, not the bytes behind a terminator.
-/

import EspNmeaBridge.BridgeConfig.Validators

namespace EspNmeaBridge

open CString

/-- The MMSI of the own vessel is used while the filter is enabled. -/
structure BridgeConfigAis where
  filterEnabled : Bool
  ownMmsi : UInt32
  deriving DecidableEq, Repr

/-- The network that the station joins; an empty PSK is an open network. -/
structure BridgeConfigSta where
  enabled : Bool
  rotateMac : Bool
  ssid : CharArray (bridgeConfigWifiSsidMax + 1)
  psk : CharArray (bridgeConfigWifiPskMax + 1)
  deriving DecidableEq, Repr

/-- The network of the access point. Its SSID is never empty. -/
structure BridgeConfigAp where
  ssid : CharArray (bridgeConfigWifiSsidMax + 1)
  psk : CharArray (bridgeConfigWifiPskMax + 1)
  deriving DecidableEq, Repr

/-- One label, under which the device is found by mDNS. -/
structure BridgeConfigSystem where
  hostname : CharArray (bridgeConfigHostnameMax + 1)
  deriving DecidableEq, Repr

/-- Where the outbound client connects to; an empty host stands for the station's gateway. -/
structure BridgeConfigTcpClient where
  enabled : Bool
  host : CharArray (bridgeConfigTcpClientHostMax + 1)
  port : UInt16
  deriving DecidableEq, Repr

/-! ## Pieces of a record -/

/-- A flag is stored as 1; any byte but 0 is read back as set. -/
def flag (b : Bool) : UInt8 := if b then 1 else 0

/-- Native byte order is little-endian. -/
def nativeBytes32 (x : UInt32) : List UInt8 :=
  [.ofNat x.toNat, .ofNat (x.toNat / 2 ^ 8), .ofNat (x.toNat / 2 ^ 16), .ofNat (x.toNat / 2 ^ 24)]

/-- The number that a copy of its bytes gives. -/
def ofNativeBytes32 : List UInt8 → UInt32
  | [a, b, c, d] =>
    .ofNat (a.toNat + 2 ^ 8 * b.toNat + 2 ^ 16 * c.toNat + 2 ^ 24 * d.toNat)
  | _ => 0

/-- Ports are copied as they lie in memory. -/
def nativeBytes16 (x : UInt16) : List UInt8 := [.ofNat x.toNat, .ofNat (x.toNat / 2 ^ 8)]

def ofNativeBytes16 : List UInt8 → UInt16
  | [a, b] => .ofNat (a.toNat + 2 ^ 8 * b.toNat)
  | _ => 0

/-- A text at the head of zeroed bytes. -/
def field (n : ℕ) (text : List UInt8) : List UInt8 := (CharArray.ofBytes n text).bytes

@[simp] theorem flag_ne_zero (b : Bool) : (flag b != 0) = b := by cases b <;> rfl

/-- Copying a number into a record and out again keeps it. -/
@[simp] theorem ofNativeBytes32_nativeBytes32 (x : UInt32) :
    ofNativeBytes32 (nativeBytes32 x) = x := by
  have bound := x.toNat_lt
  simp only [ofNativeBytes32, nativeBytes32, ← UInt32.toNat_inj, UInt8.toNat_ofNat',
    UInt32.toNat_ofNat']
  omega

@[simp] theorem ofNativeBytes16_nativeBytes16 (x : UInt16) :
    ofNativeBytes16 (nativeBytes16 x) = x := by
  have bound := x.toNat_lt
  simp only [ofNativeBytes16, nativeBytes16, ← UInt16.toNat_inj, UInt8.toNat_ofNat',
    UInt16.toNat_ofNat']
  omega

@[simp] theorem length_field (n : ℕ) (text : List UInt8) : (field n text).length = n :=
  (CharArray.ofBytes n text).size_eq

theorem field_eq {n : ℕ} {text : List UInt8} (fits : text.length ≤ n) :
    field n text = text ++ List.replicate (n - text.length) 0 :=
  CharArray.bytes_ofBytes fits

/-- A length below 256 survives its byte. -/
theorem toNat_ofNat_strlen {n : ℕ} (a : CharArray n) (small : n < 256) :
    (UInt8.ofNat a.strlen).toNat = a.strlen := by
  have bound := a.strlen_le
  rw [UInt8.toNat_ofNat', Nat.mod_eq_of_lt (by omega)]

/-! ## Records -/

/-- Length and layout of the records: the offsets follow from the capacities of the strings,
each of which stands behind a byte for its length. -/
def aisRecordLen : ℕ := 5

def staRecordSsidOff : ℕ := 3
def staRecordPskLenOff : ℕ := staRecordSsidOff + bridgeConfigWifiSsidMax
def staRecordPskOff : ℕ := staRecordPskLenOff + 1
def staRecordLen : ℕ := staRecordPskOff + bridgeConfigWifiPskMax

def apRecordSsidOff : ℕ := 1
def apRecordPskLenOff : ℕ := apRecordSsidOff + bridgeConfigWifiSsidMax
def apRecordPskOff : ℕ := apRecordPskLenOff + 1
def apRecordLen : ℕ := apRecordPskOff + bridgeConfigWifiPskMax

def sysRecordHostnameOff : ℕ := 1
def sysRecordLen : ℕ := sysRecordHostnameOff + bridgeConfigHostnameMax

def tcpRecordHostOff : ℕ := 2
def tcpRecordPortOff : ℕ := tcpRecordHostOff + bridgeConfigTcpClientHostMax
def tcpRecordLen : ℕ := tcpRecordPortOff + 2

/-- `[0]` enabled flag, `[1..4]` own MMSI. -/
def aisRecordPack (src : BridgeConfigAis) : CharArray aisRecordLen :=
  .ofBytes _ (flag src.filterEnabled :: nativeBytes32 src.ownMmsi)

/-- It has nothing to check; the range of the MMSI is checked where the record is loaded. -/
def aisRecordUnpack (record : CharArray aisRecordLen) : BridgeConfigAis where
  filterEnabled := record.byteAt 0 != 0
  ownMmsi := ofNativeBytes32 (record.slice 1 4)

/-- `[0]` enabled, `[1]` rotate_mac, `[2]` ssid_len, `[3..34]` ssid, `[35]` psk_len,
`[36..98]` psk. -/
def staRecordPack (src : BridgeConfigSta) : CharArray staRecordLen :=
  .ofBytes _ ([flag src.enabled, flag src.rotateMac, .ofNat src.ssid.strlen] ++
    field bridgeConfigWifiSsidMax src.ssid.str ++ [.ofNat src.psk.strlen] ++
    field bridgeConfigWifiPskMax src.psk.str)

/-- No PSK, or one that WPA2 can use. -/
def pskLenOk (len : ℕ) : Bool :=
  len == 0 || (bridgeConfigWifiPskMin ≤ len && len ≤ bridgeConfigWifiPskMax)

/-- Lengths are checked in front of the copy; behind it the strings are compared with them, so
that a NUL inside shortens none. -/
def staRecordUnpack (record : CharArray staRecordLen) : Option BridgeConfigSta :=
  let ssidLen := (record.byteAt 2).toNat
  let pskLen := (record.byteAt staRecordPskLenOff).toNat
  if bridgeConfigWifiSsidMax < ssidLen ∨ !pskLenOk pskLen then none
  else
    let dst : BridgeConfigSta :=
      { enabled := record.byteAt 0 != 0
        rotateMac := record.byteAt 1 != 0
        ssid := .ofBytes _ (record.slice staRecordSsidOff ssidLen)
        psk := .ofBytes _ (record.slice staRecordPskOff pskLen) }
    if dst.ssid.strlen = ssidLen ∧ dst.psk.strlen = pskLen ∧
        bridgeConfigTextValid dst.ssid.bytes = some true then some dst
    else none

/-- `[0]` ssid_len, `[1..32]` ssid, `[33]` psk_len, `[34..96]` psk. -/
def apRecordPack (src : BridgeConfigAp) : CharArray apRecordLen :=
  .ofBytes _ ([.ofNat src.ssid.strlen] ++ field bridgeConfigWifiSsidMax src.ssid.str ++
    [.ofNat src.psk.strlen] ++ field bridgeConfigWifiPskMax src.psk.str)

/-- As for the station, but the SSID has at least one byte. -/
def apRecordUnpack (record : CharArray apRecordLen) : Option BridgeConfigAp :=
  let ssidLen := (record.byteAt 0).toNat
  let pskLen := (record.byteAt apRecordPskLenOff).toNat
  if ssidLen = 0 ∨ bridgeConfigWifiSsidMax < ssidLen ∨ !pskLenOk pskLen then none
  else
    let dst : BridgeConfigAp :=
      { ssid := .ofBytes _ (record.slice apRecordSsidOff ssidLen)
        psk := .ofBytes _ (record.slice apRecordPskOff pskLen) }
    if dst.ssid.strlen = ssidLen ∧ dst.psk.strlen = pskLen ∧
        bridgeConfigTextValid dst.ssid.bytes = some true then some dst
    else none

/-- `[0]` hostname_len, `[1..32]` hostname. -/
def sysRecordPack (src : BridgeConfigSystem) : CharArray sysRecordLen :=
  .ofBytes _ ([.ofNat src.hostname.strlen] ++ field bridgeConfigHostnameMax src.hostname.str)

/-- The hostname is checked as a setter checks it, which includes that it is not empty. -/
def sysRecordUnpack (record : CharArray sysRecordLen) : Option BridgeConfigSystem :=
  let hostnameLen := (record.byteAt 0).toNat
  if bridgeConfigHostnameMax < hostnameLen then none
  else
    let dst : BridgeConfigSystem :=
      { hostname := .ofBytes _ (record.slice sysRecordHostnameOff hostnameLen) }
    if dst.hostname.strlen = hostnameLen ∧
        bridgeConfigHostnameValid dst.hostname.bytes = some true then some dst
    else none

/-- `[0]` enabled, `[1]` host_len, `[2..16]` host, `[17..18]` port. -/
def tcpRecordPack (src : BridgeConfigTcpClient) : CharArray tcpRecordLen :=
  .ofBytes _ ([flag src.enabled, .ofNat src.host.strlen] ++
    field bridgeConfigTcpClientHostMax src.host.str ++ nativeBytes16 src.port)

/-- Unlike the others it does not compare the length byte with the string. -/
def tcpRecordUnpack (record : CharArray tcpRecordLen) : Option BridgeConfigTcpClient :=
  let hostLen := (record.byteAt 1).toNat
  if bridgeConfigTcpClientHostMax < hostLen then none
  else
    let dst : BridgeConfigTcpClient :=
      { enabled := record.byteAt 0 != 0
        host := .ofBytes _ (record.slice tcpRecordHostOff hostLen)
        port := ofNativeBytes16 (record.slice tcpRecordPortOff 2) }
    if bridgeConfigTcpClientHostValid dst.host.bytes = some true ∧ dst.port ≠ 0 then some dst
    else none

/-! ## What a setter accepts

The checks of the five setters on their argument. -/

/-- The largest MMSI has nine digits. -/
def aisAccepts (next : BridgeConfigAis) : Bool := next.ownMmsi ≤ bridgeConfigAisMmsiMax

/-- Here and below, a string has its terminator inside its array. -/
def tcpClientAccepts (next : BridgeConfigTcpClient) : Bool :=
  next.host.terminated && bridgeConfigTcpClientHostValid next.host.bytes == some true &&
    next.port != 0

/-- Both strings end, the SSID is UTF-8 text, and the PSK has a usable length or is absent. -/
def staAccepts (next : BridgeConfigSta) : Bool :=
  next.ssid.terminated && next.psk.terminated &&
    bridgeConfigTextValid next.ssid.bytes == some true && pskLenOk next.psk.strlen

/-- An access point without a name is refused. -/
def apAccepts (next : BridgeConfigAp) : Bool :=
  next.ssid.terminated && next.psk.terminated &&
    bridgeConfigTextValid next.ssid.bytes == some true &&
    next.ssid.strlen != 0 && pskLenOk next.psk.strlen

/-- The checks are those of the unpacker. -/
def systemAccepts (next : BridgeConfigSystem) : Bool :=
  next.hostname.terminated && bridgeConfigHostnameValid next.hostname.bytes == some true

/-! ## Round trips -/

/-- What the consumers read of each group. Setters compare these values, and a record round trip
keeps them. -/
def BridgeConfigAis.value (config : BridgeConfigAis) : Bool × UInt32 :=
  (config.filterEnabled, config.ownMmsi)

def BridgeConfigSta.value (config : BridgeConfigSta) : Bool × Bool × List UInt8 × List UInt8 :=
  (config.enabled, config.rotateMac, config.ssid.str, config.psk.str)

def BridgeConfigAp.value (config : BridgeConfigAp) : List UInt8 × List UInt8 :=
  (config.ssid.str, config.psk.str)

def BridgeConfigSystem.value (config : BridgeConfigSystem) : List UInt8 := config.hostname.str

def BridgeConfigTcpClient.value (config : BridgeConfigTcpClient) : Bool × List UInt8 × UInt16 :=
  (config.enabled, config.host.str, config.port)

/-- The bytes of a record, when its pieces fill it. -/
theorem bytes_ofBytes_full {n : ℕ} {pieces : List UInt8} (full : pieces.length = n) :
    (CharArray.ofBytes n pieces).bytes = pieces := by
  rw [CharArray.bytes_ofBytes full.le, full]
  simp

/-- A string behind its length byte reads back, wherever it stands in the record. -/
theorem read_field {k n i : ℕ} {record : CharArray k} {a : CharArray (n + 1)}
    (front rest : List UInt8) (ended : a.terminated = true) (small : n + 1 < 256)
    (bytes : record.bytes = front ++ (.ofNat a.strlen :: (field n a.str ++ rest)))
    (index : front.length = i) :
    (record.byteAt i).toNat = a.strlen ∧ record.slice (i + 1) a.strlen = a.str := by
  have fits := CharArray.strlen_lt_of_terminated ended
  constructor
  · rw [CharArray.byteAt_eq bytes index, toNat_ofNat_strlen a small]
  · rw [field_eq (Nat.le_of_lt_succ fits), List.append_assoc, ← List.singleton_append,
      ← List.append_assoc] at bytes
    exact CharArray.slice_eq bytes (by simp [index])

theorem aisRecordUnpack_pack (src : BridgeConfigAis) :
    aisRecordUnpack (aisRecordPack src) = src := by
  have bytes : (aisRecordPack src).bytes = flag src.filterEnabled :: nativeBytes32 src.ownMmsi :=
    bytes_ofBytes_full rfl
  have mmsi : (aisRecordPack src).slice 1 4 = nativeBytes32 src.ownMmsi := by
    simp [CharArray.slice, bytes, nativeBytes32]
  simp [aisRecordUnpack, CharArray.byteAt, bytes, mmsi]

/-- What a setter accepted is read back from its record with the same value. -/
theorem staRecordUnpack_pack {src : BridgeConfigSta} (accepted : staAccepts src = true) :
    ∃ dst, staRecordUnpack (staRecordPack src) = some dst ∧ dst.value = src.value := by
  simp only [staAccepts, Bool.and_eq_true, beq_iff_eq] at accepted
  obtain ⟨⟨⟨ssidEnds, pskEnds⟩, text⟩, pskOk⟩ := accepted
  have ssidFits := CharArray.strlen_lt_of_terminated ssidEnds
  obtain ⟨ssidSame, ssidCount, ssidEnds'⟩ := src.ssid.ofBytes_str ssidFits
  obtain ⟨pskSame, pskCount, -⟩ :=
    src.psk.ofBytes_str (CharArray.strlen_lt_of_terminated pskEnds)
  -- The parts fill the record exactly; each field is then read back at its offset.
  have bytes : (staRecordPack src).bytes = _ := bytes_ofBytes_full (by simp; rfl)
  have enabled : (staRecordPack src).byteAt 0 = flag src.enabled := by
    simp [CharArray.byteAt, bytes]
  have rotateMac : (staRecordPack src).byteAt 1 = flag src.rotateMac := by
    simp [CharArray.byteAt, bytes]
  have ssid : ((staRecordPack src).byteAt 2).toNat = src.ssid.strlen ∧
      (staRecordPack src).slice staRecordSsidOff src.ssid.strlen = src.ssid.str :=
    read_field [flag src.enabled, flag src.rotateMac]
      (.ofNat src.psk.strlen :: field bridgeConfigWifiPskMax src.psk.str) ssidEnds (by decide)
      (bytes.trans (by simp)) rfl
  have psk : ((staRecordPack src).byteAt staRecordPskLenOff).toNat = src.psk.strlen ∧
      (staRecordPack src).slice staRecordPskOff src.psk.strlen = src.psk.str :=
    read_field ([flag src.enabled, flag src.rotateMac, .ofNat src.ssid.strlen] ++
      field bridgeConfigWifiSsidMax src.ssid.str) [] pskEnds (by decide)
      (bytes.trans (by simp)) (by simp; rfl)
  refine ⟨{ src with ssid := .ofBytes _ src.ssid.str, psk := .ofBytes _ src.psk.str }, ?_, ?_⟩
  · -- The text check sees the copy as it saw the original.
    have valid := (valid_congr ssidEnds ssidEnds' ssidSame.symm).1
    have small : ¬ bridgeConfigWifiSsidMax < src.ssid.strlen := by omega
    simp [staRecordUnpack, enabled, rotateMac, ssid, psk, small, pskOk, ← valid, text, ssidCount,
      pskCount]
  · simp [BridgeConfigSta.value, ssidSame, pskSame]

theorem apRecordUnpack_pack {src : BridgeConfigAp} (accepted : apAccepts src = true) :
    ∃ dst, apRecordUnpack (apRecordPack src) = some dst ∧ dst.value = src.value := by
  simp only [apAccepts, Bool.and_eq_true, beq_iff_eq, bne_iff_ne] at accepted
  obtain ⟨⟨⟨⟨ssidEnds, pskEnds⟩, text⟩, nonempty⟩, pskOk⟩ := accepted
  have ssidFits := CharArray.strlen_lt_of_terminated ssidEnds
  obtain ⟨ssidSame, ssidCount, ssidEnds'⟩ := src.ssid.ofBytes_str ssidFits
  obtain ⟨pskSame, pskCount, -⟩ :=
    src.psk.ofBytes_str (CharArray.strlen_lt_of_terminated pskEnds)
  have bytes : (apRecordPack src).bytes = _ := bytes_ofBytes_full (by simp; rfl)
  have ssid : ((apRecordPack src).byteAt 0).toNat = src.ssid.strlen ∧
      (apRecordPack src).slice apRecordSsidOff src.ssid.strlen = src.ssid.str :=
    read_field [] (.ofNat src.psk.strlen :: field bridgeConfigWifiPskMax src.psk.str) ssidEnds
      (by decide) (bytes.trans (by simp)) rfl
  have psk : ((apRecordPack src).byteAt apRecordPskLenOff).toNat = src.psk.strlen ∧
      (apRecordPack src).slice apRecordPskOff src.psk.strlen = src.psk.str :=
    read_field (.ofNat src.ssid.strlen :: field bridgeConfigWifiSsidMax src.ssid.str) [] pskEnds
      (by decide) (bytes.trans (by simp)) (by simp; rfl)
  refine ⟨⟨.ofBytes _ src.ssid.str, .ofBytes _ src.psk.str⟩, ?_, ?_⟩
  · have valid := (valid_congr ssidEnds ssidEnds' ssidSame.symm).1
    have small : ¬ bridgeConfigWifiSsidMax < src.ssid.strlen := by omega
    simp [apRecordUnpack, ssid, psk, nonempty, small, pskOk, ← valid, text, ssidCount, pskCount]
  · simp [BridgeConfigAp.value, ssidSame, pskSame]

theorem sysRecordUnpack_pack {src : BridgeConfigSystem} (accepted : systemAccepts src = true) :
    ∃ dst, sysRecordUnpack (sysRecordPack src) = some dst ∧ dst.value = src.value := by
  simp only [systemAccepts, Bool.and_eq_true, beq_iff_eq] at accepted
  obtain ⟨ends, label⟩ := accepted
  have fits := CharArray.strlen_lt_of_terminated ends
  obtain ⟨same, count, ends'⟩ := src.hostname.ofBytes_str fits
  have bytes : (sysRecordPack src).bytes = _ := bytes_ofBytes_full (by simp; rfl)
  have hostname : ((sysRecordPack src).byteAt 0).toNat = src.hostname.strlen ∧
      (sysRecordPack src).slice sysRecordHostnameOff src.hostname.strlen = src.hostname.str :=
    read_field [] [] ends (by decide) (bytes.trans (by simp)) rfl
  refine ⟨⟨.ofBytes _ src.hostname.str⟩, ?_, same⟩
  have valid := (valid_congr ends ends' same.symm).2.2
  have small : ¬ bridgeConfigHostnameMax < src.hostname.strlen := by omega
  simp [sysRecordUnpack, hostname, small, ← valid, label, count]

/-- A packed host has no NUL inside, so the comparison that is missing here is not missed. -/
theorem tcpRecordUnpack_pack {src : BridgeConfigTcpClient}
    (accepted : tcpClientAccepts src = true) :
    ∃ dst, tcpRecordUnpack (tcpRecordPack src) = some dst ∧ dst.value = src.value := by
  simp only [tcpClientAccepts, Bool.and_eq_true, beq_iff_eq, bne_iff_ne] at accepted
  obtain ⟨⟨ends, valid⟩, port⟩ := accepted
  have fits := CharArray.strlen_lt_of_terminated ends
  obtain ⟨same, -, ends'⟩ := src.host.ofBytes_str fits
  have bytes : (tcpRecordPack src).bytes = _ := bytes_ofBytes_full (by simp [nativeBytes16]; rfl)
  have enabled : (tcpRecordPack src).byteAt 0 = flag src.enabled := by
    simp [CharArray.byteAt, bytes]
  have host : ((tcpRecordPack src).byteAt 1).toNat = src.host.strlen ∧
      (tcpRecordPack src).slice tcpRecordHostOff src.host.strlen = src.host.str :=
    read_field [flag src.enabled] (nativeBytes16 src.port) ends (by decide)
      (bytes.trans (by simp)) rfl
  -- The port has a fixed width and no length byte, so it is sliced directly.
  have number : (tcpRecordPack src).slice tcpRecordPortOff 2 = nativeBytes16 src.port := by
    have split : (tcpRecordPack src).bytes =
        ([flag src.enabled, .ofNat src.host.strlen] ++
          field bridgeConfigTcpClientHostMax src.host.str) ++ (nativeBytes16 src.port ++ []) :=
      bytes.trans (by simp)
    exact CharArray.slice_eq split (by simp; rfl)
  refine ⟨{ src with host := .ofBytes _ src.host.str }, ?_, ?_⟩
  · have accepted := (valid_congr ends ends' same.symm).2.1
    have small : ¬ bridgeConfigTcpClientHostMax < src.host.strlen := by omega
    simp [tcpRecordUnpack, enabled, host, number, small, ← accepted, valid, port]
  · simp [BridgeConfigTcpClient.value, same]

end EspNmeaBridge
