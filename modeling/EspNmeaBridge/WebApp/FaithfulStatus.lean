/-
# The status JSON is complete and faithful

The status page is one object with objects in it, printed with one format string. Whatever
the counters are, it fits its buffer, and a JSON parser gets every value back: an address or
a signal strength that is not known as `null`, the last error as it was cut to its buffer.
-/

import EspNmeaBridge.WebApp.FaithfulJson
import EspNmeaBridge.WebApp.StatusJson

namespace EspNmeaBridge

open CString

/-! ## Members with an object as value -/

/-- An object inside another. -/
def objectMember (name : String) (members : List Json.Member) : Json.Member where
  name := name.toList
  text := Json.writeObject members
  value := .object (members.map fun m => (m.name, m.value))

/-- What stands for a value that is not known. -/
def nullMember (name : String) : Json.Member where
  name := name.toList
  text := "null".toList
  value := .null

/-- The format `%d`. -/
def intMember (name : String) (n : ℤ) : Json.Member where
  name := name.toList
  text := if n < 0 then '-' :: Nat.toDigits 10 n.natAbs else Nat.toDigits 10 n.toNat
  value := .number n

/-- The member is read back, given fuel for what is nested in it, and written as these bytes. -/
structure ShowsFrom (least : ℕ) (member : Json.Member) (bytes : List UInt8) : Prop where
  readable : member.ReadableFrom least
  encoded : member.written.flatMap String.utf8EncodeChar = bytes

section Members

variable {name : String} {member : Json.Member} {bytes : List UInt8} {least more : ℕ}
  {members : List Json.Member} {pieces : List (List UInt8)}

theorem Shows.showsFrom (shows : Shows member bytes) (least : ℕ) : ShowsFrom least member bytes :=
  ⟨shows.readable.readableFrom least, shows.encoded⟩

/-- More fuel does no harm. -/
theorem ShowsFrom.mono (shows : ShowsFrom least member bytes) (le : least ≤ more) :
    ShowsFrom more member bytes :=
  ⟨⟨shows.readable.plain, shows.readable.reads.mono le⟩, shows.encoded⟩

/-- The scalars of a status that a configuration does not have: null and signed numbers. -/
theorem nullMember_shows (plain : plainName name = true) :
    Shows (nullMember name) (ascii ("\"" ++ name ++ "\":") ++ ascii "null") := by
  refine ⟨⟨quotes_plainName plain, Json.reads_null⟩, ?_⟩
  rw [nullMember, encode_written plain, Utf8.encode_ascii (by simp)]
  rfl

/-- The digits of a number are one byte each. -/
theorem encode_toDigits (n : ℕ) :
    (Nat.toDigits 10 n).flatMap String.utf8EncodeChar = decimal n := by
  rw [decimal, Utf8.encode_ascii]
  intro c inside
  exact (Char.isDigit_iff_toNat.mp (Json.isDigit_of_mem_decimal c inside)).2.trans_lt (by decide)

theorem intMember_shows (plain : plainName name = true) (n : ℤ) :
    Shows (intMember name n) (ascii ("\"" ++ name ++ "\":") ++ signedDecimal n) := by
  rcases lt_or_ge n 0 with negative | positive
  · have value : (n : ℚ) = -(n.natAbs : ℚ) := by
      rw [← Int.cast_natCast (R := ℚ), Int.ofNat_natAbs_of_nonpos negative.le]
      simp
    refine ⟨⟨quotes_plainName plain, ?_⟩, ?_⟩
    · simp only [intMember, negative, if_true, value]
      exact Json.reads_neg _
    · simp only [intMember, negative, if_true, signedDecimal]
      rw [encode_written plain, List.flatMap_cons, encode_toDigits]
      rfl
  · have natural : ¬ n < 0 := not_lt.mpr positive
    have value : (n : ℚ) = (n.toNat : ℚ) := by
      rw [← Int.cast_natCast (R := ℚ), Int.toNat_of_nonneg positive]
    refine ⟨⟨quotes_plainName plain, ?_⟩, ?_⟩
    · simp only [intMember, natural, if_false, value]
      exact Json.reads_nat _
    · simp only [intMember, natural, if_false, signedDecimal]
      rw [encode_written plain, encode_toDigits]

/-- Every member of one list shows the piece at its place in the other. -/
theorem readable_of_forall₂ {P : Json.Member → Prop} {R : Json.Member → List UInt8 → Prop}
    (shows : List.Forall₂ R members pieces) (readable : ∀ m bytes, R m bytes → P m) :
    ∀ m ∈ members, P m := by
  induction shows with
  | nil => simp
  | cons first _ ih => exact List.forall_mem_cons.mpr ⟨readable _ _ first, ih⟩

/-- Written and encoded, the members are the pieces with commas between them, in braces. -/
theorem encode_writeObject (shows : List.Forall₂ (ShowsFrom least) members pieces) :
    (Json.writeObject members).flatMap String.utf8EncodeChar =
      ascii "\x7b" ++ (ascii ",").intercalate pieces ++ ascii "\x7d" := by
  have between : (Json.writeMembers members).flatMap String.utf8EncodeChar =
      (ascii ",").intercalate pieces := by
    induction shows with
    | nil => rfl
    | @cons member piece members pieces first others ih =>
      cases others with
      | nil => simp [Json.writeMembers, first.encoded]
      | cons second others =>
        rw [Json.writeMembers, List.flatMap_append, List.flatMap_cons, first.encoded, ih,
          List.intercalate_cons_cons, List.append_assoc]
        rfl
  rw [Json.writeObject, List.flatMap_cons, List.flatMap_append, between, List.append_assoc]
  rfl

/-- The written members in braces are parsed, also with blanks behind them. -/
theorem parse_pieces (shows : List.Forall₂ (ShowsFrom least) members pieces)
    (nonempty : members ≠ []) (few : least ≤ members.length + 3) (blanks : List Char)
    (blank : ∀ c ∈ blanks, Json.isSpace c = true) :
    Json.parseUtf8 (ascii "\x7b" ++ (ascii ",").intercalate pieces ++ ascii "\x7d" ++
        blanks.flatMap String.utf8EncodeChar) =
      some (.object (members.map fun m => (m.name, m.value))) := by
  have long := Json.length_le_writeMembers members
  have reads := Json.readsFrom_writeObject nonempty
    (readable_of_forall₂ shows fun _ _ h => h.readable)
  rw [← encode_writeObject shows, ← List.flatMap_append, Json.parseUtf8_encode]
  refine Json.parse_of_readsFrom reads ?_ blank
  simp only [Json.writeObject, List.length_cons, List.length_append, List.length_nil]
  omega

/-- An object of members that are no objects. -/
theorem objectMember_shows (plain : plainName name = true)
    (shows : List.Forall₂ Shows members pieces) (nonempty : members ≠ []) :
    ShowsFrom (members.length + 1) (objectMember name members)
      (ascii ("\"" ++ name ++ "\":") ++
        (ascii "\x7b" ++ (ascii ",").intercalate pieces ++ ascii "\x7d")) := by
  have flat : List.Forall₂ (ShowsFrom 0) members pieces := shows.imp fun _ _ h => h.showsFrom 0
  refine ⟨⟨quotes_plainName plain, Json.readsFrom_writeObject nonempty
    (readable_of_forall₂ flat fun _ _ h => h.readable)⟩, ?_⟩
  rw [objectMember, encode_written plain, encode_writeObject flat]

end Members

/-! ## The object -/

/-- The characters of the strings in a status. -/
structure StatusTexts where
  version : List Char
  ip : List Char
  lastError : List Char

/-- Byte for byte, the strings are those of the status, the error as it was cut. -/
structure StatusTexts.Of (texts : StatusTexts) (appVersion : String)
    (snapshot : BridgeTelemetrySnapshot) (otaStatus : OtaUpdateStatus) (errnoCode : Errno → ℕ) :
    Prop where
  version : ascii appVersion = texts.version.flatMap String.utf8EncodeChar
  ip : snapshot.staIpv4.str = texts.ip.flatMap String.utf8EncodeChar
  lastError : lastErrorText errnoCode otaStatus.lastError =
    texts.lastError.flatMap String.utf8EncodeChar

/-- The names that the format takes for the states. -/
def NmeaConnectionState.name : NmeaConnectionState → String
  | .connected => "connected"
  | .disconnected => "disconnected"

def NmeaInputState.name : NmeaInputState → String
  | .active => "active"
  | .idle => "idle"

/-- The values of the snapshot and of the update. -/
def decodedStatus (snapshot : BridgeTelemetrySnapshot) (ota : OtaUpdateStatus)
    (cfg : OtaUploadKconfig) (texts : StatusTexts) : Json.Value :=
  let counters := snapshot.counters
  .object [("firmware_version".toList, .string texts.version),
    ("connection_state".toList, .string snapshot.connectionState.name.toList),
    ("input_state".toList, .string snapshot.inputState.name.toList),
    ("warnings".toList, .object
      [("data_quality".toList, .bool snapshot.warnings.dataQuality),
        ("frame_loss".toList, .bool snapshot.warnings.frameLoss)]),
    ("wifi".toList, .object
      [("sta_ready".toList, .bool snapshot.staReady),
        ("ip".toList, if snapshot.staIpv4.str = [] then .null else .string texts.ip),
        ("rssi".toList, if snapshot.staRssiValid then .number snapshot.staRssiDbm else .null)]),
    ("uart".toList, .object
      [("bytes_rx".toList, .number counters.uartBytesRx.toNat),
        ("frames_rx".toList, .number counters.uartFramesRx.toNat),
        ("overlong_frames".toList, .number counters.uartOverlongFrames.toNat),
        ("ais_self_mmsi_filtered".toList, .number counters.uartAisSelfMmsiFiltered.toNat)]),
    ("bridge".toList, .object
      [("frames_in".toList, .number counters.bridgeFramesIn.toNat),
        ("ingest_dropped_oldest".toList, .number counters.bridgeIngestDroppedOldest.toNat),
        ("sink_dropped_oldest".toList, .number counters.bridgeSinkDroppedOldest.toNat),
        ("publish_no_sinks".toList, .number counters.bridgePublishNoSinks.toNat),
        ("publish_invalid".toList, .number counters.bridgePublishInvalid.toNat),
        ("publish_oversize".toList, .number counters.bridgePublishOversize.toNat)]),
    ("tcp".toList, .object
      [("active_sessions".toList, .number counters.tcpNmeaActiveSessions.toNat)]),
    ("tcp_server".toList, .object
      [("active_peers".toList, .number counters.tcpServerActivePeers.toNat),
        ("max_peers".toList, .number counters.tcpServerMaxPeers.toNat)]),
    ("ota".toList, .object
      [("enabled".toList, .bool ota.enabled),
        ("state".toList, .string (webOtaStateName cfg ota.state).toList),
        ("uploaded_bytes".toList, .number ota.uploadedBytes.toNat),
        ("expected_bytes".toList, .number ota.expectedBytes.toNat),
        ("max_upload_bytes".toList, .number ota.maxUploadBytes.toNat),
        ("upload_allowed".toList, .bool (otaUploadAllowed cfg)),
        ("slot".toList, .number ota.slot.toNat),
        ("confirmed".toList, .bool ota.confirmed),
        ("last_error".toList, .string texts.lastError)])]

/-! ## Writing the object -/

/-- A member that is null while its value is not known. -/
def orNull (known : Bool) (member : Json.Member) (name : String) : Json.Member :=
  if known then member else nullMember name

section Pieces

variable (appVersion : String) (snapshot : BridgeTelemetrySnapshot) (ota : OtaUpdateStatus)
  (cfg : OtaUploadKconfig) (errnoCode : Errno → ℕ) (texts : StatusTexts)

/-- The objects in the status, each as its members and as the pieces of the format. -/
def wifiMembers : List Json.Member :=
  [boolMember "sta_ready" snapshot.staReady,
    orNull (snapshot.staIpv4.byteAt 0 != 0) (stringMember "ip" texts.ip) "ip",
    orNull snapshot.staRssiValid (intMember "rssi" snapshot.staRssiDbm) "rssi"]

def wifiPieces : List (List UInt8) :=
  [ascii "\"sta_ready\":" ++ jsonBool snapshot.staReady,
    ascii "\"ip\":" ++ snprintk (bridgeTelemetryIpv4AddrStrLen + 2)
      (if snapshot.staIpv4.byteAt 0 != 0 then ascii "\"" ++ snapshot.staIpv4.str ++ ascii "\""
        else ascii "null"),
    ascii "\"rssi\":" ++ snprintk 12
      (if snapshot.staRssiValid then signedDecimal snapshot.staRssiDbm else ascii "null")]

def uartMembers : List Json.Member :=
  [numberMember "bytes_rx" snapshot.counters.uartBytesRx.toNat,
    numberMember "frames_rx" snapshot.counters.uartFramesRx.toNat,
    numberMember "overlong_frames" snapshot.counters.uartOverlongFrames.toNat,
    numberMember "ais_self_mmsi_filtered" snapshot.counters.uartAisSelfMmsiFiltered.toNat]

def uartPieces : List (List UInt8) :=
  [ascii "\"bytes_rx\":" ++ decimal snapshot.counters.uartBytesRx.toNat,
    ascii "\"frames_rx\":" ++ decimal snapshot.counters.uartFramesRx.toNat,
    ascii "\"overlong_frames\":" ++ decimal snapshot.counters.uartOverlongFrames.toNat,
    ascii "\"ais_self_mmsi_filtered\":" ++
      decimal snapshot.counters.uartAisSelfMmsiFiltered.toNat]

def bridgeMembers : List Json.Member :=
  [numberMember "frames_in" snapshot.counters.bridgeFramesIn.toNat,
    numberMember "ingest_dropped_oldest" snapshot.counters.bridgeIngestDroppedOldest.toNat,
    numberMember "sink_dropped_oldest" snapshot.counters.bridgeSinkDroppedOldest.toNat,
    numberMember "publish_no_sinks" snapshot.counters.bridgePublishNoSinks.toNat,
    numberMember "publish_invalid" snapshot.counters.bridgePublishInvalid.toNat,
    numberMember "publish_oversize" snapshot.counters.bridgePublishOversize.toNat]

def bridgePieces : List (List UInt8) :=
  [ascii "\"frames_in\":" ++ decimal snapshot.counters.bridgeFramesIn.toNat,
    ascii "\"ingest_dropped_oldest\":" ++
      decimal snapshot.counters.bridgeIngestDroppedOldest.toNat,
    ascii "\"sink_dropped_oldest\":" ++ decimal snapshot.counters.bridgeSinkDroppedOldest.toNat,
    ascii "\"publish_no_sinks\":" ++ decimal snapshot.counters.bridgePublishNoSinks.toNat,
    ascii "\"publish_invalid\":" ++ decimal snapshot.counters.bridgePublishInvalid.toNat,
    ascii "\"publish_oversize\":" ++ decimal snapshot.counters.bridgePublishOversize.toNat]

def otaMembers : List Json.Member :=
  [boolMember "enabled" ota.enabled,
    stringMember "state" (webOtaStateName cfg ota.state).toList,
    numberMember "uploaded_bytes" ota.uploadedBytes.toNat,
    numberMember "expected_bytes" ota.expectedBytes.toNat,
    numberMember "max_upload_bytes" ota.maxUploadBytes.toNat,
    boolMember "upload_allowed" (otaUploadAllowed cfg),
    numberMember "slot" ota.slot.toNat,
    boolMember "confirmed" ota.confirmed,
    stringMember "last_error" texts.lastError]

def otaPieces : List (List UInt8) :=
  [ascii "\"enabled\":" ++ jsonBool ota.enabled,
    ascii "\"state\":\"" ++ ascii (webOtaStateName cfg ota.state) ++ ascii "\"",
    ascii "\"uploaded_bytes\":" ++ decimal ota.uploadedBytes.toNat,
    ascii "\"expected_bytes\":" ++ decimal ota.expectedBytes.toNat,
    ascii "\"max_upload_bytes\":" ++ decimal ota.maxUploadBytes.toNat,
    ascii "\"upload_allowed\":" ++ jsonBool (otaUploadAllowed cfg),
    ascii "\"slot\":" ++ decimal ota.slot.toNat,
    ascii "\"confirmed\":" ++ jsonBool ota.confirmed,
    ascii "\"last_error\":\"" ++
      jsonEscapeString (lastErrorText errnoCode ota.lastError) (otaUpdateLastErrorLen * 2) ++
      ascii "\""]

def statusMembers : List Json.Member :=
  [stringMember "firmware_version" texts.version,
    stringMember "connection_state" snapshot.connectionState.name.toList,
    stringMember "input_state" snapshot.inputState.name.toList,
    objectMember "warnings" [boolMember "data_quality" snapshot.warnings.dataQuality,
      boolMember "frame_loss" snapshot.warnings.frameLoss],
    objectMember "wifi" (wifiMembers snapshot texts),
    objectMember "uart" (uartMembers snapshot),
    objectMember "bridge" (bridgeMembers snapshot),
    objectMember "tcp"
      [numberMember "active_sessions" snapshot.counters.tcpNmeaActiveSessions.toNat],
    objectMember "tcp_server"
      [numberMember "active_peers" snapshot.counters.tcpServerActivePeers.toNat,
        numberMember "max_peers" snapshot.counters.tcpServerMaxPeers.toNat],
    objectMember "ota" (otaMembers ota cfg texts)]

/-- A piece of the format with pieces in it. -/
def objectPiece (name : String) (pieces : List (List UInt8)) : List UInt8 :=
  ascii ("\"" ++ name ++ "\":") ++
    (ascii "\x7b" ++ (ascii ",").intercalate pieces ++ ascii "\x7d")

/-- The pieces of the whole format. -/
def statusPieces : List (List UInt8) :=
  [ascii "\"firmware_version\":\"" ++ ascii appVersion ++ ascii "\"",
    ascii "\"connection_state\":\"" ++ ascii snapshot.connectionState.name ++ ascii "\"",
    ascii "\"input_state\":\"" ++ ascii snapshot.inputState.name ++ ascii "\"",
    objectPiece "warnings" [ascii "\"data_quality\":" ++ jsonBool snapshot.warnings.dataQuality,
      ascii "\"frame_loss\":" ++ jsonBool snapshot.warnings.frameLoss],
    objectPiece "wifi" (wifiPieces snapshot),
    objectPiece "uart" (uartPieces snapshot),
    objectPiece "bridge" (bridgePieces snapshot),
    objectPiece "tcp"
      [ascii "\"active_sessions\":" ++ decimal snapshot.counters.tcpNmeaActiveSessions.toNat],
    objectPiece "tcp_server"
      [ascii "\"active_peers\":" ++ decimal snapshot.counters.tcpServerActivePeers.toNat,
        ascii "\"max_peers\":" ++ decimal snapshot.counters.tcpServerMaxPeers.toNat],
    objectPiece "ota" (otaPieces ota cfg errnoCode)]

/-- The format is the pieces with commas between them, in braces. -/
theorem statusJson_eq_pieces :
    statusJson appVersion snapshot ota cfg errnoCode =
      ascii "\x7b" ++ (ascii ",").intercalate
        (statusPieces appVersion snapshot ota cfg errnoCode) ++ ascii "\x7d" := by
  have connection : (if snapshot.connectionState = .connected then "connected"
      else "disconnected") = snapshot.connectionState.name := by
    cases snapshot.connectionState <;> rfl
  have input : (if snapshot.inputState = .active then "active" else "idle") =
      snapshot.inputState.name := by
    cases snapshot.inputState <;> rfl
  have join (a b : String) : ascii a ++ ascii b = ascii (a ++ b) := (ascii_append a b).symm
  unfold statusJson statusPieces wifiPieces otaPieces
  simp only [connection, input]
  -- The strings stand between the literals, which are one where they meet.
  generalize ascii appVersion = version
  generalize ascii snapshot.connectionState.name = connectionState
  generalize ascii snapshot.inputState.name = inputState
  generalize ascii (webOtaStateName cfg ota.state) = otaState
  generalize snprintk (bridgeTelemetryIpv4AddrStrLen + 2) _ = ip
  generalize snprintk 12 _ = rssi
  simp [List.intercalate, objectPiece, uartPieces, bridgePieces, ascii_append_assoc, join,
    -List.append_cancel_left_eq]

end Pieces

/-! ## Texts -/

/-- What the texts of the version, the network stack and the update module are made of, and
the range of a C `int`. -/
structure PlainStatus (appVersion : String) (snapshot : BridgeTelemetrySnapshot)
    (otaStatus : OtaUpdateStatus) : Prop where
  version : ∀ b ∈ ascii appVersion, PlainByte b
  versionLength : (ascii appVersion).length ≤ 512
  ip : ∀ b ∈ snapshot.staIpv4.str, PlainByte b
  ipEnds : snapshot.staIpv4.str.length < bridgeTelemetryIpv4AddrStrLen
  rssi : snapshot.staRssiDbm.natAbs ≤ 2 ^ 31
  lastError : ∀ error ∈ otaStatus.lastError, ∀ b ∈ ascii error.reason, PlainByte b

section Texts

variable {appVersion : String} {snapshot : BridgeTelemetrySnapshot} {otaStatus : OtaUpdateStatus}
  {errnoCode : Errno → ℕ} {text : List UInt8}

/-- Numbers need no escape. -/
theorem plain_decimal (n : ℕ) : ∀ b ∈ decimal n, PlainByte b := by
  intro b inside
  have digit := digit_of_mem_decimal b inside
  simp only [PlainByte, ne_eq, ← UInt8.toNat_inj, UInt8.le_iff_toNat_le, UInt8.reduceToNat]
    at digit ⊢
  omega

theorem plain_signedDecimal (n : ℤ) : ∀ b ∈ signedDecimal n, PlainByte b := by
  have sign : ∀ b ∈ ascii "-", PlainByte b := by
    rw [show ascii "-" = [0x2D] from rfl]
    simp [PlainByte]
  unfold signedDecimal
  split_ifs
  · exact List.forall_mem_append.mpr ⟨sign, plain_decimal _⟩
  · exact plain_decimal _

/-- The last error, cut as it may be, needs no escape. -/
theorem plain_lastErrorText (errnoCode : Errno → ℕ)
    (plain : ∀ error ∈ otaStatus.lastError, ∀ b ∈ ascii error.reason, PlainByte b) :
    ∀ b ∈ lastErrorText errnoCode otaStatus.lastError, PlainByte b := by
  cases reported : otaStatus.lastError with
  | none => simp [lastErrorText]
  | some error =>
    have brackets : (∀ b ∈ ascii " (", PlainByte b) ∧ ∀ b ∈ ascii ")", PlainByte b := by
      rw [show ascii " (" = [0x20, 0x28] from rfl, show ascii ")" = [0x29] from rfl]
      simp [PlainByte]
    intro b inside
    refine List.forall_mem_append.mpr ⟨List.forall_mem_append.mpr
      ⟨List.forall_mem_append.mpr ⟨plain error (by simp [reported]), brackets.1⟩,
        plain_signedDecimal _⟩, brackets.2⟩ b (List.mem_of_mem_take inside)

/-- The last error fits the field of the status, whatever the reason and the number. -/
theorem length_lastErrorText_le :
    (lastErrorText errnoCode otaStatus.lastError).length ≤ otaUpdateLastErrorLen - 1 := by
  cases otaStatus.lastError with
  | none => exact Nat.zero_le _
  | some error => exact List.length_take_le _ _

/-- A plain text passes the escaping unchanged if it fits. -/
theorem jsonEscapeString_plain (plain : ∀ b ∈ text, PlainByte b)
    (short : text.length ≤ otaUpdateLastErrorLen - 1) :
    jsonEscapeString text (otaUpdateLastErrorLen * 2) = text := by
  rw [otaUpdateLastErrorLen] at short ⊢
  rw [jsonEscapeString_eq (by omega)]
  conv_rhs => rw [← List.flatMap_singleton' text]
  exact List.flatMap_congr fun b inside =>
    escapedByte_plain (plain b inside).1 (plain b inside).2.2.1 (plain b inside).2.2.2

/-- The strings of a status, and how each is written. -/
structure StatusTexts.Written (texts : StatusTexts) (appVersion : String)
    (snapshot : BridgeTelemetrySnapshot) (otaStatus : OtaUpdateStatus) (errnoCode : Errno → ℕ) :
    Prop where
  version : WrittenAs texts.version (ascii appVersion)
  ip : WrittenAs texts.ip snapshot.staIpv4.str
  lastError : WrittenAs texts.lastError
    (jsonEscapeString (lastErrorText errnoCode otaStatus.lastError) (otaUpdateLastErrorLen * 2))

/-- Plain bytes are the encoding of some characters. -/
theorem exists_statusTexts (plain : PlainStatus appVersion snapshot otaStatus)
    (errnoCode : Errno → ℕ) :
    ∃ texts : StatusTexts, texts.Of appVersion snapshot otaStatus errnoCode ∧
      texts.Written appVersion snapshot otaStatus errnoCode := by
  have plainError := plain_lastErrorText errnoCode plain.lastError
  obtain ⟨version, ofVersion, writtenVersion⟩ := exists_written plain.version
  obtain ⟨ip, ofIp, writtenIp⟩ := exists_written plain.ip
  obtain ⟨error, ofError, writtenError⟩ := exists_written plainError
  refine ⟨⟨version, ip, error⟩, ⟨ofVersion, ofIp, ofError⟩, ⟨writtenVersion, writtenIp, ?_⟩⟩
  rwa [jsonEscapeString_plain plainError length_lastErrorText_le]

end Texts

/-! ## Reading the object -/

section Object

variable {appVersion : String} {snapshot : BridgeTelemetrySnapshot} {ota : OtaUpdateStatus}
  {errnoCode : Errno → ℕ} {texts : StatusTexts}

/-- Printed on its own first, a known value keeps its text and an unknown one is null. -/
theorem orNull_shows {name : String} {known : Bool} {member : Json.Member} {bytes : List UInt8}
    (plain : plainName name = true)
    (shows : Shows member (ascii ("\"" ++ name ++ "\":") ++ bytes)) :
    Shows (orNull known member name)
      (ascii ("\"" ++ name ++ "\":") ++ if known then bytes else ascii "null") := by
  cases known
  · exact nullMember_shows plain
  · exact shows

/-- An `int` has at most ten digits and a sign. -/
theorem length_signedDecimal_le {n : ℤ} (int : n.natAbs ≤ 2 ^ 31) :
    (signedDecimal n).length ≤ 11 := by
  have digits : (decimal n.natAbs).length ≤ 10 := decimal_length_le (by decide) (by omega)
  unfold signedDecimal
  split_ifs with negative
  · rw [List.length_append, show (ascii "-").length = 1 from rfl]
    omega
  · rw [show n.toNat = n.natAbs by omega]
    omega

/-- The address and the signal strength fit their buffers. -/
theorem wifiPieces_eq (plain : PlainStatus appVersion snapshot ota) :
    wifiPieces snapshot = [ascii "\"sta_ready\":" ++ jsonBool snapshot.staReady,
      ascii "\"ip\":" ++ (if snapshot.staIpv4.byteAt 0 != 0
        then ascii "\"" ++ snapshot.staIpv4.str ++ ascii "\"" else ascii "null"),
      ascii "\"rssi\":" ++
        (if snapshot.staRssiValid then signedDecimal snapshot.staRssiDbm else ascii "null")] := by
  have address := plain.ipEnds
  have strength := length_signedDecimal_le plain.rssi
  have quote : (ascii "\"").length = 1 := rfl
  have null : (ascii "null").length = 4 := rfl
  rw [wifiPieces, snprintk, List.take_of_length_le, snprintk, List.take_of_length_le]
  · split_ifs <;> omega
  · have size : bridgeTelemetryIpv4AddrStrLen = 16 := rfl
    split_ifs <;> simp only [List.length_append, quote, null] <;> omega

/-- A name is written as it stands. -/
theorem written_plainName {name : String} (plain : plainName name = true) :
    WrittenAs name.toList (ascii name) := by
  have char : ∀ c ∈ name.toList, (c ≠ '"' ∧ c ≠ '\\') ∧ 0x20 ≤ c.toNat ∧ c.toNat < 0x80 := by
    intro c inside
    have plainChar := List.all_eq_true.mp plain c inside
    simp only [Bool.and_eq_true, bne_iff_ne, decide_eq_true_eq] at plainChar
    exact ⟨plainChar.1.1, plainChar.1.2, plainChar.2⟩
  have quoted : name.toList.flatMap jsonQuoted = name.toList := by
    conv_rhs => rw [← List.flatMap_singleton' name.toList]
    exact List.flatMap_congr fun c inside => by
      rw [jsonQuoted, if_neg (not_or.mpr (char c inside).1)]
  refine ⟨fun c inside => (char c inside).2.1, ?_⟩
  rw [quoted, Utf8.encode_ascii fun c inside => (char c inside).2.2]
  rfl

/-- A member whose value is one of the fixed names. -/
theorem stringMember_name {name value : String} (plain : plainName name = true)
    (plainValue : plainName value = true) :
    Shows (stringMember name value.toList)
      (ascii ("\"" ++ name ++ "\":\"") ++ ascii value ++ ascii "\"") :=
  stringMember_shows plain (written_plainName plainValue)

/-- Piece by piece each object is what its members show. -/
theorem wifiMembers_show (plain : PlainStatus appVersion snapshot ota)
    (written : texts.Written appVersion snapshot ota errnoCode) :
    List.Forall₂ Shows (wifiMembers snapshot texts) (wifiPieces snapshot) := by
  have address := stringMember_shows (show plainName "ip" = true by decide) written.ip
  have quote : ascii ("\"" ++ "ip" ++ "\":\"") = ascii ("\"" ++ "ip" ++ "\":") ++ ascii "\"" := rfl
  rw [quote, List.append_assoc, List.append_assoc, ← List.append_assoc (ascii "\"")] at address
  rw [wifiPieces_eq plain]
  exact .cons (boolMember_shows (by decide) _) <| .cons (orNull_shows (by decide) address) <|
    .cons (orNull_shows (by decide) (intMember_shows (by decide) _)) .nil

theorem uartMembers_show (snapshot : BridgeTelemetrySnapshot) :
    List.Forall₂ Shows (uartMembers snapshot) (uartPieces snapshot) :=
  .cons (numberMember_shows (by decide) _) <| .cons (numberMember_shows (by decide) _) <|
    .cons (numberMember_shows (by decide) _) <| .cons (numberMember_shows (by decide) _) .nil

theorem bridgeMembers_show (snapshot : BridgeTelemetrySnapshot) :
    List.Forall₂ Shows (bridgeMembers snapshot) (bridgePieces snapshot) :=
  .cons (numberMember_shows (by decide) _) <| .cons (numberMember_shows (by decide) _) <|
    .cons (numberMember_shows (by decide) _) <| .cons (numberMember_shows (by decide) _) <|
    .cons (numberMember_shows (by decide) _) <| .cons (numberMember_shows (by decide) _) .nil

theorem otaMembers_show (written : texts.Written appVersion snapshot ota errnoCode)
    (cfg : OtaUploadKconfig) :
    List.Forall₂ Shows (otaMembers ota cfg texts) (otaPieces ota cfg errnoCode) := by
  have state : plainName (webOtaStateName cfg ota.state) = true := by
    unfold webOtaStateName
    cases ota.state <;> split_ifs <;> decide
  exact .cons (boolMember_shows (by decide) _) <| .cons (stringMember_name (by decide) state) <|
    .cons (numberMember_shows (by decide) _) <| .cons (numberMember_shows (by decide) _) <|
    .cons (numberMember_shows (by decide) _) <| .cons (boolMember_shows (by decide) _) <|
    .cons (numberMember_shows (by decide) _) <| .cons (boolMember_shows (by decide) _) <|
    .cons (stringMember_shows (by decide) written.lastError) .nil

/-- So is the status, whose objects need fuel for what is in them. -/
theorem statusMembers_show (plain : PlainStatus appVersion snapshot ota)
    (written : texts.Written appVersion snapshot ota errnoCode) (cfg : OtaUploadKconfig) :
    List.Forall₂ (ShowsFrom 10) (statusMembers snapshot ota cfg texts)
      (statusPieces appVersion snapshot ota cfg errnoCode) := by
  have connection : plainName snapshot.connectionState.name = true := by
    cases snapshot.connectionState <;> decide
  have input : plainName snapshot.inputState.name = true := by
    cases snapshot.inputState <;> decide
  have flags : List.Forall₂ Shows [boolMember "data_quality" snapshot.warnings.dataQuality,
      boolMember "frame_loss" snapshot.warnings.frameLoss]
      [ascii "\"data_quality\":" ++ jsonBool snapshot.warnings.dataQuality,
        ascii "\"frame_loss\":" ++ jsonBool snapshot.warnings.frameLoss] :=
    .cons (boolMember_shows (by decide) _) <| .cons (boolMember_shows (by decide) _) .nil
  have peers : List.Forall₂ Shows
      [numberMember "active_peers" snapshot.counters.tcpServerActivePeers.toNat,
        numberMember "max_peers" snapshot.counters.tcpServerMaxPeers.toNat]
      [ascii "\"active_peers\":" ++ decimal snapshot.counters.tcpServerActivePeers.toNat,
        ascii "\"max_peers\":" ++ decimal snapshot.counters.tcpServerMaxPeers.toNat] :=
    .cons (numberMember_shows (by decide) _) <| .cons (numberMember_shows (by decide) _) .nil
  have sessions : List.Forall₂ Shows
      [numberMember "active_sessions" snapshot.counters.tcpNmeaActiveSessions.toNat]
      [ascii "\"active_sessions\":" ++ decimal snapshot.counters.tcpNmeaActiveSessions.toNat] :=
    .cons (numberMember_shows (by decide) _) .nil
  have nested {name : String} {members : List Json.Member} {pieces : List (List UInt8)}
      (plainly : plainName name = true) (shows : List.Forall₂ Shows members pieces)
      (nonempty : members ≠ []) (few : members.length ≤ 9) :
      ShowsFrom 10 (objectMember name members) (objectPiece name pieces) :=
    (objectMember_shows plainly shows nonempty).mono (by omega)
  exact .cons ((stringMember_shows (by decide) written.version).showsFrom _) <|
    .cons ((stringMember_name (by decide) connection).showsFrom _) <|
    .cons ((stringMember_name (by decide) input).showsFrom _) <|
    .cons (nested (by decide) flags (by simp) (by simp)) <|
    .cons (nested (by decide) (wifiMembers_show plain written) (by simp [wifiMembers])
      (by simp [wifiMembers])) <|
    .cons (nested (by decide) (uartMembers_show snapshot) (by simp [uartMembers])
      (by simp [uartMembers])) <|
    .cons (nested (by decide) (bridgeMembers_show snapshot) (by simp [bridgeMembers])
      (by simp [bridgeMembers])) <|
    .cons (nested (by decide) sessions (by simp) (by simp)) <|
    .cons (nested (by decide) peers (by simp) (by simp)) <|
    .cons (nested (by decide) (otaMembers_show written cfg) (by simp [otaMembers])
      (by simp [otaMembers])) .nil

/-- The text of the status is parsed to its members. -/
theorem parse_statusJson (plain : PlainStatus appVersion snapshot ota)
    (written : texts.Written appVersion snapshot ota errnoCode) (cfg : OtaUploadKconfig) :
    Json.parseUtf8 (statusJson appVersion snapshot ota cfg errnoCode) =
      some (.object <|
        (statusMembers snapshot ota cfg texts).map fun m => (m.name, m.value)) := by
  have parsed := parse_pieces (statusMembers_show plain written cfg)
    (List.cons_ne_nil _ _) (by simp [statusMembers]) [] (by simp)
  rwa [List.flatMap_nil, List.append_nil, ← statusJson_eq_pieces] at parsed

/-- The values of the members are those of snapshot and update. -/
theorem statusMembers_values (cfg : OtaUploadKconfig) :
    Json.Value.object ((statusMembers snapshot ota cfg texts).map fun m => (m.name, m.value)) =
      decodedStatus snapshot ota cfg texts := by
  have address : orNull (snapshot.staIpv4.byteAt 0 != 0) (stringMember "ip" texts.ip) "ip" =
      if snapshot.staIpv4.str = [] then nullMember "ip" else stringMember "ip" texts.ip := by
    by_cases none : snapshot.staIpv4.str = []
    · rw [if_pos none, CharArray.byteAt_zero_eq_zero.mpr none]
      rfl
    · rw [if_neg none, psk_shown, decide_eq_true none]
      rfl
  rw [statusMembers, wifiMembers, address]
  unfold decodedStatus orNull
  split_ifs <;> rfl

/-- The longest name of an update state. -/
theorem length_webOtaStateName_le (cfg : OtaUploadKconfig) (state : OtaUpdateState) :
    (ascii (webOtaStateName cfg state)).length ≤ 14 := by
  unfold webOtaStateName
  cases state <;> split_ifs <;> decide

/-- Thirteen counters of ten digits, the texts at their longest and the names: less than the
buffer. -/
theorem length_statusJson_lt (plain : PlainStatus appVersion snapshot ota)
    (cfg : OtaUploadKconfig) :
    (statusJson appVersion snapshot ota cfg errnoCode).length < 1536 := by
  have counter (n : UInt32) : (decimal n.toNat).length ≤ 10 :=
    decimal_length_le (by decide) (n.toNat_lt.trans (by decide))
  have slot : (decimal ota.slot.toNat).length ≤ 3 :=
    decimal_length_le (by decide) (ota.slot.toNat_lt.trans (by decide))
  have version := plain.versionLength
  have error : (jsonEscapeString (lastErrorText errnoCode ota.lastError)
      (otaUpdateLastErrorLen * 2)).length ≤ 95 := by
    rw [jsonEscapeString_plain (plain_lastErrorText _ plain.lastError) length_lastErrorText_le]
    exact length_lastErrorText_le
  have state := length_webOtaStateName_le cfg ota.state
  have connection : (ascii (if snapshot.connectionState = .connected then "connected"
      else "disconnected")).length ≤ 12 := by
    split_ifs <;> decide
  have input : (ascii (if snapshot.inputState = .active then "active" else "idle")).length ≤ 6 := by
    split_ifs <;> decide
  unfold statusJson
  generalize address : snprintk (bridgeTelemetryIpv4AddrStrLen + 2) _ = ip
  have ipFits : ip.length ≤ 17 := address ▸ List.length_take_le _ _
  generalize strength : snprintk 12 _ = rssi
  have rssiFits : rssi.length ≤ 11 := strength ▸ List.length_take_le _ _
  -- The rest is the format itself, the same in every response.
  simp only [List.length_append, ascii, List.length_map, String.reduceToList, List.length_cons,
    List.length_nil] at version state connection input ⊢
  have dataQuality := length_jsonBool_le snapshot.warnings.dataQuality
  have frameLoss := length_jsonBool_le snapshot.warnings.frameLoss
  have staReady := length_jsonBool_le snapshot.staReady
  have enabled := length_jsonBool_le ota.enabled
  have allowed := length_jsonBool_le (otaUploadAllowed cfg)
  have confirmed := length_jsonBool_le ota.confirmed
  have bytesRx := counter snapshot.counters.uartBytesRx
  have framesRx := counter snapshot.counters.uartFramesRx
  have overlong := counter snapshot.counters.uartOverlongFrames
  have filtered := counter snapshot.counters.uartAisSelfMmsiFiltered
  have framesIn := counter snapshot.counters.bridgeFramesIn
  have ingestDropped := counter snapshot.counters.bridgeIngestDroppedOldest
  have sinkDropped := counter snapshot.counters.bridgeSinkDroppedOldest
  have noSinks := counter snapshot.counters.bridgePublishNoSinks
  have invalid := counter snapshot.counters.bridgePublishInvalid
  have oversize := counter snapshot.counters.bridgePublishOversize
  have sessions := counter snapshot.counters.tcpNmeaActiveSessions
  have peers := counter snapshot.counters.tcpServerActivePeers
  have maxPeers := counter snapshot.counters.tcpServerMaxPeers
  have uploaded := counter ota.uploadedBytes
  have expected := counter ota.expectedBytes
  have maxUpload := counter ota.maxUploadBytes
  omega

/-- The response is not replaced by an error, and parses. -/
theorem writeStatusJson_parses {otaStatus : OtaUpdateStatus} (cfg : OtaUploadKconfig)
    (errnoCode : Errno → ℕ)
    (plain : PlainStatus appVersion snapshot (getOtaStatusForJson cfg otaStatus)) :
    let status := getOtaStatusForJson cfg otaStatus
    let body := statusJson appVersion snapshot status cfg errnoCode
    writeStatusJson appVersion snapshot otaStatus cfg errnoCode =
        (⟨"200 OK", "application/json", body⟩, cfg.otaUpdateEnable) ∧
      body.length < webAppJsonBufSize ∧
      ∃ texts : StatusTexts, texts.Of appVersion snapshot status errnoCode ∧
        Json.parseUtf8 body = some (decodedStatus snapshot status cfg texts) := by
  intro status body
  obtain ⟨texts, of, written⟩ := exists_statusTexts plain errnoCode
  have short : body.length < webAppJsonBufSize := length_statusJson_lt plain cfg
  refine ⟨by rw [writeStatusJson, if_neg (Nat.not_le.mpr short)], short, texts, of, ?_⟩
  rw [parse_statusJson plain written, statusMembers_values]

/-- Whatever the counters are, the status fits its buffer and is sent, and a JSON parser gets
its values back, the strings byte for byte. -/
theorem status_json_faithful (appVersion : String) (snapshot : BridgeTelemetrySnapshot)
    (otaStatus : OtaUpdateStatus) (cfg : OtaUploadKconfig) (errnoCode : Errno → ℕ)
    (plain : PlainStatus appVersion snapshot (getOtaStatusForJson cfg otaStatus)) :
    let sent := writeStatusJson appVersion snapshot otaStatus cfg errnoCode
    sent.1.status = "200 OK" ∧ sent.1.body.length < webAppJsonBufSize ∧
      ∃ texts : StatusTexts,
        texts.Of appVersion snapshot (getOtaStatusForJson cfg otaStatus) errnoCode ∧
        Json.parseUtf8 sent.1.body =
          some (decodedStatus snapshot (getOtaStatusForJson cfg otaStatus) cfg texts) := by
  obtain ⟨written, short, parsed⟩ := writeStatusJson_parses cfg errnoCode plain
  intro sent
  rw [show sent = _ from written]
  exact ⟨rfl, short, parsed⟩

/-- A station that is connected, after a write to flash failed. -/
def sampleSnapshot : BridgeTelemetrySnapshot where
  connectionState := .connected
  inputState := .active
  warnings := ⟨false, true⟩
  staReady := true
  staIpv4 := .ofBytes _ (ascii "192.168.4.20")
  staRssiValid := true
  staRssiDbm := -61
  counters := ⟨4294967295, 7, 0, 1, 7, 2, 0, 0, 0, 0, 1, 1, 2⟩

def sampleOtaStatus : OtaUpdateStatus where
  enabled := true
  state := .error
  expectedBytes := 5
  uploadedBytes := 3
  maxUploadBytes := 1000
  slot := 1
  confirmed := true
  lastError := some ⟨"writing OTA image failed", .other 5⟩

theorem status_json_faithful_failedWrite :
    let sent := writeStatusJson "1.0.0" sampleSnapshot sampleOtaStatus ⟨true, true⟩ fun _ => 5
    sent.1.status = "200 OK" ∧ sent.1.body.length < webAppJsonBufSize ∧
      ∃ texts : StatusTexts,
        texts.Of "1.0.0" sampleSnapshot (getOtaStatusForJson ⟨true, true⟩ sampleOtaStatus)
          (fun _ => 5) ∧
        Json.parseUtf8 sent.1.body =
          some (decodedStatus sampleSnapshot
            (getOtaStatusForJson ⟨true, true⟩ sampleOtaStatus) ⟨true, true⟩ texts) := by
  refine status_json_faithful "1.0.0" sampleSnapshot sampleOtaStatus ⟨true, true⟩ (fun _ => 5)
    ⟨?_, by decide, ?_, by decide, by decide, ?_⟩
  · simp only [PlainByte]
    decide +kernel
  · simp only [PlainByte]
    decide +kernel
  · intro error reported
    obtain rfl : error = ⟨"writing OTA image failed", .other 5⟩ := (Option.some.inj reported).symm
    simp only [PlainByte]
    decide +kernel

end Object

end EspNmeaBridge
