/-
# The configuration JSON is complete and faithful

The handler ignores what `snprintk` returns and escapes the SSIDs only. Within the limits
of the configuration neither costs anything: the longest object fits the buffer, and a JSON
parser gets every effective value back. Of a PSK it gets whether there is one.
-/

import EspNmeaBridge.BridgeConfig.ExactStrings
import EspNmeaBridge.BridgeConfig.AlwaysValid
import EspNmeaBridge.Lib.Json
import EspNmeaBridge.WebApp.JsonEscape

namespace EspNmeaBridge

open CString

/-! ## Escaping -/

section Escaping

variable {ch : UInt8} {c : Char}

/-- Other bytes than the quote, the backslash and controls stand for themselves. -/
theorem escapedByte_plain (printable : 0x20 ≤ ch.toNat) (notQuote : ch ≠ 0x22)
    (notBackslash : ch ≠ 0x5c) : escapedByte ch = [ch] := by
  have other (control : UInt8) (low : control.toNat < 0x20) : ch ≠ control := by
    rintro rfl
    omega
  have none : jsonEscape ch = none := by
    simp only [jsonEscape, if_neg notQuote, if_neg notBackslash, if_neg (other 0x08 (by decide)),
      if_neg (other 0x0c (by decide)), if_neg (other 0x0a (by decide)),
      if_neg (other 0x0d (by decide)), if_neg (other 0x09 (by decide))]
  have shown : (0x20 : UInt8) ≤ ch := UInt8.le_iff_toNat_le.mpr printable
  rw [escapedByte, none, Option.getD_none, if_pos shown]

/-- The characters a printable one is escaped to. -/
def jsonQuoted (c : Char) : List Char := if c = '"' ∨ c = '\\' then ['\\', c] else [c]

theorem jsonQuoted_quotes (printable : 0x20 ≤ c.toNat) : Json.Quotes (jsonQuoted c) c := by
  unfold jsonQuoted
  split_ifs with special
  · rcases special with rfl | rfl
    · exact Or.inr ⟨['"'], rfl, fun _ => rfl⟩
    · exact Or.inr ⟨['\\'], rfl, fun _ => rfl⟩
  · rw [not_or] at special
    exact Or.inl ⟨rfl, special.1, special.2, printable⟩

/-- Escaping byte by byte is escaping character by character. -/
theorem escaped_encodeChar (printable : 0x20 ≤ c.toNat) :
    (String.utf8EncodeChar c).flatMap escapedByte =
      (jsonQuoted c).flatMap String.utf8EncodeChar := by
  by_cases special : c = '"' ∨ c = '\\'
  · rcases special with rfl | rfl <;> decide
  rw [jsonQuoted, if_neg special, List.flatMap_singleton]
  rw [not_or] at special
  have plain : ∀ b ∈ String.utf8EncodeChar c, escapedByte b = [b] := by
    intro b inside
    rcases Nat.lt_or_ge c.toNat 0x80 with ascii | beyond
    · -- The one byte has the value of the character.
      obtain ⟨lead, tail, encoded⟩ :=
        List.exists_cons_of_ne_nil (String.utf8EncodeChar_ne_nil (c := c))
      rcases Utf8.head_encodeChar encoded with ⟨-, same, rfl⟩ | ⟨-, high⟩
      · obtain rfl : b = lead := by simpa [encoded] using inside
        refine escapedByte_plain (by omega) ?_ ?_
        · rintro rfl
          exact special.1 (Char.toNat_inj.mp same.symm)
        · rintro rfl
          exact special.2 (Char.toNat_inj.mp same.symm)
      · omega
    · have high := Utf8.le_of_mem_encodeChar beyond b inside
      refine escapedByte_plain (by omega) ?_ ?_ <;>
      · rintro rfl
        exact absurd high (by decide)
  rw [List.flatMap_congr plain, List.flatMap_singleton']

theorem escaped_encode {cs : List Char} (printable : ∀ c ∈ cs, 0x20 ≤ c.toNat) :
    (cs.flatMap String.utf8EncodeChar).flatMap escapedByte =
      (cs.flatMap jsonQuoted).flatMap String.utf8EncodeChar := by
  rw [List.flatMap_assoc, List.flatMap_assoc]
  exact List.flatMap_congr fun c inside => escaped_encodeChar (printable c inside)

end Escaping

/-! ## Texts that need no escape -/

/-- Printable ASCII, but for the quote and the backslash. -/
def PlainByte (b : UInt8) : Prop := 0x20 ≤ b.toNat ∧ b.toNat < 0x80 ∧ b ≠ 0x22 ∧ b ≠ 0x5c

section Plain

variable {text : List UInt8}

/-- It encodes characters that are quoted as they stand. -/
theorem exists_plain (plain : ∀ b ∈ text, PlainByte b) :
    ∃ cs : List Char, text = cs.flatMap String.utf8EncodeChar ∧ cs.flatMap jsonQuoted = cs ∧
      ∀ c ∈ cs, 0x20 ≤ c.toNat := by
  induction text with
  | nil => exact ⟨[], by simp⟩
  | cons b text ih =>
    obtain ⟨⟨printable, ascii, notQuote, notBackslash⟩, others⟩ := List.forall_mem_cons.mp plain
    obtain ⟨cs, encoded, quoted, shown⟩ := ih others
    obtain ⟨c, single, same⟩ := Utf8.exists_one (Nat.le_of_lt_succ ascii)
    have notSpecial : ¬ (c = '"' ∨ c = '\\') := by
      rintro (rfl | rfl)
      · exact notQuote (UInt8.toNat_inj.mp same.symm)
      · exact notBackslash (UInt8.toNat_inj.mp same.symm)
    refine ⟨c :: cs, ?_, ?_, ?_⟩
    · rw [List.flatMap_cons, single, encoded, List.singleton_append]
    · rw [List.flatMap_cons, quoted, jsonQuoted, if_neg notSpecial, List.singleton_append]
    · exact List.forall_mem_cons.mpr ⟨by omega, shown⟩

theorem IsHost.plain (host : IsHost text) : ∀ b ∈ text, PlainByte b := by
  intro b member
  have char := host.chars b member
  simp only [UInt8.le_iff_toNat_le, ← UInt8.toNat_inj, UInt8.reduceToNat] at char
  simp only [PlainByte, ne_eq, ← UInt8.toNat_inj, UInt8.reduceToNat]
  omega

theorem IsHostname.plain (label : IsHostname text) : ∀ b ∈ text, PlainByte b := by
  intro b member
  have char := label.chars b member
  simp only [hostnameChar, Bool.or_eq_true, Bool.and_eq_true, decide_eq_true_eq, beq_iff_eq,
    UInt8.le_iff_toNat_le, ← UInt8.toNat_inj, UInt8.reduceToNat] at char
  simp only [PlainByte, ne_eq, ← UInt8.toNat_inj, UInt8.reduceToNat]
  omega

end Plain

/-! ## The object -/

/-- The characters of the strings in a configuration. -/
structure ConfigTexts where
  staSsid : List Char
  apSsid : List Char
  hostname : List Char
  host : List Char

/-- Byte for byte, the strings are those of the configuration. -/
structure ConfigTexts.Of (texts : ConfigTexts) (config : EffectiveConfig) : Prop where
  staSsid : (config .sta).ssid.str = texts.staSsid.flatMap String.utf8EncodeChar
  apSsid : (config .ap).ssid.str = texts.apSsid.flatMap String.utf8EncodeChar
  hostname : (config .system).hostname.str = texts.hostname.flatMap String.utf8EncodeChar
  host : (config .tcpClient).host.str = texts.host.flatMap String.utf8EncodeChar

/-- The effective values, and of a PSK whether there is one. -/
def decodedConfig (config : EffectiveConfig) (rebootRequired : Bool) (texts : ConfigTexts) :
    Json.Value :=
  .object [("ais_filter_enabled".toList, .bool (config .ais).filterEnabled),
    ("ais_own_mmsi".toList, .number (config .ais).ownMmsi.toNat),
    ("sta_enabled".toList, .bool (config .sta).enabled),
    ("sta_ssid".toList, .string texts.staSsid),
    ("sta_psk_set".toList, .bool (decide ((config .sta).psk.str ≠ []))),
    ("sta_rotate_mac".toList, .bool (config .sta).rotateMac),
    ("ap_ssid".toList, .string texts.apSsid),
    ("ap_psk_set".toList, .bool (decide ((config .ap).psk.str ≠ []))),
    ("hostname".toList, .string texts.hostname),
    ("tcp_client_enabled".toList, .bool (config .tcpClient).enabled),
    ("tcp_client_host".toList, .string texts.host),
    ("tcp_client_port".toList, .number (config .tcpClient).port.toNat),
    ("reboot_required".toList, .bool rebootRequired)]

/-! ## Writing the object -/

def boolMember (name : String) (value : Bool) : Json.Member where
  name := name.toList
  text := (if value then "true" else "false").toList
  value := .bool value

def numberMember (name : String) (n : ℕ) : Json.Member where
  name := name.toList
  text := Nat.toDigits 10 n
  value := .number n

def stringMember (name : String) (text : List Char) : Json.Member where
  name := name.toList
  text := '"' :: (text.flatMap jsonQuoted ++ ['"'])
  value := .string text

/-- The members in the order of the format. -/
def configMembers (config : EffectiveConfig) (rebootRequired : Bool) (texts : ConfigTexts) :
    List Json.Member :=
  [boolMember "ais_filter_enabled" (config .ais).filterEnabled,
    numberMember "ais_own_mmsi" (config .ais).ownMmsi.toNat,
    boolMember "sta_enabled" (config .sta).enabled,
    stringMember "sta_ssid" texts.staSsid,
    boolMember "sta_psk_set" ((config .sta).psk.byteAt 0 != 0),
    boolMember "sta_rotate_mac" (config .sta).rotateMac,
    stringMember "ap_ssid" texts.apSsid,
    boolMember "ap_psk_set" ((config .ap).psk.byteAt 0 != 0),
    stringMember "hostname" texts.hostname,
    boolMember "tcp_client_enabled" (config .tcpClient).enabled,
    stringMember "tcp_client_host" texts.host,
    numberMember "tcp_client_port" (config .tcpClient).port.toNat,
    boolMember "reboot_required" rebootRequired]

/-- The members as the format has them. -/
def configPieces (config : EffectiveConfig) (rebootRequired : Bool) : List (List UInt8) :=
  let ssidJson := jsonEscapeString (config .sta).ssid.str (bridgeConfigWifiSsidMax * 2 + 1)
  let apSsidJson := jsonEscapeString (config .ap).ssid.str (bridgeConfigWifiSsidMax * 2 + 1)
  [ascii "\"ais_filter_enabled\":" ++ jsonBool (config .ais).filterEnabled,
    ascii "\"ais_own_mmsi\":" ++ decimal (config .ais).ownMmsi.toNat,
    ascii "\"sta_enabled\":" ++ jsonBool (config .sta).enabled,
    ascii "\"sta_ssid\":\"" ++ ssidJson ++ ascii "\"",
    ascii "\"sta_psk_set\":" ++ jsonBool ((config .sta).psk.byteAt 0 != 0),
    ascii "\"sta_rotate_mac\":" ++ jsonBool (config .sta).rotateMac,
    ascii "\"ap_ssid\":\"" ++ apSsidJson ++ ascii "\"",
    ascii "\"ap_psk_set\":" ++ jsonBool ((config .ap).psk.byteAt 0 != 0),
    ascii "\"hostname\":\"" ++ (config .system).hostname.str ++ ascii "\"",
    ascii "\"tcp_client_enabled\":" ++ jsonBool (config .tcpClient).enabled,
    ascii "\"tcp_client_host\":\"" ++ (config .tcpClient).host.str ++ ascii "\"",
    ascii "\"tcp_client_port\":" ++ decimal (config .tcpClient).port.toNat,
    ascii "\"reboot_required\":" ++ jsonBool rebootRequired]

theorem ascii_append (a b : String) : ascii (a ++ b) = ascii a ++ ascii b := by
  rw [ascii, String.toList_append, List.map_append]
  rfl

/-- Literals next to each other are one. -/
theorem ascii_append_assoc (a b : String) (rest : List UInt8) :
    ascii a ++ (ascii b ++ rest) = ascii (a ++ b) ++ rest := by
  rw [ascii_append, List.append_assoc]

/-- The format is the pieces with commas between them, in braces. -/
theorem configJson_eq_pieces (config : EffectiveConfig) (rebootRequired : Bool) :
    configJson config rebootRequired =
      ascii "\x7b" ++ (ascii ",").intercalate (configPieces config rebootRequired) ++
        ascii "\x7d" := by
  unfold configJson configPieces
  simp [List.intercalate, ascii_append_assoc, -List.append_cancel_left_eq]

/-- The text is written as these bytes between its quotes. -/
structure WrittenAs (text : List Char) (bytes : List UInt8) : Prop where
  printable : ∀ c ∈ text, 0x20 ≤ c.toNat
  encoded : (text.flatMap jsonQuoted).flatMap String.utf8EncodeChar = bytes

theorem IsSsid.written {n : ℕ} {ssid : CharArray n} (valid : IsSsid ssid) :
    ∃ text : List Char, ssid.str = text.flatMap String.utf8EncodeChar ∧
      WrittenAs text (jsonEscapeString ssid.str (bridgeConfigWifiSsidMax * 2 + 1)) := by
  obtain ⟨-, short, text, encoded, printable⟩ := valid
  refine ⟨text, encoded, printable, ?_⟩
  rw [jsonEscapeString_eq, encoded, escaped_encode printable]
  rw [bridgeConfigWifiSsidMax]
  omega

theorem exists_written {text : List UInt8} (plain : ∀ b ∈ text, PlainByte b) :
    ∃ cs : List Char, text = cs.flatMap String.utf8EncodeChar ∧ WrittenAs cs text := by
  obtain ⟨cs, encoded, quoted, printable⟩ := exists_plain plain
  exact ⟨cs, encoded, printable, by rw [quoted, encoded]⟩

/-- The member is read back, and written as these bytes. -/
structure Shows (member : Json.Member) (bytes : List UInt8) : Prop where
  readable : member.Readable
  encoded : member.written.flatMap String.utf8EncodeChar = bytes

/-- No character of the name needs an escape, or a second byte. -/
def plainName (name : String) : Bool :=
  name.toList.all fun c => c != '"' && c != '\\' && 0x20 ≤ c.toNat && c.toNat < 0x80

section Members

variable {name : String}

theorem plain_of_plainName (plain : plainName name = true) :
    ∀ b ∈ ascii name, PlainByte b := by
  intro b inside
  obtain ⟨c, member, rfl⟩ := List.mem_map.mp inside
  have char := List.all_eq_true.mp plain c member
  simp only [Bool.and_eq_true, bne_iff_ne, decide_eq_true_eq] at char
  obtain ⟨⟨⟨notQuote, notBackslash⟩, printable⟩, small⟩ := char
  have same : c.toUInt8.toNat = c.toNat := by
    rw [Char.toUInt8, UInt32.toNat_toUInt8]
    exact Nat.mod_eq_of_lt (small.trans (by decide))
  refine ⟨same ▸ printable, same ▸ small, ?_, ?_⟩
  · intro quote
    exact notQuote (Char.toNat_inj.mp (same.symm.trans (congrArg UInt8.toNat quote)))
  · intro backslash
    exact notBackslash (Char.toNat_inj.mp (same.symm.trans (congrArg UInt8.toNat backslash)))

theorem quotes_plainName (plain : plainName name = true) :
    ∀ c ∈ name.toList, Json.Quotes [c] c := by
  intro c inside
  have char := List.all_eq_true.mp plain c inside
  simp only [Bool.and_eq_true, bne_iff_ne, decide_eq_true_eq] at char
  exact Or.inl ⟨rfl, char.1.1.1, char.1.1.2, char.1.2⟩

/-- A name in its quotes, the colon, and the value. -/
theorem encode_written (plain : plainName name = true) (text : List Char) (v : Json.Value) :
    (Json.Member.written ⟨name.toList, text, v⟩).flatMap String.utf8EncodeChar =
      ascii ("\"" ++ name ++ "\":") ++ text.flatMap String.utf8EncodeChar := by
  have small : ∀ c ∈ name.toList, c.toNat < 0x80 := by
    intro c inside
    have char := List.all_eq_true.mp plain c inside
    simp only [Bool.and_eq_true, decide_eq_true_eq] at char
    exact char.2
  rw [Json.Member.written, List.flatMap_cons, List.flatMap_append, Utf8.encode_ascii small,
    List.flatMap_cons, List.flatMap_cons, ascii_append, ascii_append, List.append_assoc,
    List.append_assoc]
  rfl

theorem boolMember_shows (plain : plainName name = true) (value : Bool) :
    Shows (boolMember name value) (ascii ("\"" ++ name ++ "\":") ++ jsonBool value) := by
  refine ⟨⟨quotes_plainName plain, ?_⟩, ?_⟩
  · cases value
    · exact Json.reads_false
    · exact Json.reads_true
  · have small : ∀ c ∈ (if value then "true" else "false").toList, c.toNat < 0x80 := by
      cases value <;> simp
    rw [boolMember, encode_written plain, Utf8.encode_ascii small]
    rfl

theorem numberMember_shows (plain : plainName name = true) (n : ℕ) :
    Shows (numberMember name n) (ascii ("\"" ++ name ++ "\":") ++ decimal n) := by
  refine ⟨⟨quotes_plainName plain, Json.reads_nat n⟩, ?_⟩
  rw [numberMember, encode_written plain, decimal, Utf8.encode_ascii]
  intro c inside
  have digit := Char.isDigit_iff_toNat.mp (Json.isDigit_of_mem_decimal c inside)
  exact digit.2.trans_lt (by decide)

theorem stringMember_shows (plain : plainName name = true) {text : List Char} {bytes : List UInt8}
    (written : WrittenAs text bytes) :
    Shows (stringMember name text) (ascii ("\"" ++ name ++ "\":\"") ++ bytes ++ ascii "\"") := by
  refine ⟨⟨quotes_plainName plain,
    Json.reads_string fun c inside => jsonQuoted_quotes (written.printable c inside)⟩, ?_⟩
  have quotes : ("\":\"" : String) = "\":" ++ "\"" := rfl
  rw [stringMember, encode_written plain, List.flatMap_cons, List.flatMap_append, written.encoded,
    quotes, ← String.append_assoc, ascii_append _ "\"", List.append_assoc, List.append_assoc]
  rfl

end Members

/-- Written members, one after the other. -/
theorem encode_writeMembers {members : List Json.Member} {pieces : List (List UInt8)}
    (shows : List.Forall₂ Shows members pieces) :
    (Json.writeMembers members).flatMap String.utf8EncodeChar =
      (ascii ",").intercalate pieces := by
  induction shows with
  | nil => rfl
  | @cons member piece members pieces first others ih =>
    cases others with
    | nil => simp [Json.writeMembers, first.encoded]
    | cons second others =>
      rw [Json.writeMembers, List.flatMap_append, List.flatMap_cons, first.encoded, ih,
        List.intercalate_cons_cons, List.append_assoc]
      rfl

section Object

variable {config : EffectiveConfig} {texts : ConfigTexts}

/-- The strings of a valid configuration, and how each is written. -/
structure ConfigTexts.Written (texts : ConfigTexts) (config : EffectiveConfig) : Prop where
  staSsid : WrittenAs texts.staSsid
    (jsonEscapeString (config .sta).ssid.str (bridgeConfigWifiSsidMax * 2 + 1))
  apSsid : WrittenAs texts.apSsid
    (jsonEscapeString (config .ap).ssid.str (bridgeConfigWifiSsidMax * 2 + 1))
  hostname : WrittenAs texts.hostname (config .system).hostname.str
  host : WrittenAs texts.host (config .tcpClient).host.str

theorem exists_texts (valid : AllValid config) :
    ∃ texts : ConfigTexts, texts.Of config ∧ texts.Written config := by
  obtain ⟨sta, -⟩ := valid .sta
  obtain ⟨ap, -⟩ := valid .ap
  obtain ⟨-, label⟩ := valid .system
  obtain ⟨-, address, -⟩ := valid .tcpClient
  obtain ⟨staSsid, ofSta, writtenSta⟩ := sta.written
  obtain ⟨apSsid, ofAp, writtenAp⟩ := ap.written
  obtain ⟨hostname, ofHostname, writtenHostname⟩ := exists_written label.plain
  obtain ⟨host, ofHost, writtenHost⟩ := exists_written address.plain
  exact ⟨⟨staSsid, apSsid, hostname, host⟩, ⟨ofSta, ofAp, ofHostname, ofHost⟩,
    ⟨writtenSta, writtenAp, writtenHostname, writtenHost⟩⟩

/-- Each piece of the format is a member that is read back. -/
theorem configMembers_show (written : texts.Written config) (rebootRequired : Bool) :
    List.Forall₂ Shows (configMembers config rebootRequired texts)
      (configPieces config rebootRequired) := by
  have plain : ∀ name ∈ ["ais_filter_enabled", "ais_own_mmsi", "sta_enabled", "sta_ssid",
      "sta_psk_set", "sta_rotate_mac", "ap_ssid", "ap_psk_set", "hostname", "tcp_client_enabled",
      "tcp_client_host", "tcp_client_port", "reboot_required"], plainName name = true := by
    simp [plainName]
  simp only [List.forall_mem_cons] at plain
  obtain ⟨filter, mmsi, staEnabled, staSsid, staPsk, rotate, apSsid, apPsk, hostname, tcpEnabled,
    tcpHost, tcpPort, reboot, -⟩ := plain
  exact .cons (boolMember_shows filter _) <| .cons (numberMember_shows mmsi _) <|
    .cons (boolMember_shows staEnabled _) <| .cons (stringMember_shows staSsid written.staSsid) <|
    .cons (boolMember_shows staPsk _) <| .cons (boolMember_shows rotate _) <|
    .cons (stringMember_shows apSsid written.apSsid) <| .cons (boolMember_shows apPsk _) <|
    .cons (stringMember_shows hostname written.hostname) <|
    .cons (boolMember_shows tcpEnabled _) <| .cons (stringMember_shows tcpHost written.host) <|
    .cons (numberMember_shows tcpPort _) <| .cons (boolMember_shows reboot _) .nil

theorem parse_configJson (written : texts.Written config) (rebootRequired : Bool) :
    Json.parseUtf8 (configJson config rebootRequired) =
      some (.object <|
        (configMembers config rebootRequired texts).map fun m => (m.name, m.value)) := by
  have shows := configMembers_show written rebootRequired
  have readable : ∀ m ∈ configMembers config rebootRequired texts, m.Readable := by
    intro m inside
    obtain ⟨i, within, rfl⟩ := List.getElem_of_mem inside
    exact (shows.get within (by rwa [← shows.length_eq])).readable
  have written : configJson config rebootRequired =
      (Json.writeObject (configMembers config rebootRequired texts)).flatMap
        String.utf8EncodeChar := by
    rw [configJson_eq_pieces, Json.writeObject, List.flatMap_cons, List.flatMap_append,
      encode_writeMembers shows, List.append_assoc]
    rfl
  rw [written, Json.parseUtf8_encode]
  exact Json.parse_writeObject (List.cons_ne_nil _ _) readable

theorem psk_shown {n : ℕ} (psk : CharArray n) : (psk.byteAt 0 != 0) = decide (psk.str ≠ []) := by
  rw [Bool.eq_iff_iff, bne_iff_ne, decide_eq_true_eq, ne_eq, ne_eq,
    CharArray.byteAt_zero_eq_zero]

theorem configMembers_values (config : EffectiveConfig) (rebootRequired : Bool)
    (texts : ConfigTexts) :
    Json.Value.object ((configMembers config rebootRequired texts).map fun m => (m.name, m.value)) =
      decodedConfig config rebootRequired texts := by
  rw [configMembers, psk_shown, psk_shown]
  rfl

theorem length_jsonBool_le (value : Bool) : (jsonBool value).length ≤ 5 := by
  cases value <;> simp [jsonBool, ascii]

theorem length_ssid_le {n : ℕ} {ssid : CharArray n} (valid : IsSsid ssid) :
    (jsonEscapeString ssid.str (bridgeConfigWifiSsidMax * 2 + 1)).length ≤ 64 := by
  have short := valid.2.1
  have long := length_escaped_le ssid.str
  rw [jsonEscapeString_eq]
  · omega
  · rw [bridgeConfigWifiSsidMax]
    omega

/-- The longest object leaves room for the terminator. -/
theorem length_configJson_lt (valid : AllValid config) (rebootRequired : Bool) :
    (configJson config rebootRequired).length < 640 := by
  have mmsi : (decimal (config .ais).ownMmsi.toNat).length ≤ 9 := by
    have bound : (config .ais).ownMmsi ≤ 999999999 := valid .ais
    rw [UInt32.le_iff_toNat_le] at bound
    have value : (999999999 : UInt32).toNat = 999999999 := rfl
    exact decimal_length_le (by decide) (by omega)
  have port : (decimal (config .tcpClient).port.toNat).length ≤ 5 := by
    have bound := (config .tcpClient).port.toNat_lt
    exact decimal_length_le (by decide) (by omega)
  have sta := length_ssid_le (valid .sta).1
  have ap := length_ssid_le (valid .ap).1
  have hostname : (config .system).hostname.str.length ≤ 32 := (valid .system).2.length_le
  have host : (config .tcpClient).host.str.length ≤ 15 := (valid .tcpClient).2.2.1
  have filter := length_jsonBool_le (config .ais).filterEnabled
  have staEnabled := length_jsonBool_le (config .sta).enabled
  have staPsk := length_jsonBool_le ((config .sta).psk.byteAt 0 != 0)
  have rotate := length_jsonBool_le (config .sta).rotateMac
  have apPsk := length_jsonBool_le ((config .ap).psk.byteAt 0 != 0)
  have tcpEnabled := length_jsonBool_le (config .tcpClient).enabled
  have reboot := length_jsonBool_le rebootRequired
  -- The rest is the format itself, the same in every response.
  unfold configJson
  simp only [List.length_append, ascii, List.length_map, String.reduceToList, List.length_cons,
    List.length_nil]
  omega

/-- Whatever is valid fits the buffer, and a JSON parser gets the effective values back, the
strings byte for byte, and of each PSK only whether it is non-empty. -/
theorem config_json_faithful (status : String) (config : EffectiveConfig) (valid : AllValid config)
    (rebootRequired : Bool) :
    (writeConfigJson status config rebootRequired).body = configJson config rebootRequired ∧
      (configJson config rebootRequired).length < 640 ∧
      ∃ texts : ConfigTexts, texts.Of config ∧
        Json.parseUtf8 (writeConfigJson status config rebootRequired).body =
          some (decodedConfig config rebootRequired texts) := by
  have short := length_configJson_lt valid rebootRequired
  have whole : (writeConfigJson status config rebootRequired).body =
      configJson config rebootRequired := by
    rw [writeConfigJson, snprintk, List.take_of_length_le (Nat.le_sub_one_of_lt short)]
  obtain ⟨texts, of, written⟩ := exists_texts valid
  refine ⟨whole, short, texts, of, ?_⟩
  rw [whole, parse_configJson written, configMembers_values]

/-- An SSID of a quote, a backslash and a euro sign. -/
theorem config_json_faithful_quote :
    let config := Function.update sampleBuild.defaults .sta
      ⟨true, true, .ofBytes _ [0x22, 0x5C, 0xE2, 0x82, 0xAC], .ofBytes _ []⟩
    (writeConfigJson "200 OK" config true).body = configJson config true ∧
      (configJson config true).length < 640 ∧
      ∃ texts : ConfigTexts, texts.Of config ∧
        Json.parseUtf8 (writeConfigJson "200 OK" config true).body =
          some (decodedConfig config true texts) :=
  config_json_faithful "200 OK" _ (fun g => valid_of_accepts (by cases g <;> decide)) true

end Object

end EspNmeaBridge
