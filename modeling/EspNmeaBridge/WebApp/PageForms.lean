/-
# The forms of the web page

Each card of the page has a handler that checks its inputs and, if they pass, posts them as a
JSON object. What `JSON.stringify` writes for an input depends on its code units: quotes,
backslashes, controls and lone surrogates are escaped, and everything else stands as it is.
Even with every unit escaped, what the page posts is within the limit of the device.
-/

import EspNmeaBridge.BridgeConfig.AlwaysValid
import EspNmeaBridge.WebApp.AppJs
import EspNmeaBridge.WebApp.ConfigUpdate
import EspNmeaBridge.WebApp.FaithfulJson

namespace EspNmeaBridge.AppJs

open CString RegularExpression

/-! ## The objects that are posted -/

inductive JsValue where
  | bool (value : Bool)
  | number (value : ℕ)
  | string (text : JsString)
  deriving DecidableEq, Repr

/-- An object literal, its members in the order they were set. -/
abbrev PostBody := List (String × JsValue)

/-- The four digits behind `\u`. -/
def hexDigits (unit : UInt16) : List UInt8 :=
  [12, 8, 4, 0].map fun shift =>
    let digit := unit.toNat >>> shift % 16
    .ofNat (if digit < 10 then 0x30 + digit else 0x57 + digit)

/-- A code unit in quotes, unless it is half of a pair. -/
def quoteUnit (unit : UInt16) : JsString :=
  if unit = 0x08 then [0x5C, 0x62]
  else if unit = 0x09 then [0x5C, 0x74]
  else if unit = 0x0A then [0x5C, 0x6E]
  else if unit = 0x0C then [0x5C, 0x66]
  else if unit = 0x0D then [0x5C, 0x72]
  else if unit = 0x22 ∨ unit = 0x5C then [0x5C, unit]
  else if unit < 0x20 ∨ 0xD800 ≤ unit ∧ unit ≤ 0xDFFF then widen (0x5C :: 0x75 :: hexDigits unit)
  else [unit]

def quoteUnits : JsString → JsString
  | high :: low :: rest =>
    if 0xD800 ≤ high ∧ high ≤ 0xDBFF ∧ 0xDC00 ≤ low ∧ low ≤ 0xDFFF then
      high :: low :: quoteUnits rest
    else quoteUnit high ++ quoteUnits (low :: rest)
  | [unit] => quoteUnit unit
  | [] => []

def JsValue.stringify : JsValue → JsString
  | .bool value => widen (ascii (if value then "true" else "false"))
  | .number value => widen (decimal value)
  | .string text => 0x22 :: (quoteUnits text ++ [0x22])

/-- A member as `JSON.stringify` writes it; the keys of the page have nothing to escape. -/
def stringifyMember (entry : String × JsValue) : JsString :=
  widen (ascii ("\"" ++ entry.1 ++ "\":")) ++ entry.2.stringify

/-- The members and the closing brace. -/
def stringifyMembers : PostBody → JsString
  | [] => [0x7D]
  | [entry] => stringifyMember entry ++ [0x7D]
  | entry :: next :: rest => stringifyMember entry ++ 0x2C :: stringifyMembers (next :: rest)

/-- `JSON.stringify(body)` -/
def stringify (body : PostBody) : JsString := 0x7B :: stringifyMembers body

/-- What `fetch` sends. -/
def posted (body : PostBody) : List UInt8 := encode (stringify body)

/-! ## The handlers -/

/-- What a submit handler does: the texts it sets beside the fields, or the object it posts. -/
inductive Submission where
  | notSaved (errors : List (String × String))
  | post (body : PostBody)
  deriving DecidableEq, Repr

/-- The white space and line terminators that `trim` strips. -/
def isWhite (unit : UInt16) : Bool :=
  (range 0x09 0x0D).contains unit || unit == 0x20 || unit == 0xA0 || unit == 0x1680 ||
    (range 0x2000 0x200A).contains unit || unit == 0x2028 || unit == 0x2029 || unit == 0x202F ||
    unit == 0x205F || unit == 0x3000 || unit == 0xFEFF

def trim (text : JsString) : JsString := (text.dropWhile isWhite).rdropWhile isWhite

/-- `/^\d{1,n}$/`, anchored at both ends. -/
def digitsPattern (n : ℕ) : RegularExpression UInt16 :=
  oneOf (range 0x30 0x39) * upTo (oneOf (range 0x30 0x39)) (n - 1)

/-- The card of the AIS filter. -/
def handleConfigSubmit (enabled : Bool) (mmsi : JsString) : Submission :=
  let mmsiText := trim mmsi
  if !(digitsPattern 9).rmatch mmsiText then
    .notSaved [("ais-mmsi-error", "Enter an MMSI between 0 and 999999999.")]
  else
    .post [("ais_filter_enabled", .bool enabled), ("ais_own_mmsi", .number (number mmsiText))]

def staSsidError (ssidBytes : ℕ) : String :=
  if ssidBytes < 1 ∨ 32 < ssidBytes then "Enter an SSID of 1 to 32 bytes." else ""

def staPskError (pskLength : ℕ) : String :=
  if pskLength ≠ 0 ∧ (pskLength < 8 ∨ 63 < pskLength) then
    "Enter a password of 8 to 63 characters, or leave blank to keep the stored one."
  else ""

/-- The members of a new PSK, which both Wi-Fi cards set alike. -/
def pskMembers (clearKey pskKey : String) (pskClear : Bool) (psk : JsString) : PostBody :=
  if pskClear then [(clearKey, .bool true)]
  else if psk ≠ [] then [(pskKey, .string psk)]
  else []

def staBody (enabled : Bool) (ssid psk : JsString) (pskClear rotateMac : Bool) : PostBody :=
  [("sta_enabled", .bool enabled), ("sta_rotate_mac", .bool rotateMac)] ++
    -- An empty SSID while disabling keeps the stored one.
    (if ssid ≠ [] ∨ enabled then [("sta_ssid", .string ssid)] else []) ++
    pskMembers "sta_psk_clear" "sta_psk" pskClear psk

def handleStaSubmit (enabled : Bool) (ssid pskInput : JsString) (pskClear rotateMac : Bool) :
    Submission :=
  let psk := if pskClear then [] else pskInput
  let body := staBody enabled ssid psk pskClear rotateMac
  let ssidError := if body.any (·.1 == "sta_ssid") then staSsidError (encode ssid).length else ""
  let pskError := staPskError (encode psk).length
  if ssidError ≠ "" ∨ pskError ≠ "" then
    .notSaved [("sta-ssid-error", ssidError), ("sta-psk-error", pskError)]
  else .post body

def handleApSubmit (ssid pskInput : JsString) (pskClear : Bool) : Submission :=
  let psk := if pskClear then [] else pskInput
  let ssidBytes := (encode ssid).length
  let ssidError :=
    if ssidBytes < 1 ∨ 32 < ssidBytes then "Enter an SSID of 1 to 32 bytes." else ""
  let pskLength := (encode psk).length
  let pskError :=
    if pskLength ≠ 0 ∧ (pskLength < 8 ∨ 63 < pskLength) then
      "Enter a password of 8 to 63 characters, or leave blank."
    else ""
  if ssidError ≠ "" ∨ pskError ≠ "" then
    .notSaved [("ap-ssid-error", ssidError), ("ap-psk-error", pskError)]
  else .post (("ap_ssid", .string ssid) :: pskMembers "ap_psk_clear" "ap_psk" pskClear psk)

def handleSystemSubmit (input : JsString) : Submission :=
  let hostname := trim input
  let error := hostnameError hostname
  if error ≠ "" then .notSaved [("system-hostname-error", error)]
  else .post [("hostname", .string hostname)]

def handleTcpSubmit (enabled : Bool) (hostInput portInput : JsString) : Submission :=
  let host := trim hostInput
  let portText := trim portInput
  let hostError := tcpHostError host
  let portError :=
    if (digitsPattern 5).rmatch portText ∧ 1 ≤ number portText ∧ number portText ≤ 65535 then ""
    else "Enter a port between 1 and 65535."
  if hostError ≠ "" ∨ portError ≠ "" then
    .notSaved [("tcp-host-error", hostError), ("tcp-port-error", portError)]
  else
    .post [("tcp_client_enabled", .bool enabled), ("tcp_client_host", .string host),
      ("tcp_client_port", .number (number portText))]

/-- The inputs of one card when it is submitted. -/
inductive PageForm where
  | ais (enabled : Bool) (mmsi : JsString)
  | sta (enabled : Bool) (ssid psk : JsString) (pskClear rotateMac : Bool)
  | ap (ssid psk : JsString) (pskClear : Bool)
  | system (hostname : JsString)
  | tcp (enabled : Bool) (host port : JsString)
  deriving DecidableEq, Repr

def PageForm.submit : PageForm → Submission
  | .ais enabled mmsi => handleConfigSubmit enabled mmsi
  | .sta enabled ssid psk pskClear rotateMac => handleStaSubmit enabled ssid psk pskClear rotateMac
  | .ap ssid psk pskClear => handleApSubmit ssid psk pskClear
  | .system hostname => handleSystemSubmit hostname
  | .tcp enabled host port => handleTcpSubmit enabled host port

/-! ## The length of a post -/

section Encoding

variable {s rest : JsString} {unit : UInt16}

/-- The second half of a pair. -/
def LowSurrogate (unit : UInt16) : Prop := 0xDC00 ≤ unit ∧ unit ≤ 0xDFFF

theorem lowSurrogate_ascii {b : UInt8} : ¬ LowSurrogate b.toUInt16 := by
  have bound := b.toNat_lt
  simp only [LowSurrogate, UInt16.le_iff_toNat_le, UInt8.toNat_toUInt16, UInt16.reduceToNat]
  omega

/-- Strings are encoded apart where no pair is torn. -/
theorem encode_append (s : JsString) (whole : ¬ LowSurrogate unit) (rest : JsString) :
    encode (s ++ unit :: rest) = encode s ++ encode (unit :: rest) := by
  have split : scalars (s ++ unit :: rest) = scalars s ++ scalars (unit :: rest) := by
    fun_induction scalars s with
    | case1 high low more pair ih => simp [scalars, pair, ih]
    | case2 high low more other ih =>
      rw [List.cons_append, List.cons_append, scalars, if_neg other, ← List.cons_append, ih]
      rfl
    | case3 last =>
      rw [List.singleton_append, scalars, if_neg]
      · rfl
      · rintro ⟨-, -, low⟩
        exact whole low
    | case4 => rfl
  rw [encode, split, List.flatMap_append]
  rfl

/-- A unit that is no surrogate does not begin a pair. -/
theorem not_pair_of_whole (whole : ¬ (0xD800 ≤ unit ∧ unit ≤ 0xDFFF)) (low : UInt16) :
    ¬ (0xD800 ≤ unit ∧ unit ≤ 0xDBFF ∧ 0xDC00 ≤ low ∧ low ≤ 0xDFFF) := by
  rintro ⟨lower, upper, -⟩
  refine whole ⟨lower, ?_⟩
  simp only [UInt16.le_iff_toNat_le, UInt16.reduceToNat] at upper ⊢
  omega

theorem scalars_cons (whole : ¬ (0xD800 ≤ unit ∧ unit ≤ 0xDFFF)) (rest : JsString) :
    scalars (unit :: rest) = scalar unit :: scalars rest := by
  cases rest with
  | nil => rfl
  | cons low rest => rw [scalars, if_neg (not_pair_of_whole whole low)]

end Encoding

section Quotes

variable {s : JsString} {unit : UInt16}

theorem hexDigits_ascii (unit : UInt16) : ∀ b ∈ hexDigits unit, b.toNat < 0x80 := by
  intro b member
  obtain ⟨shift, -, rfl⟩ := List.mem_map.mp member
  dsimp only
  split_ifs <;> rw [UInt8.toNat_ofNat'] <;> omega

/-- An escape, or the unit itself. -/
theorem quoteUnit_cases (unit : UInt16) :
    (∃ text, quoteUnit unit = widen text ∧ (∀ b ∈ text, b.toNat < 0x80) ∧ 2 ≤ text.length ∧
      text.length ≤ 6) ∨
    (quoteUnit unit = [unit] ∧ 0x20 ≤ unit ∧ ¬ (0xD800 ≤ unit ∧ unit ≤ 0xDFFF)) := by
  unfold quoteUnit
  split_ifs with b t n f r quote other
  · exact .inl ⟨[0x5C, 0x62], rfl, by simp, by simp, by simp⟩
  · exact .inl ⟨[0x5C, 0x74], rfl, by simp, by simp, by simp⟩
  · exact .inl ⟨[0x5C, 0x6E], rfl, by simp, by simp, by simp⟩
  · exact .inl ⟨[0x5C, 0x66], rfl, by simp, by simp, by simp⟩
  · exact .inl ⟨[0x5C, 0x72], rfl, by simp, by simp, by simp⟩
  · rcases quote with rfl | rfl
    · exact .inl ⟨[0x5C, 0x22], rfl, by simp, by simp, by simp⟩
    · exact .inl ⟨[0x5C, 0x5C], rfl, by simp, by simp, by simp⟩
  · refine .inl ⟨0x5C :: 0x75 :: hexDigits unit, rfl, ?_, by simp, by simp [hexDigits]⟩
    exact List.forall_mem_cons.mpr ⟨by decide,
      List.forall_mem_cons.mpr ⟨by decide, hexDigits_ascii unit⟩⟩
  · rw [not_or] at other
    exact .inr ⟨rfl, UInt16.not_lt.mp other.1, other.2⟩

theorem encode_quoteUnit_append (unit : UInt16) (rest : JsString) :
    ∃ bytes, encode (quoteUnit unit ++ rest) = bytes ++ encode rest ∧
      bytes.length ≤ 6 * (String.utf8EncodeChar (scalar unit)).length := by
  have positive : 0 < (String.utf8EncodeChar (scalar unit)).length :=
    List.length_pos_iff.mpr String.utf8EncodeChar_ne_nil
  rcases quoteUnit_cases unit with ⟨text, quoted, ascii, -, short⟩ | ⟨plain, -, whole⟩
  · exact ⟨text, by rw [quoted, encode_widen_append ascii], by omega⟩
  · refine ⟨String.utf8EncodeChar (scalar unit), ?_, by omega⟩
    rw [plain, List.singleton_append, encode, scalars_cons whole, List.flatMap_cons]
    rfl

/-- Quoted, a string is at most six times as long. -/
theorem length_encode_quoteUnits_le (s : JsString) :
    (encode (quoteUnits s)).length ≤ 6 * (encode s).length := by
  fun_induction quoteUnits s with
  | case1 high low rest pair ih =>
    simp only [encode, scalars, pair, and_self, if_true, List.flatMap_cons,
      List.length_append] at ih ⊢
    omega
  | case2 high low rest other ih =>
    obtain ⟨bytes, quoted, short⟩ := encode_quoteUnit_append high (quoteUnits (low :: rest))
    have split : encode (high :: low :: rest) =
        String.utf8EncodeChar (scalar high) ++ encode (low :: rest) := by
      rw [encode, scalars, if_neg other, List.flatMap_cons]
      rfl
    rw [quoted, split, List.length_append, List.length_append]
    omega
  | case3 unit =>
    obtain ⟨bytes, quoted, short⟩ := encode_quoteUnit_append unit []
    rw [List.append_nil] at quoted
    have alone : encode [unit] = String.utf8EncodeChar (scalar unit) := List.append_nil _
    rw [quoted, alone, List.length_append]
    simpa [encode, scalars] using short
  | case4 => simp [encode, scalars]

end Quotes

section Members

variable {v : JsValue} {entry : String × JsValue} {body : PostBody} {n : ℕ}

theorem decimal_ascii : ∀ b ∈ decimal n, b.toNat < 0x80 := by
  intro b member
  have high := UInt8.le_iff_toNat_le.mp (digit_of_mem_decimal b member).2
  exact high.trans_lt (by decide)

/-- The bytes a value takes, at most. -/
def JsValue.room : JsValue → ℕ
  | .bool _ => 5
  | .number value => (decimal value).length
  | .string text => 6 * (encode text).length + 2

theorem length_encode_stringify_le (v : JsValue) : (encode v.stringify).length ≤ v.room := by
  cases v with
  | bool value => cases value <;> decide
  | number value => rw [JsValue.stringify, encode_widen decimal_ascii, JsValue.room]
  | string text =>
    have quote : ¬ LowSurrogate 0x22 := @lowSurrogate_ascii 0x22
    have opened := @encode_widen_append [0x22] (by simp) (quoteUnits text ++ [0x22])
    have closed := @encode_append 0x22 (quoteUnits text) quote []
    have last : encode [0x22] = [0x22] := @encode_widen [0x22] (by simp)
    have bound := length_encode_quoteUnits_le text
    rw [closed, last] at opened
    rw [JsValue.stringify, show 0x22 :: (quoteUnits text ++ [0x22]) =
      widen [0x22] ++ (quoteUnits text ++ [0x22]) from rfl, opened, JsValue.room]
    simp only [List.length_append, List.length_cons, List.length_nil]
    omega

/-- The bytes a member takes with the sign behind it, at most. -/
def memberRoom (entry : String × JsValue) : ℕ :=
  (ascii ("\"" ++ entry.1 ++ "\":")).length + entry.2.room + 1

theorem keyBytes_ascii {key : String} (plain : plainName key = true) :
    ∀ b ∈ ascii ("\"" ++ key ++ "\":"), b.toNat < 0x80 := by
  rw [ascii_append, ascii_append, show ascii "\"" = [0x22] from rfl,
    show ascii "\":" = [0x22, 0x3A] from rfl]
  exact List.forall_mem_append.mpr ⟨List.forall_mem_append.mpr ⟨by simp, fun b member =>
    (plain_of_plainName plain b member).2.1⟩, by simp⟩

theorem length_encode_member_le (key : plainName entry.1 = true) {sign : UInt8}
    (ascii : sign.toNat < 0x80) (rest : JsString) :
    (encode (stringifyMember entry ++ sign.toUInt16 :: rest)).length ≤
      memberRoom entry + (encode rest).length := by
  have whole : encode (sign.toUInt16 :: rest) = [sign] ++ encode rest :=
    @encode_widen_append [sign] (by simpa using ascii) rest
  have bound := length_encode_stringify_le entry.2
  rw [stringifyMember, List.append_assoc, encode_widen_append (keyBytes_ascii key),
    encode_append _ lowSurrogate_ascii, whole, memberRoom]
  simp only [List.length_append, List.length_singleton]
  omega

theorem length_encode_members_le (keys : ∀ entry ∈ body, plainName entry.1 = true) :
    (encode (stringifyMembers body)).length ≤ (body.map memberRoom).sum + 1 := by
  fun_induction stringifyMembers body with
  | case1 => decide
  | case2 entry =>
    have bound := length_encode_member_le (keys entry (by simp))
      (show (0x7D : UInt8).toNat < 0x80 by decide) []
    simp only [List.map_cons, List.map_nil, List.sum_cons, List.sum_nil]
    exact bound.trans (by simp [encode, scalars])
  | case3 entry next rest ih =>
    obtain ⟨first, others⟩ := List.forall_mem_cons.mp keys
    have bound := length_encode_member_le first (show (0x2C : UInt8).toNat < 0x80 by decide)
      (stringifyMembers (next :: rest))
    have tail := ih others
    rw [List.map_cons, List.sum_cons]
    exact bound.trans (by omega)

/-- A post is no longer than its members allow. -/
theorem length_posted_le (keys : ∀ entry ∈ body, plainName entry.1 = true) :
    (posted body).length ≤ (body.map memberRoom).sum + 2 := by
  have opened := @encode_widen_append [0x7B] (by simp) (stringifyMembers body)
  have bound := length_encode_members_le keys
  rw [posted, stringify, show 0x7B :: stringifyMembers body =
    widen [0x7B] ++ stringifyMembers body from rfl, opened, List.length_append,
    List.length_singleton]
  omega

end Members

/-! ## What passes -/

/-- One to `n` digits. -/
def IsDigits (n : ℕ) (text : JsString) : Prop :=
  ∃ ds, text = widen ds ∧ ds ≠ [] ∧ ds.length ≤ n ∧ ∀ ch ∈ ds, 0x30 ≤ ch ∧ ch ≤ 0x39

/-- The object that a card stands for. -/
def PageForm.body : PageForm → PostBody
  | .ais enabled mmsi =>
    [("ais_filter_enabled", .bool enabled), ("ais_own_mmsi", .number (number (trim mmsi)))]
  | .sta enabled ssid psk pskClear rotateMac =>
    staBody enabled ssid (if pskClear then [] else psk) pskClear rotateMac
  | .ap ssid psk pskClear =>
    ("ap_ssid", .string ssid) ::
      pskMembers "ap_psk_clear" "ap_psk" pskClear (if pskClear then [] else psk)
  | .system hostname => [("hostname", .string (trim hostname))]
  | .tcp enabled host port =>
    [("tcp_client_enabled", .bool enabled), ("tcp_client_host", .string (trim host)),
      ("tcp_client_port", .number (number (trim port)))]

/-- An SSID as far as the page looks. -/
def SsidLength (ssid : JsString) : Prop := 1 ≤ (encode ssid).length ∧ (encode ssid).length ≤ 32

/-- What the checks of a card ask of its inputs. -/
def PageForm.Passes : PageForm → Prop
  | .ais _ mmsi => IsDigits 9 (trim mmsi)
  | .sta enabled ssid psk pskClear _ =>
    (ssid ≠ [] ∨ enabled → SsidLength ssid) ∧ IsPsk (encode (if pskClear then [] else psk))
  | .ap ssid psk pskClear => SsidLength ssid ∧ IsPsk (encode (if pskClear then [] else psk))
  | .system hostname => IsHostname (encode (trim hostname))
  | .tcp _ host port =>
    IsHost (encode (trim host)) ∧ IsDigits 5 (trim port) ∧
      1 ≤ number (trim port) ∧ number (trim port) ≤ 65535

section Passes

variable {n : ℕ} {text ssid : JsString}

theorem digitsPattern_iff (positive : 0 < n) :
    (digitsPattern n).rmatch text = true ↔ IsDigits n text := by
  rw [rmatch_iff_matches', digitsPattern, mem_matches'_oneOf_mul]
  constructor
  · rintro ⟨c, member, y, rest, rfl⟩
    obtain ⟨first, rfl, digit⟩ := mem_digits.mp member
    obtain ⟨short, inner⟩ := mem_matches'_upTo_oneOf.mp rest
    obtain ⟨ds, rfl, digits⟩ := exists_widen fun unit member => mem_digits.mp (inner unit member)
    rw [widen_length] at short
    exact ⟨first :: ds, rfl, by simp, by rw [List.length_cons]; omega,
      List.forall_mem_cons.mpr ⟨digit, digits⟩⟩
  · rintro ⟨ds, rfl, nonempty, short, digits⟩
    obtain ⟨first, more, rfl⟩ := List.exists_cons_of_ne_nil nonempty
    obtain ⟨digit, others⟩ := List.forall_mem_cons.mp digits
    rw [List.length_cons] at short
    refine ⟨first.toUInt16, mem_digits.mpr ⟨first, rfl, digit⟩, widen more,
      mem_matches'_upTo_oneOf.mpr ⟨by rw [widen_length]; omega, fun unit member => ?_⟩, rfl⟩
    obtain ⟨b, inside, rfl⟩ := List.mem_map.mp member
    exact mem_digits.mpr ⟨b, rfl, others b inside⟩

theorem ssidLength_iff : (if (encode ssid).length < 1 ∨ 32 < (encode ssid).length then
    "Enter an SSID of 1 to 32 bytes." else "") = "" ↔ SsidLength ssid := by
  rw [SsidLength]
  split_ifs with wrong
  · exact iff_of_false (by decide) (by omega)
  · exact iff_of_true rfl (by omega)

theorem pskLength_iff (psk : JsString) {message : String} (nonempty : message ≠ "") :
    (if (encode psk).length ≠ 0 ∧ ((encode psk).length < 8 ∨ 63 < (encode psk).length) then
      message else "") = "" ↔ IsPsk (encode psk) := by
  rw [IsPsk, ← List.length_eq_zero_iff]
  split_ifs with wrong
  · exact iff_of_false nonempty (by omega)
  · exact iff_of_true rfl (by omega)

/-- A handler posts what it has put together unless a check failed. -/
theorem checked_eq_post {wrong : Prop} [Decidable wrong] {errors : List (String × String)}
    {made body : PostBody} :
    (if wrong then Submission.notSaved errors else .post made) = .post body ↔
      ¬ wrong ∧ body = made := by
  split_ifs with failed
  · simp [failed]
  · simp [failed, eq_comm]

theorem staBody_ssid (enabled : Bool) (ssid psk : JsString) (pskClear rotateMac : Bool) :
    (staBody enabled ssid psk pskClear rotateMac).any (·.1 == "sta_ssid") = true ↔
      ssid ≠ [] ∨ enabled := by
  have others : (pskMembers "sta_psk_clear" "sta_psk" pskClear psk).any (·.1 == "sta_ssid") =
      false := by
    unfold pskMembers
    split_ifs <;> rfl
  rw [staBody, List.any_append, List.any_append, others]
  split_ifs with given
  · simpa using given
  · simpa using given

/-- A card posts its object exactly when its inputs pass. -/
theorem submit_eq_post {form : PageForm} {body : PostBody} :
    form.submit = .post body ↔ form.Passes ∧ body = form.body := by
  cases form with
  | ais enabled mmsi =>
    simp only [PageForm.submit, handleConfigSubmit, checked_eq_post, PageForm.Passes]
    rw [← digitsPattern_iff (by decide), Bool.not_eq_true', Bool.not_eq_false]
    rfl
  | sta enabled ssid psk pskClear rotateMac =>
    simp only [PageForm.submit, handleStaSubmit, checked_eq_post, PageForm.Passes, PageForm.body,
      not_or, not_not]
    generalize (if pskClear then [] else psk) = key
    have ssidError : (if (staBody enabled ssid key pskClear rotateMac).any (·.1 == "sta_ssid") then
        staSsidError (encode ssid).length else "") = "" ↔
        (ssid ≠ [] ∨ enabled → SsidLength ssid) := by
      rw [← staBody_ssid enabled ssid key pskClear rotateMac]
      split_ifs with given
      · exact ssidLength_iff.trans (by simp only [given, true_implies])
      · exact iff_of_true rfl fun also => absurd also given
    have pskError : staPskError (encode key).length = "" ↔ IsPsk (encode key) :=
      pskLength_iff key (by decide)
    rw [ssidError, pskError]
  | ap ssid psk pskClear =>
    simp only [PageForm.submit, handleApSubmit, checked_eq_post, PageForm.Passes, not_or, not_not,
      ssidLength_iff, pskLength_iff (if pskClear then [] else psk)
        (show "Enter a password of 8 to 63 characters, or leave blank." ≠ "" by decide)]
    rfl
  | system hostname =>
    simp only [PageForm.submit, handleSystemSubmit, checked_eq_post, PageForm.Passes, not_not]
    rw [hostnameError_eq_empty_iff, exists_widen_iff fun _ label => IsHostname.ascii label]
    rfl
  | tcp enabled host port =>
    have portError : (if (digitsPattern 5).rmatch (trim port) ∧ 1 ≤ number (trim port) ∧
        number (trim port) ≤ 65535 then "" else "Enter a port between 1 and 65535.") = "" ↔
        IsDigits 5 (trim port) ∧ 1 ≤ number (trim port) ∧ number (trim port) ≤ 65535 := by
      rw [← digitsPattern_iff (by decide)]
      split_ifs with passed
      · exact iff_of_true rfl passed
      · exact iff_of_false (by decide) passed
    have hostError : tcpHostError (trim host) = "" ↔ IsHost (encode (trim host)) := by
      rw [tcpHostError_eq_empty_iff, exists_widen_iff fun _ host => IsHost.ascii host]
    simp only [PageForm.submit, handleTcpSubmit, checked_eq_post, PageForm.Passes, not_or, not_not,
      hostError, portError]
    rfl

/-- `n` digits are a number below the `n`-th power of ten. -/
theorem number_lt (digits : IsDigits n text) : number text < 10 ^ n := by
  obtain ⟨ds, rfl, -, short, digits⟩ := digits
  have value (v : ℕ) : ds.foldl (fun v ch => v * 10 + (ch.toNat - 0x30)) v <
      (v + 1) * 10 ^ ds.length := by
    clear short
    induction ds generalizing v with
    | nil => simp
    | cons b ds ih =>
      obtain ⟨⟨-, high⟩, others⟩ := List.forall_mem_cons.mp digits
      have small : b.toNat ≤ 57 := UInt8.le_iff_toNat_le.mp high
      have next := ih others (v * 10 + (b.toNat - 0x30))
      rw [List.foldl_cons, List.length_cons, Nat.pow_succ']
      calc
        _ < (v * 10 + (b.toNat - 0x30) + 1) * 10 ^ ds.length := next
        _ ≤ (v + 1) * 10 * 10 ^ ds.length := Nat.mul_le_mul_right _ (by omega)
        _ = (v + 1) * (10 * 10 ^ ds.length) := Nat.mul_assoc ..
  rw [number_widen]
  refine (value 0).trans_le ?_
  rw [Nat.zero_add, Nat.one_mul]
  exact Nat.pow_le_pow_right (by decide) short

/-- Whatever stands in the inputs, the keys of the object need no escape. -/
theorem body_keys (form : PageForm) : ∀ entry ∈ form.body, plainName entry.1 = true := by
  cases form with
  | ais | system | tcp => simp [PageForm.body]; decide
  | sta enabled ssid psk pskClear rotateMac =>
    simp only [PageForm.body, staBody, pskMembers]
    split_ifs <;> simp <;> decide
  | ap ssid psk pskClear =>
    simp only [PageForm.body, pskMembers]
    split_ifs <;> simp <;> decide

theorem pskMembers_room_le (clearKey pskKey : String) (pskClear : Bool) {psk : JsString}
    (valid : IsPsk (encode psk)) (clear : (ascii ("\"" ++ clearKey ++ "\":")).length ≤ 30)
    (key : (ascii ("\"" ++ pskKey ++ "\":")).length ≤ 30) :
    ((pskMembers clearKey pskKey pskClear psk).map memberRoom).sum ≤ 411 := by
  have length : (encode psk).length ≤ 63 := by
    rcases valid with empty | ⟨-, short⟩
    · simp [empty]
    · exact short
  unfold pskMembers
  split_ifs <;> simp only [List.map_cons, List.map_nil, List.sum_cons, List.sum_nil, memberRoom,
    JsValue.room] <;> omega

/-- A post is never too large for the device. -/
theorem length_posted_body_le {form : PageForm} (passes : form.Passes) :
    (posted form.body).length ≤ webAppConfigBodyMax := by
  refine (length_posted_le (body_keys form)).trans ?_
  rw [webAppConfigBodyMax]
  cases form with
  | ais enabled mmsi =>
    have digits := decimal_length_le (by decide) (number_lt passes)
    simp [PageForm.body, memberRoom, JsValue.room, ascii]
    omega
  | sta enabled ssid psk pskClear rotateMac =>
    obtain ⟨named, key⟩ := passes
    have room := pskMembers_room_le "sta_psk_clear" "sta_psk" pskClear key (by decide) (by decide)
    simp only [PageForm.body, staBody, List.map_append, List.sum_append]
    generalize (if pskClear then [] else psk) = key at room ⊢
    split_ifs with given
    · have short := (named given).2
      simp [memberRoom, JsValue.room, ascii]
      omega
    · simp [memberRoom, JsValue.room, ascii]
      omega
  | ap ssid psk pskClear =>
    obtain ⟨⟨-, short⟩, key⟩ := passes
    have room := pskMembers_room_le "ap_psk_clear" "ap_psk" pskClear key (by decide) (by decide)
    simp [PageForm.body, memberRoom, JsValue.room, ascii]
    omega
  | system hostname =>
    have short : (encode (trim hostname)).length ≤ 32 := passes.length_le
    simp [PageForm.body, memberRoom, JsValue.room, ascii]
    omega
  | tcp enabled host port =>
    obtain ⟨isHost, digits, -⟩ := passes
    have short : (encode (trim host)).length ≤ 15 := isHost.length_le
    have digits := decimal_length_le (by decide) (number_lt digits)
    simp [PageForm.body, memberRoom, JsValue.room, ascii]
    omega

end Passes

end EspNmeaBridge.AppJs
