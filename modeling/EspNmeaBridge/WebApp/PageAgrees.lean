/-
# The page and the device agree

The page checks what it is about to post, the device checks what it has decoded, each in its
own way and against its own constants. In between are `JSON.stringify`, UTF-8 and a decoder
that copies strings as they stand. What the page lets through is decodable, passes the checks
of the device and is stored; what it refuses the device would refuse too.
-/

import EspNmeaBridge.WebApp.CheckedPost
import EspNmeaBridge.WebApp.PageForms
import EspNmeaBridge.WebApp.SplitIndependence

namespace EspNmeaBridge.AppJs

open CString

/-! ## The decoder -/

/-- The field was decoded to the value. -/
def Holds (payload : ConfigPayload) : ConfigField → JsValue → Prop
  | .aisFilterEnabled, .bool value => payload.aisFilterEnabled = value
  | .aisOwnMmsi, .number value => payload.aisOwnMmsi.toInt = value
  | .staEnabled, .bool value => payload.staEnabled = value
  | .staSsid, .string text => payload.staSsid.str = encode text
  | .staPsk, .string text => payload.staPsk.str = encode text
  | .staPskClear, .bool value => payload.staPskClear = value
  | .staRotateMac, .bool value => payload.staRotateMac = value
  | .tcpClientEnabled, .bool value => payload.tcpClientEnabled = value
  | .tcpClientHost, .string text => payload.tcpClientHost.str = encode text
  | .tcpClientPort, .number value => payload.tcpClientPort.toInt = value
  | .apSsid, .string text => payload.apSsid.str = encode text
  | .apPsk, .string text => payload.apPsk.str = encode text
  | .apPskClear, .bool value => payload.apPskClear = value
  | .hostname, .string text => payload.hostname.str = encode text
  | _, _ => False

/-- `JSON.stringify` writes the string as it stands. -/
def Verbatim (text : JsString) : Prop := quoteUnits text = text

instance (text : JsString) : Decidable (Verbatim text) :=
  inferInstanceAs (Decidable (quoteUnits text = text))

/-- The longest string that the buffer of a field has room for. -/
def maxLength : ConfigField → ℕ
  | .staSsid | .apSsid => bridgeConfigWifiSsidMax * 2 + 1
  | .staPsk | .apPsk => bridgeConfigWifiPskMax * 2 + 1
  | .tcpClientHost => bridgeConfigTcpClientHostMax * 2 + 1
  | _ => bridgeConfigHostnameMax * 2 + 1

/-- A value of the type that the descriptor of the field names. -/
def HasType (f : ConfigField) : JsValue → Prop
  | .bool _ => f ∈ [.aisFilterEnabled, .staEnabled, .staPskClear, .staRotateMac,
      .tcpClientEnabled, .apPskClear]
  | .number _ => f ∈ [.aisOwnMmsi, .tcpClientPort]
  | .string _ => f ∈ [.staSsid, .staPsk, .tcpClientHost, .apSsid, .apPsk, .hostname]

/-- Such a value, of a size that fits the field. -/
def Decodable (f : ConfigField) (value : JsValue) : Prop :=
  HasType f value ∧
    match value with
    | .bool _ => True
    | .number value => value < 2 ^ 31
    | .string text => Verbatim text ∧ (encode text).length ≤ maxLength f

/-- Every key is that of a field, once, with a value for its descriptor. -/
structure DecodableBody (body : PostBody) : Prop where
  distinct : (body.map Prod.fst).Nodup
  values : ∀ entry ∈ body, ∃ f : ConfigField, entry.1 = f.key ∧ Decodable f entry.2

/-- The fields that an object has. -/
def present (body : PostBody) (f : ConfigField) : Bool := body.any (·.1 == f.key)

/-- What `json_obj_parse` is relied on for: of an object that its descriptors cover, it finds
the fields and copies their values. -/
def Decodes (jsonObjParse : List UInt8 → JsonResult) (body : PostBody) : Prop :=
  DecodableBody body → ∃ payload, jsonObjParse (posted body) = .decoded (present body) payload ∧
    ∀ f value, (f.key, value) ∈ body → Holds payload f value

/-! ## The limits of the device -/

/-- The device's limits for the value of a field. -/
def Accepts : ConfigField → JsValue → Prop
  | .aisOwnMmsi, .number value => value ≤ 999999999
  | .tcpClientPort, .number value => 1 ≤ value ∧ value ≤ 65535
  | .staSsid, .string text | .apSsid, .string text => SsidLength text ∧ IsText (encode text)
  | .staPsk, .string text | .apPsk, .string text => IsPsk (encode text)
  | .hostname, .string text => IsHostname (encode text)
  | .tcpClientHost, .string text => IsHost (encode text)
  | _, _ => True

section Checks

variable {n : ℕ} {present : ConfigField → Bool} {f : ConfigField} {a : CharArray n}
  {text : JsString}

/-- A check is passed by a field that is absent or within the limit. -/
theorem guarded_eq_none {given wrong : Bool} {limit : Prop} (message : String)
    (decided : wrong = false ↔ limit) :
    fieldErrorIf (given && wrong) f message = none ↔ (given = true → limit) := by
  rw [fieldErrorIf_eq_none, ← decided]
  cases given <;> simp

theorem ssidError_eq_none (room : 32 < n) (value : a.str = encode text) :
    ssidError (jsonMask present) f a = none ↔
      (present f = true → SsidLength text ∧ IsText (encode text)) := by
  have length : a.strlen = (encode text).length := congrArg List.length value
  unfold ssidError SsidLength
  cases given : present f with
  | false => simp [given]
  | true =>
    simp only [hasField_jsonMask, given, Bool.not_true, Bool.false_eq_true, if_false, length,
      bridgeConfigWifiSsidMax, true_implies]
    split_ifs with wrong
    · refine iff_of_false (by simp) ?_
      rintro ⟨⟨positive, short⟩, -⟩
      omega
    · have ended : a.terminated = true := CharArray.terminated_of_strlen_lt (by omega)
      rw [fieldErrorIf_eq_none, bne_eq_false_iff_eq, (valid_iff_of_terminated ended).1, value]
      exact (and_iff_right ⟨by omega, by omega⟩).symm

theorem pskError_eq_none (value : a.str = encode text) :
    pskError (jsonMask present) f a = none ↔ (present f = true → IsPsk (encode text)) := by
  have length : a.strlen = (encode text).length := congrArg List.length value
  rw [pskError, hasField_jsonMask]
  refine guarded_eq_none _ ?_
  rw [IsPsk, length, ← List.length_eq_zero_iff]
  simp only [Bool.and_eq_false_iff, bne_eq_false_iff_eq, Bool.or_eq_false_iff,
    decide_eq_false_iff_not, Nat.not_lt]
  rfl

/-- A text with a limit, where the validator accepts nothing beyond the limit. -/
theorem textError_eq_none {max : ℕ} {valid : List UInt8 → Option Bool}
    (language : List UInt8 → Prop) (message : String) (value : a.str = encode text)
    (decided : a.strlen ≤ max → (valid a.bytes = some true ↔ language a.str))
    (short : ∀ text, language text → text.length ≤ max) :
    textError (jsonMask present) f max valid message a = none ↔
      (present f = true → language (encode text)) := by
  rw [textError, hasField_jsonMask]
  refine guarded_eq_none _ ?_
  rw [Bool.or_eq_false_iff, decide_eq_false_iff_not, bne_eq_false_iff_eq, Nat.not_lt, ← value]
  constructor
  · rintro ⟨within, accepted⟩
    exact (decided within).mp accepted
  · intro member
    have within := short _ member
    exact ⟨within, (decided within).mpr member⟩

theorem aisOwnMmsiError_eq_none {mmsi : Int32} {value : ℕ} (holds : mmsi.toInt = value) :
    aisOwnMmsiError (jsonMask present) mmsi = none ↔
      (present .aisOwnMmsi = true → value ≤ 999999999) := by
  have nonneg : (0 : Int32) ≤ mmsi := by
    rw [Int32.le_iff_toInt_le, holds]
    exact Int.natCast_nonneg value
  have same : mmsi.toUInt32.toNat = value := by
    have := toNat_toUInt32 nonneg
    omega
  rw [aisOwnMmsiError, hasField_jsonMask]
  refine guarded_eq_none _ ?_
  rw [Bool.or_eq_false_iff, decide_eq_false_iff_not, decide_eq_false_iff_not,
    Int32.not_lt, UInt32.not_lt, UInt32.le_iff_toNat_le, same]
  exact and_iff_right nonneg

theorem tcpClientPortError_eq_none {port : Int32} {value : ℕ} (holds : port.toInt = value) :
    tcpClientPortError (jsonMask present) port = none ↔
      (present .tcpClientPort = true → 1 ≤ value ∧ value ≤ 65535) := by
  rw [tcpClientPortError, hasField_jsonMask]
  refine guarded_eq_none _ ?_
  rw [Bool.or_eq_false_iff, decide_eq_false_iff_not, decide_eq_false_iff_not,
    Int32.not_lt, Int32.not_lt, Int32.le_iff_toInt_le, Int32.le_iff_toInt_le, holds]
  simp

end Checks

section Bodies

variable {body : PostBody} {payload : ConfigPayload} {f : ConfigField} {P : Prop}

theorem present_iff : present body f = true ↔ ∃ value, (f.key, value) ∈ body := by
  simp only [present, List.any_eq_true, beq_iff_eq, Prod.exists]
  constructor
  · rintro ⟨key, value, member, rfl⟩
    exact ⟨value, member⟩
  · rintro ⟨value, member⟩
    exact ⟨_, value, member, rfl⟩

/-- A PSK is not both cleared and set. -/
def NoConflict (body : PostBody) (clearField pskField : ConfigField) : Prop :=
  (clearField.key, JsValue.bool true) ∈ body → ∀ text, (pskField.key, JsValue.string text) ∈ body →
    encode text = []

/-- A check that is decided by the value of its field. -/
theorem check_iff {A : JsValue → Prop} {check : Option ConfigResponse}
    (absent : present body f = false → check = none)
    (decided : ∀ value, (f.key, value) ∈ body →
      (check = none ↔ (present body f = true → A value))) :
    check = none ↔ ∀ value, (f.key, value) ∈ body → A value := by
  constructor
  · intro passed value member
    exact (decided value member).mp passed (present_iff.mpr ⟨value, member⟩)
  · intro accepted
    by_cases given : present body f = true
    · obtain ⟨value, member⟩ := present_iff.mp given
      exact (decided value member).mpr fun _ => accepted value member
    · exact absent (by simpa using given)

theorem pskClearError_eq_none {n : ℕ} {psk : CharArray n} {clearField pskField : ConfigField}
    {clear : Bool} (cleared : ∀ value, (clearField.key, value) ∈ body → value = .bool clear)
    (given : ∀ value, (pskField.key, value) ∈ body →
      ∃ text, value = .string text ∧ psk.str = encode text) :
    pskClearError (jsonMask (present body)) clearField clear pskField psk = none ↔
      NoConflict body clearField pskField := by
  have both : pskClearError (jsonMask (present body)) clearField clear pskField psk = none ↔
      (present body clearField = true ∧ clear = true → present body pskField = true →
        psk.str = []) := by
    simp only [pskClearError, fieldErrorIf_eq_none, hasField_jsonMask, Bool.and_eq_false_iff,
      bne_eq_false_iff_eq, CharArray.byteAt_zero_eq_zero]
    cases present body clearField <;> cases clear <;> cases present body pskField <;> simp
  rw [both]
  constructor
  · intro quiet member text also
    obtain rfl : true = clear := JsValue.bool.inj (cleared _ member)
    obtain ⟨_, same, value⟩ := given _ also
    obtain rfl := JsValue.string.inj same
    exact value ▸ quiet ⟨present_iff.mpr ⟨_, member⟩, rfl⟩ (present_iff.mpr ⟨_, also⟩)
  · rintro quiet ⟨named, rfl⟩ also
    obtain ⟨value, member⟩ := present_iff.mp named
    obtain rfl := cleared value member
    obtain ⟨value, other⟩ := present_iff.mp also
    obtain ⟨text, rfl, same⟩ := given value other
    exact same.trans (quiet member text other)

/-- The checks of the device are passed by what was decoded exactly when the object is within
its limits. -/
theorem firstFieldError_eq_none
    (holds : ∀ f value, (f.key, value) ∈ body → Holds payload f value) :
    firstFieldError (jsonMask (present body)) payload = none ↔
      (∀ f value, (f.key, value) ∈ body → Accepts f value) ∧
        NoConflict body .staPskClear .staPsk ∧ NoConflict body .apPskClear .apPsk := by
  have mmsi : aisOwnMmsiError (jsonMask (present body)) payload.aisOwnMmsi = none ↔
      ∀ value, (ConfigField.aisOwnMmsi.key, value) ∈ body → Accepts .aisOwnMmsi value := by
    refine check_iff (fun absent => by simp [aisOwnMmsiError, absent]) fun value member => ?_
    cases value with
    | number => exact aisOwnMmsiError_eq_none (holds _ _ member)
    | bool | string => exact (holds _ _ member).elim
  have port : tcpClientPortError (jsonMask (present body)) payload.tcpClientPort = none ↔
      ∀ value, (ConfigField.tcpClientPort.key, value) ∈ body → Accepts .tcpClientPort value := by
    refine check_iff (fun absent => by simp [tcpClientPortError, absent]) fun value member => ?_
    cases value with
    | number => exact tcpClientPortError_eq_none (holds _ _ member)
    | bool | string => exact (holds _ _ member).elim
  have ssids :
      (ssidError (jsonMask (present body)) .staSsid payload.staSsid = none ↔
        ∀ value, (ConfigField.staSsid.key, value) ∈ body → Accepts .staSsid value) ∧
      (ssidError (jsonMask (present body)) .apSsid payload.apSsid = none ↔
        ∀ value, (ConfigField.apSsid.key, value) ∈ body → Accepts .apSsid value) := by
    constructor <;>
      refine check_iff (fun absent => by simp [ssidError, absent]) fun value member => ?_ <;>
      cases value with
      | string => exact ssidError_eq_none (by decide) (holds _ _ member)
      | bool | number => exact (holds _ _ member).elim
  have psks :
      (pskError (jsonMask (present body)) .staPsk payload.staPsk = none ↔
        ∀ value, (ConfigField.staPsk.key, value) ∈ body → Accepts .staPsk value) ∧
      (pskError (jsonMask (present body)) .apPsk payload.apPsk = none ↔
        ∀ value, (ConfigField.apPsk.key, value) ∈ body → Accepts .apPsk value) := by
    constructor <;>
      refine check_iff (fun absent => by simp [pskError, absent]) fun value member => ?_ <;>
      cases value with
      | string => exact pskError_eq_none (holds _ _ member)
      | bool | number => exact (holds _ _ member).elim
  have hostname : EspNmeaBridge.hostnameError (jsonMask (present body)) payload.hostname = none ↔
      ∀ value, (ConfigField.hostname.key, value) ∈ body → Accepts .hostname value := by
    refine check_iff (fun absent => by simp [EspNmeaBridge.hostnameError, textError, absent])
      fun value member => ?_
    cases value with
    | string =>
      refine textError_eq_none IsHostname _ (holds _ _ member) (fun within => ?_) fun _ label =>
        label.length_le
      exact (valid_iff_of_terminated (CharArray.terminated_of_strlen_lt
        (within.trans_lt (by decide)))).2.2
    | bool | number => exact (holds _ _ member).elim
  have host : tcpClientHostError (jsonMask (present body)) payload.tcpClientHost = none ↔
      ∀ value, (ConfigField.tcpClientHost.key, value) ∈ body → Accepts .tcpClientHost value := by
    refine check_iff (fun absent => by simp [tcpClientHostError, textError, absent])
      fun value member => ?_
    cases value with
    | string =>
      refine textError_eq_none IsHost _ (holds _ _ member) (fun within => ?_) fun _ host =>
        host.length_le
      exact (valid_iff_of_terminated (CharArray.terminated_of_strlen_lt
        (within.trans_lt (by decide)))).2.1
    | bool | number => exact (holds _ _ member).elim
  have staClear := @pskClearError_eq_none body _ payload.staPsk .staPskClear .staPsk
    payload.staPskClear (fun value member => by
      have := holds _ _ member
      cases value <;> simp_all [Holds]) (fun value member => by
      have := holds _ _ member
      cases value <;> simp_all [Holds])
  have apClear := @pskClearError_eq_none body _ payload.apPsk .apPskClear .apPsk
    payload.apPskClear (fun value member => by
      have := holds _ _ member
      cases value <;> simp_all [Holds]) (fun value member => by
      have := holds _ _ member
      cases value <;> simp_all [Holds])
  simp only [firstFieldError, List.findSome?_eq_none_iff, List.forall_mem_cons, id,
    List.not_mem_nil, false_implies, implies_true, and_true]
  rw [mmsi, port, ssids.1, ssids.2, psks.1, psks.2, hostname, host, staClear, apClear]
  constructor
  · rintro ⟨mmsi, staSsid, staPsk, staClear, apSsid, apPsk, apClear, hostname, host, port⟩
    refine ⟨fun f value member => ?_, staClear, apClear⟩
    cases f with
    | aisOwnMmsi => exact mmsi value member
    | staSsid => exact staSsid value member
    | staPsk => exact staPsk value member
    | apSsid => exact apSsid value member
    | apPsk => exact apPsk value member
    | hostname => exact hostname value member
    | tcpClientHost => exact host value member
    | tcpClientPort => exact port value member
    | _ => cases value <;> trivial
  · rintro ⟨accepted, staClear, apClear⟩
    exact ⟨accepted _, accepted _, accepted _, staClear, accepted _, accepted _, apClear,
      accepted _, accepted _, accepted _⟩

end Bodies

/-! ## The fields of a card -/

/-- The fields of a new PSK. -/
def pskFields (clearField pskField : ConfigField) (pskClear : Bool) (psk : JsString) :
    List (ConfigField × JsValue) :=
  if pskClear then [(clearField, .bool true)]
  else if psk ≠ [] then [(pskField, .string psk)]
  else []

/-- What a card stands for, in the fields of the device. -/
def fields : PageForm → List (ConfigField × JsValue)
  | .ais enabled mmsi =>
    [(.aisFilterEnabled, .bool enabled), (.aisOwnMmsi, .number (number (trim mmsi)))]
  | .sta enabled ssid psk pskClear rotateMac =>
    [(.staEnabled, .bool enabled), (.staRotateMac, .bool rotateMac)] ++
      (if ssid ≠ [] ∨ enabled then [(.staSsid, .string ssid)] else []) ++
      pskFields .staPskClear .staPsk pskClear psk
  | .ap ssid psk pskClear => (.apSsid, .string ssid) :: pskFields .apPskClear .apPsk pskClear psk
  | .system hostname => [(.hostname, .string (trim hostname))]
  | .tcp enabled host port =>
    [(.tcpClientEnabled, .bool enabled), (.tcpClientHost, .string (trim host)),
      (.tcpClientPort, .number (number (trim port)))]

/-- The texts of a card are written as they stand. -/
def VerbatimTexts (form : PageForm) : Prop :=
  ∀ entry ∈ fields form, ∀ text, entry.2 = .string text → Verbatim text

section Fields

variable {form : PageForm} {f : ConfigField} {value : JsValue} {text : JsString}

theorem key_injective : Function.Injective ConfigField.key := by
  intro f f' same
  cases f <;> cases f' <;> first | rfl | exact absurd same (by decide)

/-- The keys of the page are those of the device. -/
theorem body_eq_fields (form : PageForm) :
    form.body = (fields form).map fun entry => (entry.1.key, entry.2) := by
  cases form with
  | ais | system | tcp => rfl
  | sta enabled ssid psk pskClear rotateMac =>
    cases pskClear <;> simp only [PageForm.body, staBody, pskMembers, fields, pskFields] <;>
      split_ifs <;> rfl
  | ap ssid psk pskClear =>
    cases pskClear <;> simp only [PageForm.body, pskMembers, fields, pskFields] <;>
      split_ifs <;> rfl

theorem mem_body : (f.key, value) ∈ form.body ↔ (f, value) ∈ fields form := by
  rw [body_eq_fields, List.mem_map]
  constructor
  · rintro ⟨⟨g, v⟩, member, same⟩
    obtain ⟨keys, rfl⟩ := Prod.mk.inj same
    exact key_injective keys ▸ member
  · exact fun member => ⟨_, member, rfl⟩

theorem present_body : present form.body f = (fields form).any (·.1 = f) := by
  rw [Bool.eq_iff_iff, present_iff, List.any_eq_true]
  simp only [mem_body, decide_eq_true_eq, Prod.exists]
  exact ⟨fun ⟨v, member⟩ => ⟨f, v, member, rfl⟩, fun ⟨_, v, member, same⟩ => ⟨v, same ▸ member⟩⟩

@[simp] theorem any_pskFields (clearField pskField f : ConfigField) (pskClear : Bool)
    (psk : JsString) : (pskFields clearField pskField pskClear psk).any (·.1 = f) =
      (pskClear && decide (clearField = f) ||
        !pskClear && decide (psk ≠ []) && decide (pskField = f)) := by
  cases pskClear <;> by_cases blank : psk = [] <;> simp [pskFields, blank]

theorem fields_nodup (form : PageForm) : ((fields form).map Prod.fst).Nodup := by
  cases form with
  | ais | system | tcp => simp [fields]
  | sta enabled ssid psk pskClear rotateMac =>
    simp only [fields, pskFields]
    split_ifs <;> simp
  | ap ssid psk pskClear =>
    simp only [fields, pskFields]
    split_ifs <;> simp

/-- Quoting makes no string shorter. -/
theorem length_le_quoteUnits (text : JsString) : text.length ≤ (quoteUnits text).length := by
  have one (unit : UInt16) : 1 ≤ (quoteUnit unit).length := by
    rcases quoteUnit_cases unit with ⟨escape, quoted, -, long, -⟩ | ⟨plain, -⟩
    · rw [quoted, widen_length]
      omega
    · simp [plain]
  fun_induction quoteUnits text with
  | case1 high low rest pair ih =>
    simp only [List.length_cons]
    omega
  | case2 high low rest other ih =>
    have := one high
    simp only [List.length_cons, List.length_append] at ih ⊢
    omega
  | case3 unit => exact one unit
  | case4 => simp

/-- A string that is written as it stands has no control characters. -/
theorem printable_of_verbatim (verbatim : Verbatim text) : ∀ c ∈ scalars text, 0x20 ≤ c.toNat := by
  unfold Verbatim at verbatim
  have unit_printable {unit : UInt16} (low : 0x20 ≤ unit)
      (whole : ¬ (0xD800 ≤ unit ∧ unit ≤ 0xDFFF)) : 0x20 ≤ (scalar unit).toNat := by
    by_contra control
    have same := @scalar_of_ascii unit (by omega)
    have bound : 0x20 ≤ unit.toNat := UInt16.le_iff_toNat_le.mp low
    omega
  fun_induction scalars text with
  | case1 high low rest pair ih =>
    simp only [quoteUnits, pair, and_self, if_true, List.cons.injEq, true_and] at verbatim
    refine List.forall_mem_cons.mpr ⟨?_, ih verbatim⟩
    obtain ⟨lower, upper, lower', upper'⟩ := pair
    simp only [UInt16.le_iff_toNat_le, UInt16.reduceToNat] at lower upper lower' upper'
    rw [Char.toNat_ofNat, if_pos]
    · omega
    · refine Or.inr ⟨?_, ?_⟩ <;> omega
  | case2 high low rest other ih =>
    rw [quoteUnits, if_neg other] at verbatim
    have tail := length_le_quoteUnits (low :: rest)
    rcases quoteUnit_cases high with ⟨escape, quoted, -, long, -⟩ | ⟨plain, printable, whole⟩
    · have lengths := congrArg List.length verbatim
      rw [quoted, List.length_append, widen_length, List.length_cons] at lengths
      omega
    · rw [plain, List.singleton_append, List.cons.injEq] at verbatim
      exact List.forall_mem_cons.mpr ⟨unit_printable printable whole, ih verbatim.2⟩
  | case3 unit =>
    rcases quoteUnit_cases unit with ⟨escape, quoted, -, long, -⟩ | ⟨plain, printable, whole⟩
    · have lengths := congrArg List.length verbatim
      rw [quoteUnits, quoted, widen_length, List.length_singleton] at lengths
      omega
    · simpa using unit_printable printable whole
  | case4 => simp

theorem isText_of_verbatim (verbatim : Verbatim text) : IsText (encode text) :=
  ⟨scalars text, rfl, printable_of_verbatim verbatim⟩

/-- What the checks of a card leave is within the limits of the device. -/
theorem accepts_of_passes (passes : form.Passes) (verbatim : VerbatimTexts form) :
    ∀ entry ∈ fields form, Accepts entry.1 entry.2 := by
  cases form with
  | ais enabled mmsi =>
    have small := number_lt passes
    refine List.forall_mem_cons.mpr ⟨trivial, List.forall_mem_singleton.mpr ?_⟩
    rw [Accepts]
    omega
  | sta enabled ssid psk pskClear rotateMac =>
    obtain ⟨named, key⟩ := passes
    have text (given : ssid ≠ [] ∨ enabled = true) : IsText (encode ssid) :=
      isText_of_verbatim (verbatim (.staSsid, .string ssid) (by simp [fields, given]) _ rfl)
    rw [fields, pskFields, List.forall_mem_append, List.forall_mem_append]
    refine ⟨⟨by simp [Accepts], ?_⟩, ?_⟩
    · split_ifs with given
      · exact List.forall_mem_singleton.mpr ⟨named given, text given⟩
      · simp
    · split_ifs with clear blank
      · exact List.forall_mem_singleton.mpr trivial
      · rw [if_neg clear] at key
        exact List.forall_mem_singleton.mpr key
      · simp
  | ap ssid psk pskClear =>
    obtain ⟨named, key⟩ := passes
    have text := isText_of_verbatim (verbatim (.apSsid, .string ssid) (by simp [fields]) _ rfl)
    rw [fields, pskFields, List.forall_mem_cons]
    refine ⟨⟨named, text⟩, ?_⟩
    split_ifs with clear blank
    · exact List.forall_mem_singleton.mpr trivial
    · rw [if_neg clear] at key
      exact List.forall_mem_singleton.mpr key
    · simp
  | system hostname => exact List.forall_mem_singleton.mpr passes
  | tcp enabled host port =>
    obtain ⟨isHost, -, range⟩ := passes
    exact List.forall_mem_cons.mpr ⟨trivial, List.forall_mem_cons.mpr ⟨isHost,
      List.forall_mem_singleton.mpr range⟩⟩

theorem fields_hasType (form : PageForm) : ∀ entry ∈ fields form, HasType entry.1 entry.2 := by
  cases form with
  | ais | system | tcp => simp [fields, HasType]
  | sta enabled ssid psk pskClear rotateMac =>
    simp only [fields, pskFields]
    split_ifs <;> simp [HasType]
  | ap ssid psk pskClear =>
    simp only [fields, pskFields]
    split_ifs <;> simp [HasType]

theorem length_le_maxLength (typed : HasType f (.string text))
    (accepted : Accepts f (.string text)) : (encode text).length ≤ maxLength f := by
  have psk (valid : IsPsk (encode text)) : (encode text).length ≤ 127 := by
    rcases valid with empty | ⟨-, short⟩
    · simp [empty]
    · omega
  simp only [HasType, List.mem_cons, List.not_mem_nil, or_false] at typed
  rcases typed with rfl | rfl | rfl | rfl | rfl | rfl
  · exact accepted.1.2.trans (by decide)
  · exact psk accepted
  · exact (IsHost.length_le accepted).trans (by decide)
  · exact accepted.1.2.trans (by decide)
  · exact psk accepted
  · exact (IsHostname.length_le accepted).trans (by decide)

/-- What is within the limits of the device can be decoded. -/
theorem decodable_of_accepts (typed : HasType f value) (accepted : Accepts f value)
    (verbatim : ∀ text, value = .string text → Verbatim text) : Decodable f value := by
  refine ⟨typed, ?_⟩
  cases value with
  | bool => trivial
  | number n =>
    simp only [HasType, List.mem_cons, List.not_mem_nil, or_false] at typed
    rcases typed with rfl | rfl
    · exact (show n ≤ 999999999 from accepted).trans_lt (by decide)
    · exact (show n ≤ 65535 from accepted.2).trans_lt (by decide)
  | string text => exact ⟨verbatim text rfl, length_le_maxLength typed accepted⟩

/-- An object that passes the checks of its card is one that the descriptors cover. -/
theorem decodableBody (passes : form.Passes) (verbatim : VerbatimTexts form) :
    DecodableBody form.body where
  distinct := by
    have keys : form.body.map Prod.fst = ((fields form).map Prod.fst).map ConfigField.key := by
      rw [body_eq_fields, List.map_map, List.map_map]
      rfl
    rw [keys]
    exact (fields_nodup form).map key_injective
  values := by
    rw [body_eq_fields]
    intro entry member
    obtain ⟨field, inside, rfl⟩ := List.mem_map.mp member
    exact ⟨field.1, rfl, decodable_of_accepts (fields_hasType form _ inside)
      (accepts_of_passes passes verbatim _ inside) (verbatim _ inside)⟩

/-- A card either clears a PSK or sets one. -/
theorem noConflict (form : PageForm) : NoConflict form.body .staPskClear .staPsk ∧
    NoConflict form.body .apPskClear .apPsk := by
  constructor <;> intro member text also <;> rw [mem_body] at member also <;> exfalso
  all_goals cases form with
  | ais | system | tcp => simp [fields] at member
  | sta enabled ssid psk pskClear rotateMac =>
    simp only [fields, pskFields] at member also
    split_ifs at member also <;> simp at member also
  | ap ssid psk pskClear =>
    simp only [fields, pskFields] at member also
    split_ifs at member also <;> simp at member also

/-- A number without leading zeros has as few digits as its value allows. -/
theorem isDigits_of_canonical {k n : ℕ} (positive : 0 < k) (canonical : text = widen (decimal n))
    (small : number text < 10 ^ k) : IsDigits k text := by
  subst canonical
  rw [number_widen, foldl_decimal] at small
  exact ⟨decimal n, rfl, by simp [decimal], decimal_length_le positive small, digit_of_mem_decimal⟩

end Fields

/-! ## Both sides -/

/-- What is decoded of a card of the station with nothing but an SSID and a PSK. -/
def stationPayload (ssid psk : String) : ConfigPayload where
  aisFilterEnabled := false
  aisOwnMmsi := 0
  staEnabled := true
  staSsid := .ofBytes _ (ascii ssid)
  staPsk := .ofBytes _ (ascii psk)
  staPskClear := false
  staRotateMac := false
  tcpClientEnabled := false
  tcpClientHost := .zeroed _
  tcpClientPort := 0
  apSsid := .zeroed _
  apPsk := .zeroed _
  apPskClear := false
  hostname := .zeroed _

def stationCard (ssid psk : String) : PageForm :=
  .sta true (widen (ascii ssid)) (widen (ascii psk)) false false

/-- The decoder on that card. -/
def stationParse (ssid psk : String) (text : List UInt8) : JsonResult :=
  if text = posted (stationCard ssid psk).body then
    .decoded (present (stationCard ssid psk).body) (stationPayload ssid psk)
  else .failed

theorem fields_stationCard (ssid psk : String) (given : widen (ascii psk) ≠ []) :
    fields (stationCard ssid psk) = [(.staEnabled, .bool true), (.staRotateMac, .bool false),
      (.staSsid, .string (widen (ascii ssid))), (.staPsk, .string (widen (ascii psk)))] := by
  simp [stationCard, fields, pskFields, given]

theorem stationPayload_holds {ssid psk : String} (given : widen (ascii psk) ≠ [])
    (named : (stationPayload ssid psk).staSsid.str = encode (widen (ascii ssid)))
    (key : (stationPayload ssid psk).staPsk.str = encode (widen (ascii psk))) :
    ∀ f value, (f.key, value) ∈ (stationCard ssid psk).body →
      Holds (stationPayload ssid psk) f value := by
  have all : ∀ entry ∈ fields (stationCard ssid psk),
      Holds (stationPayload ssid psk) entry.1 entry.2 := by
    rw [fields_stationCard ssid psk given]
    simp only [List.forall_mem_cons]
    exact ⟨rfl, rfl, named, key, by simp⟩
  exact fun f value member => all (f, value) (mem_body.mp member)

/-- The group that a card edits. -/
def group : PageForm → Group
  | .ais .. => .ais
  | .sta .. => .sta
  | .ap .. => .ap
  | .system _ => .system
  | .tcp .. => .tcpClient

/-- The PSK that a card leaves behind. -/
def savedPsk (pskClear : Bool) (psk : JsString) (old : List UInt8) : List UInt8 :=
  if pskClear then [] else if psk = [] then old else encode psk

/-- The inputs of a card are what is configured. -/
def Saved (old new : EffectiveConfig) : PageForm → Prop
  | .ais enabled mmsi =>
    (new .ais).filterEnabled = enabled ∧ (new .ais).ownMmsi.toNat = number (trim mmsi)
  | .sta enabled ssid psk pskClear rotateMac =>
    (new .sta).enabled = enabled ∧ (new .sta).rotateMac = rotateMac ∧
      (new .sta).ssid.str = (if ssid ≠ [] ∨ enabled then encode ssid else (old .sta).ssid.str) ∧
      (new .sta).psk.str = savedPsk pskClear psk (old .sta).psk.str
  | .ap ssid psk pskClear =>
    (new .ap).ssid.str = encode ssid ∧ (new .ap).psk.str = savedPsk pskClear psk (old .ap).psk.str
  | .system hostname => (new .system).hostname.str = encode (trim hostname)
  | .tcp enabled host port =>
    (new .tcpClient).enabled = enabled ∧ (new .tcpClient).host.str = encode (trim host) ∧
      (new .tcpClient).port.toNat = number (trim port)

section Saving

variable {form : PageForm} {payload : ConfigPayload} {old new : EffectiveConfig} {s : JsString}

@[simp] theorem encode_eq_nil : encode s = [] ↔ s = [] := by
  constructor
  · intro nothing
    have none : scalars s = [] := by
      by_contra some
      obtain ⟨c, cs, more⟩ := List.exists_cons_of_ne_nil some
      rw [encode, more, List.flatMap_cons, List.append_eq_nil_iff] at nothing
      exact String.utf8EncodeChar_ne_nil nothing.1
    fun_cases scalars s with
    | case1 high low rest pair => simp [scalars, pair] at none
    | case2 high low rest other => simp [scalars, if_neg other] at none
    | case3 unit => simp [scalars] at none
    | case4 => rfl
  · rintro rfl
    rfl

theorem submittedPsk_eq {present : ConfigField → Bool} {clearField pskField : ConfigField}
    {pskClear clear : Bool} {psk : JsString} {text old : List UInt8}
    (clears : present clearField = pskClear) (sets : present pskField = (!pskClear && psk ≠ []))
    (cleared : pskClear = true → clear = true)
    (value : pskClear = false → psk ≠ [] → text = encode psk) :
    submittedPsk present clearField clear pskField text old = savedPsk pskClear psk old := by
  unfold submittedPsk savedPsk
  rw [clears, sets]
  cases pskClear with
  | true => simp [cleared rfl]
  | false =>
    by_cases blank : psk = []
    · simp [blank]
    · simp [blank, value rfl blank]

/-- The fields of a card have their values where the submitted fields have theirs. -/
theorem saved_of_submitted (holds : ∀ f value, (f.key, value) ∈ form.body → Holds payload f value)
    (submitted : SubmittedFields (present form.body) payload old new) : Saved old new form := by
  have holds' (f : ConfigField) (value : JsValue) (member : (f, value) ∈ fields form) :
      Holds payload f value := holds f value (mem_body.mpr member)
  cases form with
  | ais enabled mmsi =>
    have filterEnabled := submitted.aisFilterEnabled
    have ownMmsi := submitted.aisOwnMmsi
    rw [if_pos (by simp [present_body, fields])] at filterEnabled ownMmsi
    have decoded : payload.aisFilterEnabled = enabled :=
      holds' .aisFilterEnabled (.bool enabled) (by simp [fields])
    have decoded' : payload.aisOwnMmsi.toInt = number (trim mmsi) :=
      holds' .aisOwnMmsi (.number (number (trim mmsi))) (by simp [fields])
    exact ⟨filterEnabled.trans decoded, by omega⟩
  | sta enabled ssid psk pskClear rotateMac =>
    have staEnabled := submitted.staEnabled
    have staRotateMac := submitted.staRotateMac
    rw [if_pos (by simp [present_body, fields])] at staEnabled staRotateMac
    have decoded : payload.staEnabled = enabled :=
      holds' .staEnabled (.bool enabled) (by simp [fields])
    have decoded' : payload.staRotateMac = rotateMac :=
      holds' .staRotateMac (.bool rotateMac) (by simp [fields])
    refine ⟨staEnabled.trans decoded, staRotateMac.trans decoded', ?_, ?_⟩
    · rw [submitted.staSsid, present_body]
      by_cases named : ssid ≠ [] ∨ enabled = true
      · rw [if_pos (by simp [fields, named]), if_pos named]
        exact holds' .staSsid (.string ssid) (by simp [fields, named])
      · rw [if_neg (by simp [fields, named]), if_neg named]
    · rw [submitted.staPsk]
      refine submittedPsk_eq ?_ ?_ (fun clear => ?_) fun keep blank => ?_
      · by_cases named : ssid ≠ [] ∨ enabled = true <;> simp [present_body, fields, named]
      · by_cases named : ssid ≠ [] ∨ enabled = true <;> simp [present_body, fields, named]
      · exact holds' .staPskClear (.bool true) (by simp [fields, pskFields, clear])
      · exact holds' .staPsk (.string psk) (by simp [fields, pskFields, keep, blank])
  | ap ssid psk pskClear =>
    constructor
    · rw [submitted.apSsid, if_pos (by simp [present_body, fields])]
      exact holds' .apSsid (.string ssid) (by simp [fields])
    · rw [submitted.apPsk]
      refine submittedPsk_eq ?_ ?_ (fun clear => ?_) fun keep blank => ?_
      · simp [present_body, fields]
      · simp [present_body, fields]
      · exact holds' .apPskClear (.bool true) (by simp [fields, pskFields, clear])
      · exact holds' .apPsk (.string psk) (by simp [fields, pskFields, keep, blank])
  | system hostname =>
    have hostname' := submitted.hostname
    rw [if_pos (by simp [present_body, fields])] at hostname'
    exact hostname'.trans (holds' .hostname (.string (trim hostname)) (by simp [fields]))
  | tcp enabled host port =>
    have tcpClientEnabled := submitted.tcpClientEnabled
    have tcpClientHost := submitted.tcpClientHost
    have tcpClientPort := submitted.tcpClientPort
    rw [if_pos (by simp [present_body, fields])] at tcpClientEnabled tcpClientHost tcpClientPort
    have decoded : payload.tcpClientPort.toInt = number (trim port) :=
      holds' .tcpClientPort (.number (number (trim port))) (by simp [fields])
    exact ⟨tcpClientEnabled.trans (holds' .tcpClientEnabled (.bool enabled) (by simp [fields])),
      tcpClientHost.trans (holds' .tcpClientHost (.string (trim host)) (by simp [fields])),
      by omega⟩

/-- A card saves its group and no other. -/
theorem saveOrder_filter (form : PageForm) :
    (saveOrder.filter fun g => g.fields.any (present form.body)) = [group form] := by
  cases form with
  | sta enabled ssid psk pskClear rotateMac =>
    by_cases named : ssid ≠ [] ∨ enabled = true <;>
      simp [saveOrder, Group.fields, present_body, fields, group, named]
  | _ => simp [saveOrder, Group.fields, present_body, fields, group]

/-- No card is empty. -/
theorem jsonMask_body_ne_zero (form : PageForm) : jsonMask (present form.body) ≠ 0 := by
  intro zero
  have given : ∃ f, present form.body f = true := by
    cases form with
    | ais => exact ⟨.aisFilterEnabled, rfl⟩
    | sta => exact ⟨.staEnabled, rfl⟩
    | ap => exact ⟨.apSsid, rfl⟩
    | system => exact ⟨.hostname, rfl⟩
    | tcp => exact ⟨.tcpClientEnabled, rfl⟩
  obtain ⟨f, given⟩ := given
  rw [← hasField_jsonMask (present form.body), zero] at given
  simp [hasField, hasFields, BitMask.meets] at given

/-- A card that enables the station names its network. -/
theorem ssid_of_enabled {sta : BridgeConfigSta} {world : ConfigWorld}
    (holds : ∀ f value, (f.key, value) ∈ form.body → Holds payload f value)
    (passes : form.Passes) (accepted : Accepted (jsonMask (present form.body)) payload)
    (merged : merge (jsonMask (present form.body)) payload .sta (world.config .sta) = some sta) :
    staNeedsSsid (jsonMask (present form.body)) payload sta = false := by
  rw [staNeedsSsid, hasField_jsonMask]
  cases form with
  | sta enabled ssid psk pskClear rotateMac =>
    have decoded : payload.staEnabled = enabled :=
      holds .staEnabled (.bool enabled) (mem_body.mpr (by simp [fields]))
    cases enabled with
    | false => simp [decoded]
    | true =>
      have value : payload.staSsid.str = encode ssid :=
        holds .staSsid (.string ssid) (mem_body.mpr (by simp [fields]))
      have new := mergeSta_submitted accepted merged
      rw [BridgeConfigSta.value, Prod.mk.injEq, Prod.mk.injEq, Prod.mk.injEq, present_body,
        present_body, present_body] at new
      have named : sta.ssid.str = encode ssid := by
        rw [new.2.2.1, if_pos (by simp [fields]), value]
      have nonempty : sta.ssid.str ≠ [] := by
        rw [named, ← List.length_pos_iff]
        exact (passes.1 (Or.inr rfl)).1
      simp [nonempty]
  | _ => simp [present_body, fields]

/-- Whether the request buffer holds head and body, with a byte left behind them. -/
def FitsBuffer (request : HttpRequest) : Prop :=
  request.bodyOffset + request.contentLength < webAppRxBufSize

instance (request : HttpRequest) : Decidable (FitsBuffer request) := Nat.decLt _ _

theorem readRemainingBody_posted {body : List UInt8} {request : HttpRequest}
    {recvs : List WebRecv} (arrives : BodyArrives body request recvs)
    (hasLength : request.hasContentLength = true) :
    readRemainingBody request recvs = if FitsBuffer request then some body else none := by
  have same : webAppRxBufSize - request.bodyOffset ≤ request.contentLength ↔
      ¬ FitsBuffer request := by
    rw [FitsBuffer]
    omega
  rw [readRemainingBody_complete arrives hasLength, if_congr same rfl rfl, ite_not]

theorem length_posted_of_submit {body : PostBody} (submitted : form.submit = .post body) :
    (posted body).length ≤ webAppConfigBodyMax := by
  obtain ⟨passes, rfl⟩ := submit_eq_post.mp submitted
  exact length_posted_body_le passes

/-- A post of the page is within the limit for bodies, and what came with the head is within
what is announced. -/
theorem within_limits {body : PostBody} {request : HttpRequest} {recvs : List WebRecv}
    (submitted : form.submit = .post body) (arrives : BodyArrives (posted body) request recvs)
    (hasLength : request.hasContentLength = true) :
    ¬ webAppConfigBodyMax < request.contentLength ∧
      ¬ request.contentLength < request.body.length := by
  have small := length_posted_of_submit submitted
  have announced := arrives.announced hasLength
  have buffered := arrives.buffered_le hasLength
  omega

/-- Behind a head that is too long for it, a post is refused. -/
theorem handleConfigUpdate_refused {body : PostBody} {request : HttpRequest}
    {recvs : List WebRecv} (submitted : form.submit = .post body)
    (arrives : BodyArrives (posted body) request recvs)
    (hasLength : request.hasContentLength = true) (long : ¬ FitsBuffer request)
    (jsonObjParse : List UInt8 → JsonResult) (saveRet : Group → Option Errno)
    (world : ConfigWorld) :
    handleConfigUpdate jsonObjParse request recvs saveRet world =
      some (answered (.fieldError "body" "body ended early") world) := by
  obtain ⟨limit, announced⟩ := within_limits submitted arrives hasLength
  simp only [handleConfigUpdate, hasLength, Bool.not_true, Bool.false_eq_true, if_false,
    if_neg limit, if_neg announced, readRemainingBody_posted arrives hasLength, if_neg long]

/-- A post of the page that fits gets as far as the setter of its group. -/
theorem handleConfigUpdate_posted {body : PostBody} {request : HttpRequest}
    {recvs : List WebRecv} {jsonObjParse : List UInt8 → JsonResult}
    (submitted : form.submit = .post body) (verbatim : VerbatimTexts form)
    (decodes : Decodes jsonObjParse body) (arrives : BodyArrives (posted body) request recvs)
    (hasLength : request.hasContentLength = true) (fits : FitsBuffer request)
    (saveRet : Group → Option Errno) (world : ConfigWorld) :
    ∃ payload sta ap system,
      (∀ f value, (f.key, value) ∈ form.body → Holds payload f value) ∧
      firstFieldError (jsonMask (present form.body)) payload = none ∧
      merge (jsonMask (present form.body)) payload .sta (world.config .sta) = some sta ∧
      merge (jsonMask (present form.body)) payload .ap (world.config .ap) = some ap ∧
      merge (jsonMask (present form.body)) payload .system (world.config .system) = some system ∧
      handleConfigUpdate jsonObjParse request recvs saveRet world =
        updateConfig (jsonMask (present form.body)) payload saveRet world ∧
      updateConfig (jsonMask (present form.body)) payload saveRet world =
        saveGroups (setterArgument (fun g config =>
          merge (jsonMask (present form.body)) payload g (config g)) sta ap system) saveRet
          [group form] world := by
  -- The body is within its limit, read whole and decoded.
  obtain ⟨limit, announced⟩ := within_limits submitted arrives hasLength
  obtain ⟨passes, rfl⟩ := submit_eq_post.mp submitted
  obtain ⟨payload, parsed, holds⟩ := decodes (decodableBody passes verbatim)
  have passed : firstFieldError (jsonMask (present form.body)) payload = none :=
    (firstFieldError_eq_none holds).mpr ⟨fun f value member =>
      accepts_of_passes passes verbatim (f, value) (mem_body.mp member), noConflict form⟩
  have handled : handleConfigUpdate jsonObjParse request recvs saveRet world =
      updateConfig (jsonMask (present form.body)) payload saveRet world := by
    simp only [handleConfigUpdate, hasLength, Bool.not_true, Bool.false_eq_true, if_false,
      if_neg limit, if_neg announced, readRemainingBody_posted arrives hasLength, if_pos fits,
      parsed, if_neg (jsonMask_body_ne_zero form)]
  obtain ⟨sta, ap, system, staMerged, apMerged, systemMerged, run⟩ :=
    updateConfig_merges saveRet world passed
  rw [ssid_of_enabled holds passes (accepted_of_firstFieldError passed) staMerged, Bool.and_false,
    if_neg (by simp), saveOrder_filter] at run
  exact ⟨payload, sta, ap, system, holds, passed, staMerged, apMerged, systemMerged, handled, run⟩

/-- Only the settings store keeps it from saving the group. -/
theorem saved_of_fits {body : PostBody} {request : HttpRequest} {recvs : List WebRecv}
    {jsonObjParse : List UInt8 → JsonResult} (submitted : form.submit = .post body)
    (verbatim : VerbatimTexts form) (decodes : Decodes jsonObjParse body)
    (arrives : BodyArrives (posted body) request recvs)
    (hasLength : request.hasContentLength = true) (fits : FitsBuffer request)
    (saveRet : Group → Option Errno) {world : ConfigWorld} (valid : AllValid world.config) :
    ∃ update, handleConfigUpdate jsonObjParse request recvs saveRet world = some update ∧
      (∀ g, g ≠ group form → GroupUnchanged g world update.world) ∧
      (update.response.status = "200 OK" ∧ Saved world.config update.world.config form ∨
        ∃ err, update.response = .saveFailed (group form) ∧ saveRet (group form) = some err) := by
  obtain ⟨payload, sta, ap, system, holds, passed, staMerged, apMerged, systemMerged, handled,
    run⟩ := handleConfigUpdate_posted submitted verbatim decodes arrives hasLength fits saveRet
      world
  obtain ⟨update, saved, saves, only, ends⟩ := saveGroups_spec saveRet
    (List.nodup_singleton (group form))
    (fun g _ => setterArgument_looksAtOwn staMerged apMerged systemMerged g)
    (fun g _ => merge_isSome (accepted_of_firstFieldError passed) g (world.config g))
  rw [saves] at run
  refine ⟨update, handled.trans run, ?_⟩
  rcases ends with ⟨rfl, -, response⟩ | ⟨failed, rest, split, -, response⟩
  · have ok : update.response.status = "200 OK" := by rw [response, ConfigResponse.status]
    exact ⟨fun g other => only.unchanged (by simpa using other),
      .inl ⟨ok, saved_of_submitted holds (updateConfig_applied run ok).1⟩⟩
  · obtain ⟨rfl, rfl⟩ : saved = [] ∧ group form = failed := by
      cases saved <;> simp_all
    refine ⟨fun g _ => only.unchanged (by simp), .inr ?_⟩
    obtain ⟨update', run', -, fails⟩ := updateConfig_onlyStoreFails
      (jsonMask (present form.body)) payload saveRet valid
    obtain rfl := Option.some.inj (run.symm.trans run')
    obtain ⟨g, err, named, failed, -⟩ := fails (by rw [response, ConfigResponse.status])
    obtain rfl : group form = g := ConfigResponse.saveFailed.inj (response.symm.trans named)
    exact ⟨err, response, failed⟩

end Saving

/-- What the page posts is not too large, and whatever stands in the inputs, as long as it is
written as it stands and fits into the request buffer behind its head, the device takes it:
the inputs are then what is configured, and the other groups are as before. Only the settings
store can prevent that. Behind a longer head the post is refused and changes nothing. -/
theorem page_posts_are_saved (form : PageForm) (body : PostBody)
    (submitted : form.submit = .post body) (verbatim : VerbatimTexts form)
    (jsonObjParse : List UInt8 → JsonResult) (decodes : Decodes jsonObjParse body)
    (request : HttpRequest) (recvs : List WebRecv)
    (arrives : BodyArrives (posted body) request recvs)
    (hasLength : request.hasContentLength = true)
    (saveRet : Group → Option Errno) (world : ConfigWorld) (valid : AllValid world.config) :
    (posted body).length ≤ webAppConfigBodyMax ∧
      ∃ update, handleConfigUpdate jsonObjParse request recvs saveRet world = some update ∧
        (∀ g, g ≠ group form → GroupUnchanged g world update.world) ∧
        if FitsBuffer request then
          update.response.status = "200 OK" ∧ Saved world.config update.world.config form ∨
            ∃ err, update.response = .saveFailed (group form) ∧ saveRet (group form) = some err
        else update = answered (.fieldError "body" "body ended early") world := by
  refine ⟨length_posted_of_submit submitted, ?_⟩
  by_cases fits : FitsBuffer request
  · simp only [if_pos fits]
    exact saved_of_fits submitted verbatim decodes arrives hasLength fits saveRet valid
  · simp only [if_neg fits]
    have refused := handleConfigUpdate_refused submitted arrives hasLength fits jsonObjParse
      saveRet world
    exact ⟨_, refused, fun g _ => ⟨rfl, rfl⟩, rfl⟩

/-- The head took 200 bytes, and ten bytes of the body came with it. -/
def stationPost : HttpRequest where
  hasContentLength := true
  contentLength := (posted (stationCard "Boat" "secret12").body).length
  bodyOffset := 200
  body := (posted (stationCard "Boat" "secret12").body).take 10
  fits := by decide

/-- The station is enabled, and its network named. -/
theorem page_posts_are_saved_station :
    ∃ update, handleConfigUpdate (stationParse "Boat" "secret12") stationPost
        [.received ((posted (stationCard "Boat" "secret12").body).drop 10)] (fun _ => none)
        sampleWorld = some update ∧
      (∀ g, g ≠ .sta → GroupUnchanged g sampleWorld update.world) ∧
      update.response.status = "200 OK" ∧
      Saved sampleWorld.config update.world.config (stationCard "Boat" "secret12") := by
  have texts : VerbatimTexts (stationCard "Boat" "secret12") := by
    rw [VerbatimTexts, fields_stationCard _ _ (by decide)]
    simp only [List.forall_mem_cons, reduceCtorEq, false_implies, implies_true, true_and]
    exact ⟨by rintro _ ⟨⟩; decide, by rintro _ ⟨⟩; decide, by simp⟩
  have arrives : BodyArrives (posted (stationCard "Boat" "secret12").body) stationPost
      [.received ((posted (stationCard "Boat" "secret12").body).drop 10)] :=
    ⟨by decide, List.forall_mem_singleton.mpr (by decide), fun _ => rfl⟩
  obtain ⟨-, update, handled, others, taken⟩ :=
    page_posts_are_saved (stationCard "Boat" "secret12") (stationCard "Boat" "secret12").body
      (by decide) texts (stationParse "Boat" "secret12")
      (fun _ => ⟨stationPayload "Boat" "secret12", if_pos rfl,
        stationPayload_holds (by decide) (by decide) (by decide)⟩)
      stationPost _ arrives rfl (fun _ => none) sampleWorld
      (fun g => valid_of_accepts (by cases g <;> decide))
  rw [if_pos (by decide)] at taken
  rcases taken with ⟨ok, saved⟩ | ⟨err, -, failed⟩
  · exact ⟨update, handled, others, ok, saved⟩
  · cases failed

end EspNmeaBridge.AppJs
