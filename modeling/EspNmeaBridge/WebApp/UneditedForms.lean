/-
# Saving a card that was not edited

The page loads the configuration as JSON and writes it into its inputs: numbers in decimal,
strings in UTF-16, passwords blank. Submitted like that, a card posts, and what it posts is
decoded to what the device has. No setter finds a change, so nothing is saved and no reboot is
asked for.
-/

import EspNmeaBridge.WebApp.PageAgrees

namespace EspNmeaBridge.AppJs

open CString

/-! ## Rendering -/

/-- A character in UTF-16. -/
def utf16Char (c : Char) : JsString :=
  if c.toNat < 0x10000 then [.ofNat c.toNat]
  else
    [.ofNat (0xD800 + (c.toNat - 0x10000) / 0x400), .ofNat (0xDC00 + (c.toNat - 0x10000) % 0x400)]

/-- The string that `JSON.parse` makes of characters. -/
def utf16 (cs : List Char) : JsString := cs.flatMap utf16Char

/-- A property of an object; of two with one name the last counts. -/
def property (cfg : Json.Value) (name : String) : Option Json.Value :=
  match cfg with
  | .object members => (members.reverse.find? (·.1 == name.toList)).map Prod.snd
  | _ => none

/-- `Boolean(v)` -/
def toBoolean : Option Json.Value → Bool
  | none | some .null => false
  | some (.bool value) => value
  | some (.number value) => value ≠ 0
  | some (.string text) => text ≠ []
  | some (.array _) | some (.object _) => true

/-- `String(v ?? fallback)`, of a natural number or a string. -/
def toText (fallback : JsString) : Option Json.Value → Option JsString
  | none | some .null => some fallback
  | some (.string text) => some (utf16 text)
  | some (.number value) =>
    if value.den = 1 ∧ 0 ≤ value.num then some (widen (decimal value.num.toNat)) else none
  | some _ => none

def renderAisConfig (cfg : Json.Value) : Option PageForm := do
  let mmsi ← toText (widen (ascii "0")) (property cfg "ais_own_mmsi")
  some (.ais (toBoolean (property cfg "ais_filter_enabled")) mmsi)

def renderTcpConfig (cfg : Json.Value) : Option PageForm := do
  let host ← toText [] (property cfg "tcp_client_host")
  let port ← toText [] (property cfg "tcp_client_port")
  some (.tcp (toBoolean (property cfg "tcp_client_enabled")) host port)

/-- The PSK is never shown, so the input stays blank. -/
def renderStaConfig (cfg : Json.Value) : Option PageForm := do
  let ssid ← toText [] (property cfg "sta_ssid")
  some (.sta (toBoolean (property cfg "sta_enabled")) ssid [] false
    (toBoolean (property cfg "sta_rotate_mac")))

def renderApConfig (cfg : Json.Value) : Option PageForm := do
  let ssid ← toText [] (property cfg "ap_ssid")
  some (.ap ssid [] false)

def renderSystemConfig (cfg : Json.Value) : Option PageForm := do
  let hostname ← toText [] (property cfg "hostname")
  some (.system hostname)

/-- The card of a group, as `renderConfig` fills it. -/
def renderCard : Group → Json.Value → Option PageForm
  | .ais => renderAisConfig
  | .tcpClient => renderTcpConfig
  | .ap => renderApConfig
  | .system => renderSystemConfig
  | .sta => renderStaConfig

section Utf16

variable {c : Char} {cs : List Char} {text : List UInt8}

/-- A unit that is no surrogate, or a pair. -/
theorem utf16Char_cases (c : Char) :
    (∃ unit, utf16Char c = [unit] ∧ unit.toNat = c.toNat ∧ ¬ (0xD800 ≤ unit ∧ unit ≤ 0xDFFF)) ∨
    (∃ high low, utf16Char c = [high, low] ∧
      (0xD800 ≤ high ∧ high ≤ 0xDBFF ∧ 0xDC00 ≤ low ∧ low ≤ 0xDFFF) ∧
      0x10000 + (high.toNat - 0xD800) * 0x400 + (low.toNat - 0xDC00) = c.toNat) := by
  have value := Utf8.scalar_value c
  unfold utf16Char
  split_ifs with plane
  · have same : (UInt16.ofNat c.toNat).toNat = c.toNat := by
      rw [UInt16.toNat_ofNat', Nat.mod_eq_of_lt plane]
    refine .inl ⟨_, rfl, same, ?_⟩
    simp only [UInt16.le_iff_toNat_le, same, UInt16.reduceToNat]
    omega
  · have high : (UInt16.ofNat (0xD800 + (c.toNat - 0x10000) / 0x400)).toNat =
        0xD800 + (c.toNat - 0x10000) / 0x400 := by
      rw [UInt16.toNat_ofNat', Nat.mod_eq_of_lt (by omega)]
    have low : (UInt16.ofNat (0xDC00 + (c.toNat - 0x10000) % 0x400)).toNat =
        0xDC00 + (c.toNat - 0x10000) % 0x400 := by
      rw [UInt16.toNat_ofNat', Nat.mod_eq_of_lt (by omega)]
    refine .inr ⟨_, _, rfl, ?_, by omega⟩
    simp only [UInt16.le_iff_toNat_le, high, low, UInt16.reduceToNat]
    omega

/-- In UTF-16 and back. -/
theorem scalars_utf16 (cs : List Char) : scalars (utf16 cs) = cs := by
  induction cs with
  | nil => rfl
  | cons c cs ih =>
    rw [utf16, List.flatMap_cons, ← utf16]
    rcases utf16Char_cases c with ⟨unit, one, same, whole⟩ | ⟨high, low, two, pair, value⟩
    · rw [one, List.singleton_append, scalars_cons whole, ih, scalar, if_neg whole, same,
        Char.ofNat_toNat]
    · rw [two, List.cons_append, List.singleton_append, scalars, if_pos pair, ih, value,
        Char.ofNat_toNat]

theorem encode_utf16 (cs : List Char) : encode (utf16 cs) = cs.flatMap String.utf8EncodeChar := by
  rw [encode, scalars_utf16]

theorem quoteUnit_plain {unit : UInt16} (printable : 0x20 ≤ unit)
    (whole : ¬ (0xD800 ≤ unit ∧ unit ≤ 0xDFFF)) (notQuote : unit ≠ 0x22)
    (notBackslash : unit ≠ 0x5C) : quoteUnit unit = [unit] := by
  have other {control : UInt16} (low : control < 0x20) : unit ≠ control := by
    rintro rfl
    exact absurd (UInt16.lt_of_lt_of_le low printable) (UInt16.lt_irrefl _)
  rw [quoteUnit, if_neg (other (by decide)), if_neg (other (by decide)),
    if_neg (other (by decide)), if_neg (other (by decide)), if_neg (other (by decide)),
    if_neg (by simp [notQuote, notBackslash]),
    if_neg (by rw [not_or]; exact ⟨UInt16.not_lt.mpr printable, whole⟩)]

theorem quoteUnits_cons {unit : UInt16} (whole : ¬ (0xD800 ≤ unit ∧ unit ≤ 0xDFFF))
    (rest : JsString) : quoteUnits (unit :: rest) = quoteUnit unit ++ quoteUnits rest := by
  cases rest with
  | nil => simp [quoteUnits]
  | cons low rest => rw [quoteUnits, if_neg (not_pair_of_whole whole low)]

/-- Characters that need no escape are written as they stand. -/
theorem verbatim_utf16 (plain : ∀ c ∈ cs, 0x20 ≤ c.toNat ∧ c ≠ '"' ∧ c ≠ '\\') :
    Verbatim (utf16 cs) := by
  unfold Verbatim
  induction cs with
  | nil => rfl
  | cons c cs ih =>
    obtain ⟨⟨printable, notQuote, notBackslash⟩, others⟩ := List.forall_mem_cons.mp plain
    rw [utf16, List.flatMap_cons, ← utf16]
    rcases utf16Char_cases c with ⟨unit, one, same, whole⟩ | ⟨high, low, two, pair, -⟩
    · have differs {n : UInt16} {other : Char} (value : n.toNat = other.toNat)
          (distinct : c ≠ other) : unit ≠ n := by
        rintro rfl
        exact distinct (Char.toNat_inj.mp (same.symm.trans value))
      rw [one, List.singleton_append, quoteUnits_cons whole, ih others, quoteUnit_plain
        (UInt16.le_iff_toNat_le.mpr (by rw [same]; exact printable)) whole
        (differs rfl notQuote) (differs rfl notBackslash), List.singleton_append]
    · rw [two, List.cons_append, List.singleton_append, quoteUnits, if_pos pair, ih others]

end Utf16

section Trim

variable {text : JsString} {bytes : List UInt8}

theorem trim_eq (none : ∀ unit ∈ text, isWhite unit = false) : trim text = text := by
  rw [trim, List.dropWhile_eq_self_iff.mpr, List.rdropWhile_eq_self_iff.mpr]
  · exact fun nonempty => by simp [none _ (List.getLast_mem nonempty)]
  · exact fun nonempty => by simp [none _ (List.getElem_mem nonempty)]

/-- Nothing is stripped of printable ASCII without blanks. -/
theorem trim_widen (graphic : ∀ b ∈ bytes, 0x21 ≤ b.toNat ∧ b.toNat < 0x7F) :
    trim (widen bytes) = widen bytes := by
  refine trim_eq fun unit member => ?_
  obtain ⟨b, inside, rfl⟩ := List.mem_map.mp member
  have all : ∀ n < 0x7F, 0x21 ≤ n → isWhite (.ofNat n) = false := by decide
  obtain ⟨low, high⟩ := graphic b inside
  have same : b.toUInt16 = .ofNat b.toNat := by
    rw [← UInt16.toNat_inj, UInt16.toNat_ofNat', UInt8.toNat_toUInt16]
    omega
  rw [same]
  exact all _ high low

end Trim

section Properties

variable {config : EffectiveConfig} {rebootRequired : Bool} {texts : ConfigTexts}

/-- A property of an object whose names differ. -/
theorem property_of_mem {members : List (List Char × Json.Value)} {name : String}
    {value : Json.Value} (distinct : (members.map Prod.fst).Nodup)
    (member : (name.toList, value) ∈ members) : property (.object members) name = some value := by
  have found : (members.reverse.find? (·.1 == name.toList)).isSome := by
    rw [List.find?_isSome]
    exact ⟨_, List.mem_reverse.mpr member, by simp⟩
  obtain ⟨entry, first⟩ := Option.isSome_iff_exists.mp found
  have inside := List.mem_reverse.mp (List.mem_of_find?_eq_some first)
  have named := List.find?_some first
  obtain rfl := List.inj_on_of_nodup_map distinct inside member (by simpa using named)
  rw [property, first]
  rfl

/-- The member at a place of the configuration. -/
theorem property_decodedConfig (i : ℕ) {members : List (List Char × Json.Value)} {name : String}
    {value : Json.Value} (object : decodedConfig config rebootRequired texts = .object members)
    (entry : members[i]? = some (name.toList, value)) :
    property (decodedConfig config rebootRequired texts) name = some value := by
  rw [object]
  refine property_of_mem ?_ (List.mem_of_getElem? entry)
  obtain rfl := Json.Value.object.inj object
  simp only [List.map_cons, List.map_nil]
  decide

end Properties

/-! ## The cards -/

/-- The card of a group that has not been edited. -/
def uneditedCard (config : EffectiveConfig) (texts : ConfigTexts) : Group → PageForm
  | .ais => .ais (config .ais).filterEnabled (widen (decimal (config .ais).ownMmsi.toNat))
  | .tcpClient => .tcp (config .tcpClient).enabled (utf16 texts.host)
      (widen (decimal (config .tcpClient).port.toNat))
  | .ap => .ap (utf16 texts.apSsid) [] false
  | .system => .system (utf16 texts.hostname)
  | .sta => .sta (config .sta).enabled (utf16 texts.staSsid) [] false (config .sta).rotateMac

section Cards

variable {config : EffectiveConfig} {rebootRequired : Bool} {texts : ConfigTexts} {g : Group}

theorem group_uneditedCard (g : Group) : group (uneditedCard config texts g) = g := by
  cases g <;> rfl

theorem toText_nat (fallback : JsString) (n : ℕ) :
    toText fallback (some (.number n)) = some (widen (decimal n)) := by
  simp [toText]

/-- Every card shows what is configured. -/
theorem renderCard_decodedConfig (g : Group) :
    renderCard g (decodedConfig config rebootRequired texts) =
      some (uneditedCard config texts g) := by
  cases g with
  | ais =>
    rw [renderCard, renderAisConfig, property_decodedConfig 0 rfl rfl,
      property_decodedConfig 1 rfl rfl, toText_nat]
    rfl
  | tcpClient =>
    rw [renderCard, renderTcpConfig, property_decodedConfig 9 rfl rfl,
      property_decodedConfig 10 rfl rfl, property_decodedConfig 11 rfl rfl, toText_nat]
    rfl
  | ap =>
    rw [renderCard, renderApConfig, property_decodedConfig 6 rfl rfl]
    rfl
  | system =>
    rw [renderCard, renderSystemConfig, property_decodedConfig 8 rfl rfl]
    rfl
  | sta =>
    rw [renderCard, renderStaConfig, property_decodedConfig 2 rfl rfl,
      property_decodedConfig 3 rfl rfl, property_decodedConfig 5 rfl rfl]
    rfl

/-- A text of ASCII without blanks comes out of `trim` as it is. -/
theorem trim_utf16 {cs : List Char} {bytes : List UInt8}
    (encoded : bytes = cs.flatMap String.utf8EncodeChar)
    (graphic : ∀ b ∈ bytes, 0x21 ≤ b.toNat ∧ b.toNat < 0x7F) : trim (utf16 cs) = utf16 cs := by
  have same : encode (utf16 cs) = bytes := (encode_utf16 cs).trans encoded.symm
  have ascii : ∀ b ∈ encode (utf16 cs), b.toNat < 0x80 := by
    rw [same]
    exact fun b member => (graphic b member).2.trans (by decide)
  rw [eq_widen_of_encode ascii, same]
  exact trim_widen graphic

theorem trim_decimal (n : ℕ) : trim (widen (decimal n)) = widen (decimal n) := by
  refine trim_widen fun b member => ?_
  have digit := digit_of_mem_decimal b member
  simp only [UInt8.le_iff_toNat_le, UInt8.reduceToNat] at digit
  omega

theorem number_decimal (n : ℕ) : number (trim (widen (decimal n))) = n := by
  rw [trim_decimal, number_widen, foldl_decimal]

theorem trim_host (of : texts.Of config) (host : IsHost (config .tcpClient).host.str) :
    trim (utf16 texts.host) = utf16 texts.host := by
  refine trim_utf16 of.host fun b member => ?_
  have char := host.chars b member
  simp only [UInt8.le_iff_toNat_le, ← UInt8.toNat_inj, UInt8.reduceToNat] at char
  omega

theorem trim_hostname (of : texts.Of config) (label : IsHostname (config .system).hostname.str) :
    trim (utf16 texts.hostname) = utf16 texts.hostname := by
  refine trim_utf16 of.hostname fun b member => ?_
  have char := label.chars b member
  simp only [hostnameChar, Bool.or_eq_true, Bool.and_eq_true, decide_eq_true_eq, beq_iff_eq,
    UInt8.le_iff_toNat_le, ← UInt8.toNat_inj, UInt8.reduceToNat] at char
  omega

theorem isDigits_decimal {k n : ℕ} (positive : 0 < k) (small : n < 10 ^ k) :
    IsDigits k (trim (widen (decimal n))) := by
  rw [trim_decimal]
  refine isDigits_of_canonical positive rfl ?_
  rwa [number_widen, foldl_decimal]

theorem ssidLength_utf16 {cs : List Char} {bytes : List UInt8}
    (encoded : bytes = cs.flatMap String.utf8EncodeChar) (nonempty : bytes ≠ [])
    (short : bytes.length ≤ 32) : SsidLength (utf16 cs) := by
  rw [SsidLength, encode_utf16, ← encoded]
  exact ⟨List.length_pos_iff.mpr nonempty, short⟩

/-- What is configured passes the checks of the page. -/
theorem passes_uneditedCard (valid : AllValid config) (of : texts.Of config)
    (canConnect : StationCanConnect config) (g : Group) : (uneditedCard config texts g).Passes := by
  have blank : IsPsk (encode []) := Or.inl rfl
  cases g with
  | ais =>
    have small : (config .ais).ownMmsi.toNat ≤ 999999999 := UInt32.le_iff_toNat_le.mp (valid .ais)
    exact isDigits_decimal (by decide) (by omega)
  | tcpClient =>
    obtain ⟨-, host, -, port⟩ := valid .tcpClient
    have bound := (config .tcpClient).port.toNat_lt
    have positive : (config .tcpClient).port.toNat ≠ 0 := fun zero =>
      port (UInt16.toNat_inj.mp zero)
    refine ⟨?_, isDigits_decimal (by decide) (by omega), ?_⟩
    · rw [trim_host of host, encode_utf16, ← of.host]
      exact host
    · rw [number_decimal]
      omega
  | ap =>
    obtain ⟨⟨-, short, -⟩, nonempty, -⟩ := valid .ap
    exact ⟨ssidLength_utf16 of.apSsid nonempty short, blank⟩
  | system =>
    obtain ⟨-, label⟩ := valid .system
    rw [uneditedCard, PageForm.Passes, trim_hostname of label, encode_utf16, ← of.hostname]
    exact label
  | sta =>
    obtain ⟨⟨-, short, -⟩, -⟩ := valid .sta
    refine ⟨fun given => ssidLength_utf16 of.staSsid ?_ short, blank⟩
    rcases given with named | enabled
    · intro empty
      exact named (by rw [← encode_eq_nil, encode_utf16, ← of.staSsid, empty])
    · exact canConnect enabled

/-- A text without a quote or a backslash. -/
def Unescaped (text : List UInt8) : Prop := 0x22 ∉ text ∧ 0x5C ∉ text

theorem unescaped_of_plain {text : List UInt8} (plain : ∀ b ∈ text, PlainByte b) :
    Unescaped text :=
  ⟨fun quote => (plain _ quote).2.2.1 rfl, fun backslash => (plain _ backslash).2.2.2 rfl⟩

theorem pskFields_blank (clearField pskField : ConfigField) :
    pskFields clearField pskField false [] = [] := rfl

theorem verbatim_text {cs : List Char} {bytes text : List UInt8} (written : WrittenAs cs text)
    (encoded : bytes = cs.flatMap String.utf8EncodeChar) (plain : Unescaped bytes) :
    Verbatim (utf16 cs) := by
  obtain ⟨noQuote, noBackslash⟩ := plain
  refine verbatim_utf16 fun c member => ⟨written.printable c member, ?_, ?_⟩
  · rintro rfl
    exact noQuote (encoded ▸ List.mem_flatMap.mpr ⟨_, member, by decide⟩)
  · rintro rfl
    exact noBackslash (encoded ▸ List.mem_flatMap.mpr ⟨_, member, by decide⟩)

theorem verbatim_uneditedCard (valid : AllValid config) (of : texts.Of config)
    (written : texts.Written config) (station : Unescaped (config .sta).ssid.str)
    (accessPoint : Unescaped (config .ap).ssid.str) (g : Group) :
    VerbatimTexts (uneditedCard config texts g) := by
  have host := (valid .tcpClient).2.1
  have label := (valid .system).2
  intro entry member text value
  cases g with
  | ais =>
    simp only [uneditedCard, fields, List.mem_cons, List.not_mem_nil, or_false] at member
    rcases member with rfl | rfl <;> cases value
  | tcpClient =>
    simp only [uneditedCard, fields, List.mem_cons, List.not_mem_nil, or_false] at member
    rcases member with rfl | rfl | rfl <;> cases value
    rw [trim_host of host]
    exact verbatim_text written.host of.host (unescaped_of_plain host.plain)
  | ap =>
    simp only [uneditedCard, fields, pskFields_blank, List.mem_singleton] at member
    subst member
    cases value
    exact verbatim_text written.apSsid of.apSsid accessPoint
  | system =>
    simp only [uneditedCard, fields, List.mem_cons, List.not_mem_nil, or_false] at member
    subst member
    cases value
    rw [trim_hostname of label]
    exact verbatim_text written.hostname of.hostname (unescaped_of_plain label.plain)
  | sta =>
    simp only [uneditedCard, fields, pskFields_blank, List.append_nil] at member
    split_ifs at member <;> simp only [List.mem_append, List.mem_cons, List.not_mem_nil,
      or_false] at member
    · rcases member with (rfl | rfl) | rfl <;> cases value
      exact verbatim_text written.staSsid of.staSsid station
    · rcases member with rfl | rfl <;> cases value

/-- Saved as it was rendered, a group keeps its value. -/
theorem value_of_saved {new : EffectiveConfig} (valid : AllValid config) (of : texts.Of config)
    (saved : Saved config new (uneditedCard config texts g)) :
    (configGroup g).value (new g) = (configGroup g).value (config g) := by
  cases g with
  | ais =>
    obtain ⟨enabled, mmsi⟩ := saved
    rw [number_decimal] at mmsi
    exact Prod.ext enabled (UInt32.toNat_inj.mp mmsi)
  | tcpClient =>
    obtain ⟨enabled, host, port⟩ := saved
    rw [number_decimal] at port
    rw [trim_host of (valid .tcpClient).2.1, encode_utf16, ← of.host] at host
    exact Prod.ext enabled (Prod.ext host (UInt16.toNat_inj.mp port))
  | ap =>
    obtain ⟨ssid, psk⟩ := saved
    rw [encode_utf16, ← of.apSsid] at ssid
    exact Prod.ext ssid psk
  | system =>
    have hostname : (new .system).hostname.str = encode (trim (utf16 texts.hostname)) := saved
    rw [trim_hostname of (valid .system).2, encode_utf16, ← of.hostname] at hostname
    exact hostname
  | sta =>
    obtain ⟨enabled, rotateMac, ssid, psk⟩ := saved
    refine Prod.ext enabled (Prod.ext rotateMac (Prod.ext (ssid.trans ?_) psk))
    rw [encode_utf16, ← of.staSsid, ite_self]
    rfl

end Cards

/-! ## Saving -/

/-- What the page gets from the device. -/
theorem parse_writeConfigJson {config : EffectiveConfig} (valid : AllValid config)
    (rebootRequired : Bool) :
    ∃ texts : ConfigTexts, texts.Of config ∧ texts.Written config ∧
      Json.parseUtf8 (writeConfigJson "200 OK" config rebootRequired).body =
        some (decodedConfig config rebootRequired texts) := by
  have short := length_configJson_lt valid rebootRequired
  obtain ⟨texts, of, written⟩ := exists_texts valid
  refine ⟨texts, of, written, ?_⟩
  rw [writeConfigJson, snprintk, List.take_of_length_le (Nat.le_sub_one_of_lt short),
    parse_configJson written, configMembers_values]

section Saving

variable {world : ConfigWorld} {g : Group}

/-- A setter that finds no change does nothing, unless a reset is pending. -/
theorem bridgeConfigSet_same {next : g.Config} (accepted : (configGroup g).accepts next = true)
    (same : (configGroup g).value next = (configGroup g).value (world.config g))
    (settled : world.factoryResetPending = false) (saveRet : Option Errno) :
    bridgeConfigSet g world (some next) saveRet = (world, returned none) := by
  have unchanged : (configGroup g).valueChanged (world.config g) next = false := by
    rw [Bool.eq_false_iff, ne_eq, (configGroup g).valueChanged_iff, not_not]
    exact same.symm
  simp [bridgeConfigSet, accepted, unchanged, settled]

theorem submit_uneditedCard {texts : ConfigTexts} (valid : AllValid world.config)
    (of : texts.Of world.config) (canConnect : StationCanConnect world.config) (g : Group) :
    (uneditedCard world.config texts g).submit =
      .post (uneditedCard world.config texts g).body :=
  submit_eq_post.mpr ⟨passes_uneditedCard valid of canConnect g, rfl⟩

/-- An unedited card whose post fits into the request buffer is answered as if it were saved. -/
theorem handleConfigUpdate_unedited {texts : ConfigTexts} {jsonObjParse : List UInt8 → JsonResult}
    {request : HttpRequest} {recvs : List WebRecv} (valid : AllValid world.config)
    (settled : world.factoryResetPending = false) (canConnect : StationCanConnect world.config)
    (station : Unescaped (world.config .sta).ssid.str)
    (accessPoint : Unescaped (world.config .ap).ssid.str) (of : texts.Of world.config)
    (written : texts.Written world.config)
    (decodes : Decodes jsonObjParse (uneditedCard world.config texts g).body)
    (arrives : BodyArrives (posted (uneditedCard world.config texts g).body) request recvs)
    (hasLength : request.hasContentLength = true) (fits : FitsBuffer request)
    (saveRet : Group → Option Errno) :
    handleConfigUpdate jsonObjParse request recvs saveRet world =
      some ⟨.configJson world.config world.rebootRequired, world, [(g, returned none)]⟩ := by
  obtain ⟨payload, sta, ap, system, holds, passed, staMerged, apMerged, systemMerged, handled,
    run⟩ := handleConfigUpdate_posted (submit_uneditedCard valid of canConnect g)
      (verbatim_uneditedCard valid of written station accessPoint g) decodes arrives hasLength
      fits saveRet world
  rw [group_uneditedCard] at run
  have accepted := accepted_of_firstFieldError passed
  -- What the groups are merged to, as if all of them were saved.
  choose new merged using fun g => Option.isSome_iff_exists.mp
    (merge_isSome accepted g (world.config g))
  have same : (configGroup g).value (new g) = (configGroup g).value (world.config g) :=
    value_of_saved valid of (saved_of_submitted holds
      (submittedFields_of_merge accepted fun g => ⟨new g, merged g, rfl⟩))
  have takes : (configGroup g).accepts (new g) = true :=
    accepts_of_valid (valid_of_merge accepted (checkedFields_of_firstFieldError passed) (valid g)
      (merged g))
  rw [handled, run]
  simp only [saveGroups, setterArgument_looksAtOwn staMerged apMerged systemMerged g world.config
    rfl, merged g, Option.bind_eq_bind, Option.bind_some,
    bridgeConfigSet_same takes same settled]
  rfl

end Saving

/-- Saving a card as it was loaded leaves the device as it is: every card passes the checks of
the page, and its post is taken if it fits into the request buffer behind its head; the setter
finds nothing to save, whatever the store would have done. A post behind a longer head is
refused. -/
theorem saving_unedited_changes_nothing (world : ConfigWorld) (valid : AllValid world.config)
    (settled : world.factoryResetPending = false) (canConnect : StationCanConnect world.config)
    (station : Unescaped (world.config .sta).ssid.str)
    (accessPoint : Unescaped (world.config .ap).ssid.str) :
    ∃ cfg, Json.parseUtf8 (writeConfigJson "200 OK" world.config world.rebootRequired).body =
        some cfg ∧
      ∀ g, ∃ form, renderCard g cfg = some form ∧ form.submit = .post form.body ∧
        ∀ (jsonObjParse : List UInt8 → JsonResult) (request : HttpRequest)
          (recvs : List WebRecv) (saveRet : Group → Option Errno),
          Decodes jsonObjParse form.body → BodyArrives (posted form.body) request recvs →
          request.hasContentLength = true →
          handleConfigUpdate jsonObjParse request recvs saveRet world =
            if FitsBuffer request then
              some ⟨.configJson world.config world.rebootRequired, world, [(g, returned none)]⟩
            else some (answered (.fieldError "body" "body ended early") world) := by
  obtain ⟨texts, of, written, parsed⟩ := parse_writeConfigJson valid world.rebootRequired
  refine ⟨_, parsed, fun g =>
    ⟨uneditedCard world.config texts g, renderCard_decodedConfig g, ?_⟩⟩
  have submitted := submit_uneditedCard valid of canConnect g
  refine ⟨submitted, fun jsonObjParse request recvs saveRet decodes arrives hasLength => ?_⟩
  split_ifs with fits
  · exact handleConfigUpdate_unedited valid settled canConnect station accessPoint of written
      decodes arrives hasLength fits saveRet
  · exact handleConfigUpdate_refused submitted arrives hasLength fits jsonObjParse saveRet world

/-- The card of the access point of the sample, as it is loaded. -/
def sampleCard : PageForm := .ap (widen (ascii "AP")) [] false

/-- What is decoded of it. -/
def samplePayload : ConfigPayload :=
  { stationPayload "" "" with apSsid := .ofBytes _ (ascii "AP") }

/-- Its post, in one piece behind a head of 200 bytes. -/
def sampleCardPost : HttpRequest where
  hasContentLength := true
  contentLength := (posted sampleCard.body).length
  bodyOffset := 200
  body := posted sampleCard.body
  fits := by decide

/-- The store would fail, but is not asked. -/
theorem saving_unedited_changes_nothing_ap :
    ∃ cfg, Json.parseUtf8 (writeConfigJson "200 OK" sampleWorld.config
        sampleWorld.rebootRequired).body = some cfg ∧
      renderCard .ap cfg = some sampleCard ∧
      handleConfigUpdate (fun _ => .decoded (present sampleCard.body) samplePayload)
          sampleCardPost [] (fun _ => some (.other 5)) sampleWorld =
        some ⟨.configJson sampleWorld.config false, sampleWorld, [(.ap, returned none)]⟩ := by
  have valid : AllValid sampleWorld.config := fun g => valid_of_accepts (by cases g <;> decide)
  obtain ⟨cfg, parsed, cards⟩ := saving_unedited_changes_nothing sampleWorld valid rfl
    (by simp [StationCanConnect]; decide) ⟨by decide, by decide⟩ ⟨by decide, by decide⟩
  obtain ⟨form, rendered, -, saves⟩ := cards .ap
  obtain rfl : form = sampleCard := by
    obtain ⟨texts, of, -, parsed'⟩ := parse_writeConfigJson valid sampleWorld.rebootRequired
    obtain rfl := Option.some.inj (parsed.symm.trans parsed')
    have ssid : encode (utf16 texts.apSsid) = ascii "AP" :=
      (encode_utf16 _).trans (of.apSsid.symm.trans (by decide))
    have text : utf16 texts.apSsid = widen (ascii "AP") :=
      ssid ▸ eq_widen_of_encode (by rw [ssid, show ascii "AP" = [0x41, 0x50] from rfl]; simp)
    rw [renderCard_decodedConfig, uneditedCard, text] at rendered
    exact (Option.some.inj rendered).symm
  refine ⟨cfg, parsed, rendered, (saves _ sampleCardPost _ _ (fun _ => ⟨samplePayload, rfl, ?_⟩)
    ⟨by simp [sampleCardPost, pendingBytes], by simp [Undisturbed], fun _ => rfl⟩ rfl).trans
    (if_pos (by decide))⟩
  intro f value member
  have inside : (f, value) ∈ [(ConfigField.apSsid, JsValue.string (widen (ascii "AP")))] :=
    mem_body.mp member
  obtain ⟨rfl, rfl⟩ := Prod.mk.inj (List.mem_singleton.mp inside)
  exact show samplePayload.apSsid.str = encode (widen (ascii "AP")) by decide

end EspNmeaBridge.AppJs
