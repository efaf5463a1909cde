/-
# The checks of the web page

`app.js` checks host and hostname before it posts them, in its own words: a split and
regular expressions instead of a walk over characters. Its strings are sequences of UTF-16
code units; what the device gets to see is their UTF-8 encoding. Both sides accept the
same strings.
-/

import EspNmeaBridge.BridgeConfig.ExactStrings
import EspNmeaBridge.Lib.CharClass

namespace EspNmeaBridge.AppJs

open CString RegularExpression

/-- A string of JavaScript. -/
abbrev JsString := List UInt16

/-- The code units from one to another. -/
def range (low high : UInt16) : List UInt16 :=
  (List.range (high.toNat + 1 - low.toNat)).map fun i => .ofNat (low.toNat + i)

/-- `[a-z0-9]` -/
def letterOrDigit : List UInt16 := range 0x61 0x7A ++ range 0x30 0x39

/-- `[a-z0-9-]` -/
def labelChar : List UInt16 := letterOrDigit ++ [0x2D]

/-- `/^[a-z0-9](?:[a-z0-9-]{0,30}[a-z0-9])?$/`, anchored at both ends. -/
def hostnamePattern : RegularExpression UInt16 :=
  oneOf letterOrDigit * optional (upTo (oneOf labelChar) 30 * oneOf letterOrDigit)

def hostnameError (hostname : JsString) : String :=
  if hostnamePattern.rmatch hostname then ""
  else "Enter 1 to 32 lowercase letters, digits, or hyphens; no hyphen at the start or end."

/-- `/^(0|[1-9]\d{0,2})$/`, anchored at both ends. -/
def octetPattern : RegularExpression UInt16 :=
  char 0x30 + oneOf (range 0x31 0x39) * upTo (oneOf (range 0x30 0x39)) 2

/-- `Number(o)`, for the digits that passed the pattern before. -/
def number (o : JsString) : ℕ := o.foldl (fun v ch => v * 10 + (ch.toNat - 0x30)) 0

def tcpHostError (host : JsString) : String :=
  if host = [] then ""
  else
    let octets := host.splitOn 0x2E
    -- No leading zeros: matches the device-side parser.
    if octets.length ≠ 4 ∨ octets.any fun o => !octetPattern.rmatch o || 255 < number o then
      "Enter an IPv4 address, or leave blank to use the Wi-Fi gateway."
    else ""

/-! ## Encoding -/

/-- A code unit that is a character by itself; a surrogate alone is replaced. -/
def scalar (unit : UInt16) : Char :=
  if 0xD800 ≤ unit ∧ unit ≤ 0xDFFF then '\uFFFD' else .ofNat unit.toNat

/-- The characters of a string: pairs of surrogates are one character. -/
def scalars : JsString → List Char
  | high :: low :: rest =>
    if 0xD800 ≤ high ∧ high ≤ 0xDBFF ∧ 0xDC00 ≤ low ∧ low ≤ 0xDFFF then
      .ofNat (0x10000 + (high.toNat - 0xD800) * 0x400 + (low.toNat - 0xDC00)) :: scalars rest
    else scalar high :: scalars (low :: rest)
  | [unit] => [scalar unit]
  | [] => []

/-- The UTF-8 encoding in which the page posts a string. -/
def encode (s : JsString) : List UInt8 := (scalars s).flatMap String.utf8EncodeChar

/-- An ASCII text as a string of the page. -/
def widen (text : List UInt8) : JsString := text.map UInt8.toUInt16

section Encoding

variable {s : JsString} {text : List UInt8}

theorem scalar_ascii {b : UInt8} (ascii : b.toNat < 0x80) :
    String.utf8EncodeChar (scalar b.toUInt16) = [b] := by
  have plain : ¬ (0xD800 ≤ b.toUInt16 ∧ b.toUInt16 ≤ 0xDFFF) := by
    simp only [UInt16.le_iff_toNat_le, UInt8.toNat_toUInt16, UInt16.reduceToNat]
    omega
  obtain ⟨c, encoded, value⟩ := Utf8.exists_one (a := b) (by omega)
  have same : Char.ofNat b.toNat = c := by rw [← value, Char.ofNat_toNat]
  rw [scalar, if_neg plain, UInt8.toNat_toUInt16, same, encoded]

theorem scalars_cons_ascii {b : UInt8} (ascii : b.toNat < 0x80) (s : JsString) :
    scalars (b.toUInt16 :: s) = scalar b.toUInt16 :: scalars s := by
  cases s with
  | nil => rfl
  | cons low rest =>
    rw [scalars, if_neg]
    simp only [UInt16.le_iff_toNat_le, UInt8.toNat_toUInt16, UInt16.reduceToNat]
    omega

/-- ASCII text is encoded as it stands, whatever follows it. -/
theorem encode_widen_append (ascii : ∀ b ∈ text, b.toNat < 0x80) (rest : JsString) :
    encode (widen text ++ rest) = text ++ encode rest := by
  induction text with
  | nil => rfl
  | cons b text ih =>
    obtain ⟨first, others⟩ := List.forall_mem_cons.mp ascii
    have tail := ih others
    simp only [encode, widen, List.map_cons, List.cons_append] at tail ⊢
    rw [scalars_cons_ascii first, List.flatMap_cons, scalar_ascii first, tail]
    rfl

theorem encode_widen (ascii : ∀ b ∈ text, b.toNat < 0x80) : encode (widen text) = text := by
  have alone := encode_widen_append ascii []
  rwa [List.append_nil, show encode [] = [] from rfl, List.append_nil] at alone

/-- A character that is encoded in ASCII bytes only is its one byte. -/
theorem encodeChar_ascii {c : Char} (ascii : ∀ b ∈ String.utf8EncodeChar c, b.toNat < 0x80) :
    ∃ b : UInt8, String.utf8EncodeChar c = [b] ∧ b.toNat = c.toNat := by
  obtain ⟨lead, tail, encoded⟩ := List.exists_cons_of_ne_nil (String.utf8EncodeChar_ne_nil (c := c))
  rcases Utf8.head_encodeChar encoded with ⟨-, same, rfl⟩ | ⟨high, -⟩
  · exact ⟨lead, encoded, same⟩
  · exact absurd (ascii lead (by simp [encoded])) (by omega)

theorem scalar_of_ascii {unit : UInt16} (ascii : (scalar unit).toNat < 0x80) :
    (scalar unit).toNat = unit.toNat := by
  unfold scalar at ascii ⊢
  split_ifs at ascii ⊢ with surrogate
  · exact absurd ascii (by decide)
  · have bound := unit.toNat_lt
    simp only [UInt16.le_iff_toNat_le, UInt16.reduceToNat] at surrogate
    rw [Char.toNat_ofNat, if_pos]
    exact (by omega : unit.toNat < 0xD800 ∨ 0xDFFF < unit.toNat ∧ unit.toNat < 0x110000)

/-- Only ASCII text is encoded in ASCII bytes. -/
theorem eq_widen_of_encode (ascii : ∀ b ∈ encode s, b.toNat < 0x80) : s = widen (encode s) := by
  -- one unit that is a character by itself, in front of a string that is already known
  have single (unit : UInt16) (rest : JsString)
      (front : ∀ b ∈ String.utf8EncodeChar (scalar unit), b.toNat < 0x80)
      (known : rest = widen (encode rest)) :
      unit :: rest = widen (String.utf8EncodeChar (scalar unit) ++ encode rest) := by
    obtain ⟨b, encoded, value⟩ := encodeChar_ascii front
    have small := front b (by simp [encoded])
    have same : b.toUInt16 = unit := by
      rw [← UInt16.toNat_inj, UInt8.toNat_toUInt16, value]
      exact scalar_of_ascii (value ▸ small)
    rw [encoded, widen, List.map_append, List.map_singleton, same, ← widen, ← known,
      List.singleton_append]
  fun_induction scalars s with
  | case1 high low rest pair ih =>
    -- a pair of surrogates stands for a character beyond the first plane
    exfalso
    obtain ⟨lower, upper, lower', upper'⟩ := pair
    simp only [UInt16.le_iff_toNat_le, UInt16.reduceToNat] at lower upper lower' upper'
    rw [encode, scalars, if_pos (by simp only [UInt16.le_iff_toNat_le]; exact ⟨lower, upper,
      lower', upper'⟩), List.flatMap_cons] at ascii
    obtain ⟨b, encoded, value⟩ := encodeChar_ascii fun b member =>
      ascii b (List.mem_append_left _ member)
    have small := ascii b (List.mem_append_left _ (by simp [encoded]))
    rw [value, Char.toNat_ofNat, if_pos] at small
    · omega
    · refine Or.inr ⟨?_, ?_⟩ <;> omega
  | case2 high low rest other ih =>
    rw [encode, scalars, if_neg other, List.flatMap_cons] at ascii ⊢
    exact single high (low :: rest) (fun b member => ascii b (List.mem_append_left _ member))
      (ih fun b member => ascii b (List.mem_append_right _ member))
  | case3 unit =>
    have split : encode [unit] = String.utf8EncodeChar (scalar unit) ++ encode [] := by
      simp [encode, scalars]
    rw [split] at ascii ⊢
    exact single unit [] (fun b member => ascii b (List.mem_append_left _ member)) rfl
  | case4 => rfl

theorem scalar_ne_zero {unit : UInt16} (nonzero : unit ≠ 0) : (scalar unit).toNat ≠ 0 := by
  intro zero
  have same := @scalar_of_ascii unit (by omega)
  exact nonzero (UInt16.toNat_inj.mp (same.symm.trans zero))

/-- A string without NUL is encoded without NUL. -/
theorem zero_notMem_encode (clean : (0 : UInt16) ∉ s) : (0 : UInt8) ∉ encode s := by
  have nonzero : ∀ c ∈ scalars s, c.toNat ≠ 0 := by
    fun_induction scalars s with
    | case1 high low rest pair ih =>
      refine List.forall_mem_cons.mpr ⟨?_, ih fun member => clean (by simp [member])⟩
      obtain ⟨lower, upper, lower', upper'⟩ := pair
      simp only [UInt16.le_iff_toNat_le, UInt16.reduceToNat] at lower upper lower' upper'
      rw [Char.toNat_ofNat, if_pos]
      · omega
      · refine Or.inr ⟨?_, ?_⟩ <;> omega
    | case2 high low rest other ih =>
      simp only [List.mem_cons, not_or] at clean
      obtain ⟨first, others⟩ := clean
      simp only [← List.mem_cons, ← not_or] at others
      exact List.forall_mem_cons.mpr ⟨scalar_ne_zero (Ne.symm first), ih others⟩
    | case3 unit =>
      simpa using scalar_ne_zero (Ne.symm (by simpa using clean))
    | case4 => simp
  intro member
  obtain ⟨c, character, byte⟩ := List.mem_flatMap.mp member
  exact nonzero c character (Utf8.toNat_eq_zero_of_mem byte)

end Encoding

/-! ## Agreement -/

section Hostname

variable {s : JsString} {text : List UInt8}

theorem mem_range {low high unit : UInt16} (order : low ≤ high) :
    unit ∈ range low high ↔ low ≤ unit ∧ unit ≤ high := by
  have bound := high.toNat_lt
  simp only [range, List.mem_map, List.mem_range, UInt16.le_iff_toNat_le,
    ← UInt16.toNat_inj, UInt16.toNat_ofNat'] at order ⊢
  constructor
  · rintro ⟨i, inside, same⟩
    omega
  · rintro ⟨lower, upper⟩
    exact ⟨unit.toNat - low.toNat, by omega, by omega⟩

/-- A range of ASCII characters. -/
theorem mem_range_ascii {low high : UInt8} {unit : UInt16} (order : low ≤ high) :
    unit ∈ range low.toUInt16 high.toUInt16 ↔
      ∃ b : UInt8, unit = b.toUInt16 ∧ low ≤ b ∧ b ≤ high := by
  have bound := high.toNat_lt
  rw [mem_range (by simpa [UInt16.le_iff_toNat_le, UInt8.le_iff_toNat_le] using order)]
  simp only [UInt16.le_iff_toNat_le, UInt8.le_iff_toNat_le, UInt8.toNat_toUInt16]
  constructor
  · rintro ⟨lower, upper⟩
    have value : unit.toUInt8.toNat = unit.toNat := by
      rw [UInt16.toNat_toUInt8]
      omega
    refine ⟨unit.toUInt8, ?_, by omega, by omega⟩
    rw [← UInt16.toNat_inj, UInt8.toNat_toUInt16, value]
  · rintro ⟨b, rfl, inside⟩
    rwa [UInt8.toNat_toUInt16]

/-- The class of the pattern is the device's, but for the hyphen. -/
theorem mem_letterOrDigit {unit : UInt16} :
    unit ∈ letterOrDigit ↔
      ∃ b : UInt8, unit = b.toUInt16 ∧ hostnameChar b = true ∧ b ≠ 0x2D := by
  have letters := @mem_range_ascii 0x61 0x7A unit (by decide)
  have digits := @mem_range_ascii 0x30 0x39 unit (by decide)
  rw [letterOrDigit, List.mem_append]
  refine (or_congr letters digits).trans ?_
  simp only [hostnameChar, Bool.or_eq_true, Bool.and_eq_true, decide_eq_true_eq, beq_iff_eq]
  constructor
  · rintro (⟨b, rfl, low, high⟩ | ⟨b, rfl, low, high⟩)
    · refine ⟨b, rfl, Or.inl (Or.inl ⟨low, high⟩), ?_⟩
      rintro rfl
      exact absurd low (by decide)
    · refine ⟨b, rfl, Or.inl (Or.inr ⟨low, high⟩), ?_⟩
      rintro rfl
      exact absurd low (by decide)
  · rintro ⟨b, rfl, (letter | digit) | hyphen, other⟩
    · exact Or.inl ⟨b, rfl, letter⟩
    · exact Or.inr ⟨b, rfl, digit⟩
    · exact absurd hyphen other

theorem mem_labelChar {unit : UInt16} :
    unit ∈ labelChar ↔ ∃ b : UInt8, unit = b.toUInt16 ∧ hostnameChar b = true := by
  rw [labelChar, List.mem_append, mem_letterOrDigit, List.mem_singleton]
  constructor
  · rintro (⟨b, same, char, -⟩ | rfl)
    · exact ⟨b, same, char⟩
    · exact ⟨0x2D, rfl, by decide⟩
  · rintro ⟨b, rfl, char⟩
    by_cases hyphen : b = 0x2D
    · exact Or.inr (by rw [hyphen]; rfl)
    · exact Or.inl ⟨b, rfl, char, hyphen⟩

/-- A string over the images of characters is the image of a text. -/
theorem exists_widen {P : UInt8 → Prop} (all : ∀ unit ∈ s, ∃ b : UInt8, unit = b.toUInt16 ∧ P b) :
    ∃ text, s = widen text ∧ ∀ b ∈ text, P b := by
  induction s with
  | nil => exact ⟨[], rfl, by simp⟩
  | cons unit s ih =>
    obtain ⟨⟨b, rfl, first⟩, others⟩ := List.forall_mem_cons.mp all
    obtain ⟨text, rfl, rest⟩ := ih others
    exact ⟨b :: text, rfl, List.forall_mem_cons.mpr ⟨first, rest⟩⟩

@[simp] theorem widen_length (text : List UInt8) : (widen text).length = text.length :=
  List.length_map ..

/-- The pattern matches the labels. -/
theorem hostnameError_eq_empty_iff :
    hostnameError s = "" ↔ ∃ text, IsHostname text ∧ s = widen text := by
  have decided : hostnameError s = "" ↔ s ∈ hostnamePattern.matches' := by
    rw [hostnameError, ← rmatch_iff_matches']
    split_ifs with matched <;> simp [matched]
  rw [decided, hostnamePattern, mem_matches'_oneOf_mul]
  constructor
  · rintro ⟨c, member, y, rest, rfl⟩
    obtain ⟨first, rfl, char, letter⟩ := mem_letterOrDigit.mp member
    rw [mem_matches'_optional, matches'_mul, Language.mem_mul] at rest
    rcases rest with rfl | ⟨middle, inner, last, ends, rfl⟩
    · -- a label of one character
      exact ⟨[first], ⟨by simp, by simp [bridgeConfigHostnameMax], by simpa using char,
        by simpa using letter, by simpa using letter⟩, rfl⟩
    · obtain ⟨short, chars⟩ := mem_matches'_upTo_oneOf.mp inner
      obtain ⟨text, rfl, known⟩ := exists_widen fun unit member =>
        mem_labelChar.mp (chars unit member)
      obtain ⟨d, member, rfl⟩ := mem_matches'_oneOf.mp ends
      obtain ⟨final, rfl, char', letter'⟩ := mem_letterOrDigit.mp member
      rw [widen_length] at short
      refine ⟨first :: (text ++ [final]), ⟨by simp, ?_, ?_, by simpa using letter, ?_⟩, ?_⟩
      · simp only [List.length_cons, List.length_append, List.length_nil, bridgeConfigHostnameMax]
        omega
      · simpa [char, char', or_imp, forall_and] using known
      · rw [← List.cons_append, List.getLast?_concat]
        simpa using letter'
      · simp [widen]
  · rintro ⟨text, label, rfl⟩
    obtain ⟨first, more, rfl⟩ := List.exists_cons_of_ne_nil label.nonempty
    obtain ⟨char, others⟩ := List.forall_mem_cons.mp label.chars
    have letter : first ≠ 0x2D := by simpa using label.first
    refine ⟨first.toUInt16, mem_letterOrDigit.mpr ⟨first, rfl, char, letter⟩, widen more, ?_, rfl⟩
    rw [mem_matches'_optional, matches'_mul, Language.mem_mul]
    -- Behind the first character: nothing, or a middle part and the last character.
    obtain rfl | ⟨middle, final, rfl⟩ := more.eq_nil_or_concat'
    · exact Or.inl rfl
    · right
      have length := label.length_le
      have last := label.last
      rw [← List.cons_append, List.getLast?_concat, ne_eq, Option.some.injEq] at last
      simp only [List.length_cons, List.length_append, List.length_nil, bridgeConfigHostnameMax]
        at length
      refine ⟨widen middle, mem_matches'_upTo_oneOf.mpr ⟨by rw [widen_length]; omega, ?_⟩,
        [final.toUInt16], mem_matches'_oneOf.mpr ⟨final.toUInt16,
          mem_letterOrDigit.mpr ⟨final, rfl, others final (by simp), last⟩, rfl⟩, by simp [widen]⟩
      rintro unit member
      obtain ⟨b, inside, rfl⟩ := List.mem_map.mp member
      exact mem_labelChar.mpr ⟨b, rfl, others b (by simp [inside])⟩

end Hostname

section Host

variable {o s : JsString} {text : List UInt8}

theorem number_widen (text : List UInt8) :
    number (widen text) = text.foldl (fun v ch => v * 10 + (ch.toNat - 0x30)) 0 := by
  simp [number, widen, List.foldl_map]

theorem mem_digits {unit : UInt16} :
    unit ∈ range 0x30 0x39 ↔ ∃ b : UInt8, unit = b.toUInt16 ∧ 0x30 ≤ b ∧ b ≤ 0x39 :=
  @mem_range_ascii 0x30 0x39 unit (by decide)

/-- The pattern and the bound let the decimal octets through. -/
theorem octet_iff :
    octetPattern.rmatch o = true ∧ number o ≤ 255 ↔ ∃ n : Fin 256, o = widen (decimal n) := by
  have nonzero {unit : UInt16} : unit ∈ range 0x31 0x39 ↔
      ∃ b : UInt8, unit = b.toUInt16 ∧ 0x31 ≤ b ∧ b ≤ 0x39 :=
    @mem_range_ascii 0x31 0x39 unit (by decide)
  rw [rmatch_iff_matches', octetPattern, matches'_add, Language.mem_add, matches'_char,
    mem_matches'_oneOf_mul]
  constructor
  · rintro ⟨zero | ⟨c, member, y, rest, rfl⟩, small⟩
    · exact ⟨0, zero⟩
    · obtain ⟨first, rfl, low, high⟩ := nonzero.mp member
      obtain ⟨short, inner⟩ := mem_matches'_upTo_oneOf.mp rest
      obtain ⟨ds, rfl, digits⟩ := exists_widen fun unit member => mem_digits.mp (inner unit member)
      have front : 0x30 ≤ first := UInt8.le_trans (by decide) low
      have scan := @scanOctet_append (first :: ds) [] 0 0
        (List.forall_mem_cons.mpr ⟨⟨front, high⟩, digits⟩)
        (by rw [widen_length] at short; simp only [List.length_cons]; omega) (by simp)
      have value := number_widen (first :: ds)
      simp only [widen, List.map_cons] at value
      rw [List.append_nil, ← value] at scan
      rw [widen_length] at short
      -- The device reads the same digits, with the same value.
      have canonical := decimal_of_scanOctet scan (by simp)
        (by simp only [List.length_cons]; omega) (Nat.lt_succ_of_le small) (by
          rintro ⟨rfl, -⟩
          exact absurd low (by decide))
      rw [List.append_nil] at canonical
      refine ⟨⟨_, Nat.lt_succ_of_le small⟩, ?_⟩
      exact congrArg widen canonical
  · rintro ⟨n, rfl⟩
    obtain ⟨nonempty, digits, value, leading⟩ := decimal_digits n.isLt
    have few := octet_length_le n.isLt
    rw [number_widen, value]
    refine ⟨?_, Nat.le_of_lt_succ n.isLt⟩
    obtain ⟨first, ds, split⟩ := List.exists_cons_of_ne_nil nonempty
    rw [split] at digits leading few ⊢
    obtain ⟨⟨low, high⟩, others⟩ := List.forall_mem_cons.mp digits
    by_cases zero : first = 0x30
    · -- alone, then
      have alone := leading (by simp [zero])
      obtain rfl : ds = [] := by simpa using alone
      exact Or.inl (by rw [zero]; rfl)
    · refine Or.inr ⟨first.toUInt16, nonzero.mpr ⟨first, rfl, ?_, high⟩, widen ds, ?_, rfl⟩
      · simp only [UInt8.le_iff_toNat_le, ← UInt8.toNat_inj, UInt8.reduceToNat] at low zero ⊢
        omega
      · rw [List.length_cons] at few
        refine mem_matches'_upTo_oneOf.mpr ⟨by rw [widen_length]; omega, fun unit member => ?_⟩
        obtain ⟨b, inside, rfl⟩ := List.mem_map.mp member
        exact mem_digits.mpr ⟨b, rfl, others b inside⟩

/-- Split at the dots, a dotted quad gives its octets. -/
theorem splitOn_dottedQuad (a b c d : Fin 256) :
    (widen (dottedQuad a b c d)).splitOn 0x2E =
      [widen (decimal a), widen (decimal b), widen (decimal c), widen (decimal d)] := by
  have joined : widen (dottedQuad a b c d) = [0x2E].intercalate
      [widen (decimal a), widen (decimal b), widen (decimal c), widen (decimal d)] := by
    simp [widen, dottedQuad, List.intercalate]
  rw [joined]
  refine List.splitOn_intercalate _ ?_ (by simp)
  -- no digit is a dot
  have clean (n : Fin 256) : (0x2E : UInt16) ∉ widen (decimal n) := by
    intro member
    obtain ⟨b, inside, dot⟩ := List.mem_map.mp member
    have low := ((decimal_digits n.isLt).2.1 b inside).1
    have value : b.toNat = 0x2E := by
      rw [← UInt8.toNat_toUInt16, dot]
      rfl
    simp only [UInt8.le_iff_toNat_le, UInt8.reduceToNat] at low
    omega
  simpa using ⟨clean a, clean b, clean c, clean d⟩

/-- The check of the page lets the empty string and the canonical addresses through. -/
theorem tcpHostError_eq_empty_iff :
    tcpHostError s = "" ↔ ∃ text, IsHost text ∧ s = widen text := by
  by_cases empty : s = []
  · subst empty
    simp only [tcpHostError, if_true, true_iff]
    exact ⟨[], Or.inl rfl, rfl⟩
  have decided : tcpHostError s = "" ↔ (s.splitOn 0x2E).length = 4 ∧
      ∀ o ∈ s.splitOn 0x2E, octetPattern.rmatch o = true ∧ number o ≤ 255 := by
    simp only [tcpHostError, if_neg empty]
    split_ifs with refused
    · simpa [imp_iff_not_or, -rmatch_iff_matches'] using refused
    · simpa [imp_iff_not_or, -rmatch_iff_matches'] using refused
  rw [decided]
  constructor
  · rintro ⟨count, octets⟩
    have whole : [0x2E].intercalate (s.splitOn 0x2E) = s := List.intercalate_splitOn 0x2E
    obtain ⟨o₁, o₂, o₃, o₄, parts⟩ := List.length_eq_four.mp count
    rw [parts] at octets whole
    obtain ⟨a, rfl⟩ := octet_iff.mp (octets o₁ (by simp))
    obtain ⟨b, rfl⟩ := octet_iff.mp (octets o₂ (by simp))
    obtain ⟨c, rfl⟩ := octet_iff.mp (octets o₃ (by simp))
    obtain ⟨d, rfl⟩ := octet_iff.mp (octets o₄ (by simp))
    refine ⟨dottedQuad a b c d, Or.inr ⟨a, b, c, d, rfl⟩, ?_⟩
    rw [← whole]
    simp [widen, dottedQuad, List.intercalate]
  · rintro ⟨text, rfl | ⟨a, b, c, d, rfl⟩, rfl⟩
    · exact absurd rfl empty
    · rw [splitOn_dottedQuad]
      refine ⟨rfl, ?_⟩
      simp only [List.forall_mem_cons]
      exact ⟨octet_iff.mpr ⟨a, rfl⟩, octet_iff.mpr ⟨b, rfl⟩, octet_iff.mpr ⟨c, rfl⟩,
        octet_iff.mpr ⟨d, rfl⟩, by simp⟩

end Host

/-! ## Both sides -/

theorem IsHost.ascii {text : List UInt8} (host : IsHost text) : ∀ b ∈ text, b.toNat < 0x80 := by
  intro b member
  rcases host.chars b member with ⟨-, high⟩ | rfl
  · simp only [UInt8.le_iff_toNat_le, UInt8.reduceToNat] at high
    omega
  · decide

theorem IsHostname.ascii {text : List UInt8} (label : IsHostname text) :
    ∀ b ∈ text, b.toNat < 0x80 := by
  intro b member
  have char := label.chars b member
  simp only [hostnameChar, Bool.or_eq_true, Bool.and_eq_true, decide_eq_true_eq, beq_iff_eq,
    UInt8.le_iff_toNat_le, ← UInt8.toNat_inj, UInt8.reduceToNat] at char
  omega

/-- A property of ASCII texts holds of the encoding of exactly the strings it is written in. -/
theorem exists_widen_iff {P : List UInt8 → Prop}
    (ascii : ∀ text, P text → ∀ b ∈ text, b.toNat < 0x80) (s : JsString) :
    (∃ text, P text ∧ s = widen text) ↔ P (encode s) := by
  constructor
  · rintro ⟨text, property, rfl⟩
    rwa [encode_widen (ascii text property)]
  · intro property
    exact ⟨encode s, property, eq_widen_of_encode (ascii _ property)⟩

/-- The page accepts a host or a hostname exactly when the device accepts its encoding,
and a hostname exactly when it is a label. -/
theorem browser_device_agree (s : JsString) (clean : (0 : UInt16) ∉ s) (rest : List UInt8) :
    (tcpHostError s = "" ↔
        bridgeConfigTcpClientHostValid (encode s ++ 0 :: rest) = some true) ∧
      (hostnameError s = "" ↔
        bridgeConfigHostnameValid (encode s ++ 0 :: rest) = some true) ∧
      (bridgeConfigHostnameValid (encode s ++ 0 :: rest) = some true ↔ IsHostname (encode s)) := by
  have bytes := zero_notMem_encode clean
  have label := bridgeConfigHostnameValid_iff (encode s) rest bytes
  refine ⟨?_, ?_, label⟩
  · rw [tcpHostError_eq_empty_iff, exists_widen_iff fun _ host => IsHost.ascii host]
    exact (bridgeConfigTcpClientHostValid_iff (encode s) rest bytes).symm
  · rw [hostnameError_eq_empty_iff, exists_widen_iff fun _ label => IsHostname.ascii label, label]

/-- Both sides refuse a trailing dot. -/
theorem browser_device_agree_trailing_dot :
    tcpHostError (widen (ascii "1.2.3.4.")) ≠ "" := by
  intro accepted
  exact absurd ((browser_device_agree (widen (ascii "1.2.3.4.")) (by decide) []).1.mp accepted)
    (by decide)

end EspNmeaBridge.AppJs
