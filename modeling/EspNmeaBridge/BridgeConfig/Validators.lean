/-
# What the configuration accepts as text, host and hostname

The three string checks of `bridge_config.h` walk over memory up to the NUL. They
are functions of the bytes from the pointer on, with no result when a read leaves
these bytes. Each is followed by what its acceptance means for the string.
-/

import EspNmeaBridge.Lib.CString
import EspNmeaBridge.Lib.Utf8

namespace EspNmeaBridge

open CString

def bridgeConfigWifiSsidMax : ℕ := 32
def bridgeConfigWifiPskMin : ℕ := 8
def bridgeConfigWifiPskMax : ℕ := 63
def bridgeConfigTcpClientHostMax : ℕ := 15
def bridgeConfigHostnameMax : ℕ := 32
def bridgeConfigAisMmsiMax : UInt32 := 999999999

/-! ## Text -/

/-- The loop of `bridge_config_text_valid`, with `cont` continuation bytes still to come.
Behind the lead byte `p[1]` is the next byte; where there is none, the loop has no result
either way. -/
def textValidFrom : (cont : ℕ) → List UInt8 → Option Bool
  | _, [] => none
  | cont + 1, byte :: rest =>
    if byte &&& 0xC0 ≠ 0x80 then some false else textValidFrom cont rest
  | 0, lead :: rest =>
    let next := rest.headD 0
    if lead = 0 then some true
    else if lead < 0x20 then some false
    else if lead < 0x80 then textValidFrom 0 rest
    else if lead &&& 0xE0 = 0xC0 ∧ 0xC2 ≤ lead then textValidFrom 1 rest
    else if lead &&& 0xF0 = 0xE0 then
      if lead = 0xE0 ∧ next &&& 0xE0 = 0x80 ∨ lead = 0xED ∧ next &&& 0xE0 = 0xA0 then some false
      else textValidFrom 2 rest
    else if lead &&& 0xF8 = 0xF0 ∧ lead ≤ 0xF4 then
      if lead = 0xF0 ∧ next &&& 0xF0 = 0x80 ∨ lead = 0xF4 ∧ 0x8F < next then some false
      else textValidFrom 3 rest
    else some false

def bridgeConfigTextValid (s : List UInt8) : Option Bool := textValidFrom 0 s

/-- Well-formed UTF-8 without C0 controls. -/
def IsText (text : List UInt8) : Prop := Utf8.Encodes (fun c => 0x20 ≤ c.toNat) text

/-- The masks of the check are byte ranges. -/
theorem mask_ranges (b : UInt8) :
    (b &&& 0xC0 = 0x80 ↔ 0x80 ≤ b.toNat ∧ b.toNat ≤ 0xBF) ∧
    (b &&& 0xE0 = 0xC0 ↔ 0xC0 ≤ b.toNat ∧ b.toNat ≤ 0xDF) ∧
    (b &&& 0xF0 = 0xE0 ↔ 0xE0 ≤ b.toNat ∧ b.toNat ≤ 0xEF) ∧
    (b &&& 0xF8 = 0xF0 ↔ 0xF0 ≤ b.toNat ∧ b.toNat ≤ 0xF7) ∧
    (b &&& 0xE0 = 0x80 ↔ 0x80 ≤ b.toNat ∧ b.toNat ≤ 0x9F) ∧
    (b &&& 0xE0 = 0xA0 ↔ 0xA0 ≤ b.toNat ∧ b.toNat ≤ 0xBF) ∧
    (b &&& 0xF0 = 0x80 ↔ 0x80 ≤ b.toNat ∧ b.toNat ≤ 0x8F) := by
  have all : ∀ n < 256,
      (n &&& 0xC0 = 0x80 ↔ 0x80 ≤ n ∧ n ≤ 0xBF) ∧ (n &&& 0xE0 = 0xC0 ↔ 0xC0 ≤ n ∧ n ≤ 0xDF) ∧
      (n &&& 0xF0 = 0xE0 ↔ 0xE0 ≤ n ∧ n ≤ 0xEF) ∧ (n &&& 0xF8 = 0xF0 ↔ 0xF0 ≤ n ∧ n ≤ 0xF7) ∧
      (n &&& 0xE0 = 0x80 ↔ 0x80 ≤ n ∧ n ≤ 0x9F) ∧ (n &&& 0xE0 = 0xA0 ↔ 0xA0 ≤ n ∧ n ≤ 0xBF) ∧
      (n &&& 0xF0 = 0x80 ↔ 0x80 ≤ n ∧ n ≤ 0x8F) := by
    decide +kernel
  simpa only [← UInt8.toNat_inj, UInt8.toNat_and, UInt8.reduceToNat] using
    all b.toNat b.toNat_lt

/-- A continuation byte that was asked for is there. -/
theorem textValidFrom_succ {cont : ℕ} {bytes : List UInt8}
    (valid : textValidFrom (cont + 1) bytes = some true) :
    ∃ byte rest, bytes = byte :: rest ∧ Utf8.Continuation byte ∧
      textValidFrom cont rest = some true := by
  cases bytes with
  | nil => simp [textValidFrom] at valid
  | cons byte rest =>
    simp only [textValidFrom] at valid
    split_ifs at valid with wrong
    · simp at valid
    · exact ⟨byte, rest, rfl, (mask_ranges byte).1.mp (by simpa using wrong), valid⟩

/-- One character of accepted text: the loop goes on behind its encoding. -/
theorem character_of_textValidFrom {lead : UInt8} {rest : List UInt8} (nonzero : lead ≠ 0)
    (valid : textValidFrom 0 (lead :: rest) = some true) :
    ∃ tail after c, rest = tail ++ after ∧ String.utf8EncodeChar c = lead :: tail ∧
      0x20 ≤ c.toNat ∧ (∀ b ∈ tail, b ≠ 0) ∧ textValidFrom 0 after = some true := by
  obtain ⟨-, two, three, four, -⟩ := mask_ranges lead
  simp only [textValidFrom, if_neg nonzero] at valid
  simp only [two, three, four, UInt8.lt_iff_toNat_lt, UInt8.le_iff_toNat_le, ← UInt8.toNat_inj,
    UInt8.reduceToNat] at valid
  -- By the class of the lead byte, as the loop tests them.
  split_ifs at valid with control ascii isTwo isThree overlong isFour overlong
  · simp at valid
  · obtain ⟨c, encoded, value⟩ := Utf8.exists_one (a := lead) (by omega)
    exact ⟨[], rest, c, rfl, encoded, by omega, by simp, valid⟩
  · obtain ⟨b, after, rfl, second, valid⟩ := textValidFrom_succ valid
    obtain ⟨c, encoded, value⟩ := Utf8.exists_two (a := lead) (by omega) (by omega) second
    exact ⟨[b], after, c, rfl, encoded, by omega, by simp [second.ne_zero], valid⟩
  · simp at valid
  · obtain ⟨b, after, rfl, second, valid⟩ := textValidFrom_succ valid
    obtain ⟨b', after, rfl, third, valid⟩ := textValidFrom_succ valid
    obtain ⟨-, -, -, -, low, high, -⟩ := mask_ranges b
    simp only [← UInt8.toNat_inj, UInt8.reduceToNat] at low high
    -- The first continuation byte rules out overlong forms and surrogates.
    simp only [List.headD_cons, low, high] at overlong
    obtain ⟨c, encoded, value⟩ := Utf8.exists_three (a := lead) (by omega) (by omega) second third
      (fun _ => by have := second.1; omega) (fun _ => by have := second.2; omega)
    exact ⟨[b, b'], after, c, rfl, encoded, by omega, by simp [second.ne_zero, third.ne_zero],
      valid⟩
  · simp at valid
  · obtain ⟨b, after, rfl, second, valid⟩ := textValidFrom_succ valid
    obtain ⟨b', after, rfl, third, valid⟩ := textValidFrom_succ valid
    obtain ⟨b'', after, rfl, fourth, valid⟩ := textValidFrom_succ valid
    obtain ⟨-, -, -, -, -, -, low⟩ := mask_ranges b
    simp only [← UInt8.toNat_inj, UInt8.reduceToNat] at low
    -- Here it rules out overlong forms and what lies above U+10FFFF.
    simp only [List.headD_cons, low] at overlong
    obtain ⟨c, encoded, value⟩ := Utf8.exists_four (a := lead) (by omega) (by omega) second third
      fourth (fun _ => by have := second.1; omega) (fun _ => by have := second.2; omega)
    exact ⟨[b, b', b''], after, c, rfl, encoded, by omega,
      by simp [second.ne_zero, third.ne_zero, fourth.ne_zero], valid⟩
  · simp at valid

/-- Accepted text is well-formed UTF-8 without C0 controls. -/
theorem isText_of_textValidFrom {bytes : List UInt8} (valid : textValidFrom 0 bytes = some true) :
    IsText (content bytes) := by
  induction length : bytes.length using Nat.strong_induction_on generalizing bytes with
  | _ n ih =>
    cases bytes with
    | nil => simp [textValidFrom] at valid
    | cons lead rest =>
      by_cases zero : lead = 0
      · simp [content, zero, IsText]
      · obtain ⟨tail, after, c, rfl, encoded, printable, nonzero, valid⟩ :=
          character_of_textValidFrom zero valid
        have shorter : after.length < n := by
          rw [← length, List.length_cons, List.length_append]
          omega
        have text := ih after.length shorter valid rfl
        have split : content (lead :: (tail ++ after)) = (lead :: tail) ++ content after := by
          rw [content_cons zero, content_append nonzero, List.cons_append]
        rw [split]
        exact text.cons encoded printable

/-- Up to a NUL every byte is there. -/
theorem textValidFrom_isSome {bytes : List UInt8} (ended : 0 ∈ bytes) (cont : ℕ) :
    (textValidFrom cont bytes).isSome := by
  induction bytes generalizing cont with
  | nil => simp at ended
  | cons b rest ih =>
    have later (nonzero : b ≠ 0) : 0 ∈ rest := by simpa [Ne.symm nonzero] using ended
    cases cont with
    | zero =>
      by_cases zero : b = 0
      · simp [textValidFrom, zero]
      · simp only [textValidFrom, if_neg zero]
        split_ifs <;> first | rfl | exact ih (later zero) _
    | succ cont =>
      simp only [textValidFrom]
      split_ifs with wrong
      · rfl
      · refine ih (later ?_) _
        rintro rfl
        exact wrong (by decide)

/-! ## Hosts -/

/-- The digit loop: at most four digits, with their count, their value and what follows. -/
def scanOctet : (digits value : ℕ) → List UInt8 → ℕ × ℕ × List UInt8
  | digits, value, [] => (digits, value, [])
  | digits, value, ch :: rest =>
    if 0x30 ≤ ch ∧ ch ≤ 0x39 ∧ digits < 4 then
      scanOctet (digits + 1) (value * 10 + (ch.toNat - 0x30)) rest
    else (digits, value, ch :: rest)

/-- The octet loop of `bridge_config_tcp_client_host_valid`. Every round but the last counts
an octet and the fourth admits no further dot, so five rounds always suffice. -/
def hostOctetsValid : (rounds octets : ℕ) → List UInt8 → Option Bool
  | 0, _, _ => none
  | _ + 1, _, [] => none
  | rounds + 1, octets, first :: tail =>
    if first = 0 then some (octets == 4)
    else
      let leadingZero := first = 0x30 ∧ 0x30 ≤ tail.headD 0 ∧ tail.headD 0 ≤ 0x39
      match scanOctet 0 0 (first :: tail) with
      | (digits, value, rest) =>
        if digits = 0 ∨ 3 < digits ∨ 255 < value ∨ leadingZero then some false
        else
          match rest with
          | [] => none
          | ch :: after =>
            if ch = 0x2E then
              if octets + 1 = 4 then some false else hostOctetsValid rounds (octets + 1) after
            else if ch ≠ 0 then some false
            else hostOctetsValid rounds (octets + 1) (ch :: after)

def bridgeConfigTcpClientHostValid (host : List UInt8) : Option Bool :=
  match host with
  | [] => none
  | first :: _ => if first = 0 then some true else hostOctetsValid 5 0 host

/-- A number in decimal, without leading zeros. -/
def decimal (n : ℕ) : List UInt8 := (Nat.toDigits 10 n).map Char.toUInt8

theorem toNat_toUInt8_of_digit {c : Char} (digit : c.isDigit = true) :
    c.toUInt8.toNat = c.toNat := by
  have high := (Char.isDigit_iff_toNat.mp digit).2
  rw [Char.toUInt8, UInt32.toNat_toUInt8]
  exact Nat.mod_eq_of_lt (high.trans_lt (by decide))

theorem digit_of_mem_decimal {n : ℕ} : ∀ b ∈ decimal n, 0x30 ≤ b ∧ b ≤ 0x39 := by
  intro b inside
  obtain ⟨c, member, rfl⟩ := List.mem_map.mp inside
  have digit := Nat.isDigit_of_mem_toDigits (by decide) (by decide) member
  rw [UInt8.le_iff_toNat_le, UInt8.le_iff_toNat_le, toNat_toUInt8_of_digit digit]
  exact Char.isDigit_iff_toNat.mp digit

/-- Read digit by digit, the decimal form has its value. -/
theorem foldl_decimal (n : ℕ) :
    (decimal n).foldl (fun v ch => v * 10 + (ch.toNat - 0x30)) 0 = n := by
  have digits : ∀ (cs : List Char) (v : ℕ), (∀ c ∈ cs, c.isDigit = true) →
      (cs.map Char.toUInt8).foldl (fun v ch => v * 10 + (ch.toNat - 0x30)) v =
        Nat.ofDigitChars 10 cs v := by
    intro cs
    induction cs with
    | nil => exact fun _ _ => rfl
    | cons c cs ih =>
      intro v all
      obtain ⟨first, others⟩ := List.forall_mem_cons.mp all
      rw [List.map_cons, List.foldl_cons, ih _ others, Nat.ofDigitChars_cons,
        toNat_toUInt8_of_digit first, Nat.mul_comm]
      rfl
  have all : ∀ c ∈ Nat.toDigits 10 n, c.isDigit = true := fun _ member =>
    Nat.isDigit_of_mem_toDigits (by decide) (by decide) member
  rw [decimal, digits _ 0 all]
  exact Nat.ofDigitChars_ten_toDigits

/-- Four octets joined by dots. -/
def dottedQuad (a b c d : Fin 256) : List UInt8 :=
  decimal a ++ 0x2E :: decimal b ++ 0x2E :: decimal c ++ 0x2E :: decimal d

/-- The empty host or a canonical IPv4 address. -/
def IsHost (text : List UInt8) : Prop := text = [] ∨ ∃ a b c d, text = dottedQuad a b c d

/-- The decimal form of an octet, digit by digit. -/
theorem decimal_octet {n : ℕ} (octet : n < 256) :
    decimal n =
      if n < 10 then [.ofNat (0x30 + n)]
      else if n < 100 then [.ofNat (0x30 + n / 10), .ofNat (0x30 + n % 10)]
      else [.ofNat (0x30 + n / 100), .ofNat (0x30 + n / 10 % 10), .ofNat (0x30 + n % 10)] := by
  have all : ∀ n < 256, decimal n =
      if n < 10 then [.ofNat (0x30 + n)]
      else if n < 100 then [.ofNat (0x30 + n / 10), .ofNat (0x30 + n % 10)]
      else [.ofNat (0x30 + n / 100), .ofNat (0x30 + n / 10 % 10), .ofNat (0x30 + n % 10)] := by
    decide +kernel
  exact all n octet

theorem decimal_length_le {n k : ℕ} (positive : 0 < k) (small : n < 10 ^ k) :
    (decimal n).length ≤ k := by
  rw [decimal, List.length_map]
  exact (Nat.length_toDigits_le_iff (by decide) positive).mpr small

theorem octet_length_le {n : ℕ} (octet : n < 256) : (decimal n).length ≤ 3 :=
  decimal_length_le (by decide) (octet.trans (by decide))

/-- A dotted quad has at most fifteen characters. -/
theorem dottedQuad_length_le (a b c d : Fin 256) : (dottedQuad a b c d).length ≤ 15 := by
  have first := octet_length_le a.isLt
  have second := octet_length_le b.isLt
  have third := octet_length_le c.isLt
  have fourth := octet_length_le d.isLt
  simp only [dottedQuad, List.length_append, List.length_cons]
  omega

/-- The digits scanned, their number and their value. -/
theorem scanOctet_eq {bytes rest : List UInt8} {digits value digits' value' : ℕ}
    (scan : scanOctet digits value bytes = (digits', value', rest)) :
    ∃ ds : List UInt8, bytes = ds ++ rest ∧ digits' = digits + ds.length ∧
      value' = ds.foldl (fun v ch => v * 10 + (ch.toNat - 0x30)) value ∧
      ∀ ch ∈ ds, 0x30 ≤ ch.toNat ∧ ch.toNat ≤ 0x39 := by
  induction bytes generalizing digits value with
  | nil =>
    simp only [scanOctet, Prod.mk.injEq] at scan
    obtain ⟨rfl, rfl, rfl⟩ := scan
    exact ⟨[], by simp⟩
  | cons ch bytes ih =>
    simp only [scanOctet] at scan
    split_ifs at scan with digit
    · obtain ⟨ds, rfl, rfl, rfl, all⟩ := ih scan
      refine ⟨ch :: ds, rfl, by simp; omega, rfl, List.forall_mem_cons.mpr ⟨?_, all⟩⟩
      simpa [UInt8.le_iff_toNat_le] using And.intro digit.1 digit.2.1
    · simp only [Prod.mk.injEq] at scan
      obtain ⟨rfl, rfl, rfl⟩ := scan
      exact ⟨[], by simp⟩

/-- What passes the checks on one octet is its decimal form. -/
theorem decimal_of_scanOctet {first : UInt8} {tail rest : List UInt8} {digits value : ℕ}
    (scan : scanOctet 0 0 (first :: tail) = (digits, value, rest)) (some_digit : digits ≠ 0)
    (few : digits ≤ 3) (octet : value < 256)
    (canonical : ¬ (first = 0x30 ∧ 0x30 ≤ tail.headD 0 ∧ tail.headD 0 ≤ 0x39)) :
    first :: tail = decimal value ++ rest := by
  obtain ⟨ds, split, count, sum, all⟩ := scanOctet_eq scan
  rw [split, decimal_octet octet]
  congr 1
  simp only [UInt8.le_iff_toNat_le, ← UInt8.toNat_inj, UInt8.reduceToNat] at canonical
  -- One to three digits; from two digits on the first one is not zero.
  match ds with
  | [] => simp at count; omega
  | [x] =>
    simp only [List.forall_mem_cons] at all
    simp only [List.foldl_cons, List.foldl_nil] at sum
    rw [if_pos (by omega)]
    simp only [List.cons.injEq, and_true, ← UInt8.toNat_inj, UInt8.toNat_ofNat']
    omega
  | [x, y] =>
    obtain ⟨rfl, rfl⟩ := List.cons.inj split
    simp only [List.forall_mem_cons] at all
    simp only [List.foldl_cons, List.foldl_nil] at sum
    have leading : first.toNat ≠ 0x30 := fun zero => canonical ⟨zero, all.2.1⟩
    rw [if_neg (by omega), if_pos (by omega)]
    simp only [List.cons.injEq, and_true, ← UInt8.toNat_inj, UInt8.toNat_ofNat']
    omega
  | [x, y, z] =>
    obtain ⟨rfl, rfl⟩ := List.cons.inj split
    simp only [List.forall_mem_cons] at all
    simp only [List.foldl_cons, List.foldl_nil] at sum
    have leading : first.toNat ≠ 0x30 := fun zero => canonical ⟨zero, all.2.1⟩
    rw [if_neg (by omega), if_neg (by omega)]
    simp only [List.cons.injEq, and_true, ← UInt8.toNat_inj, UInt8.toNat_ofNat']
    omega
  | x :: y :: z :: w :: ds => simp at count; omega

theorem decimal_ne_zero {n : ℕ} (octet : n < 256) : ∀ b ∈ decimal n, b ≠ 0 := by
  intro b member zero
  rw [decimal_octet octet, zero] at member
  split_ifs at member <;>
    simp only [List.mem_cons, List.not_mem_nil, or_false, ← UInt8.toNat_inj, UInt8.toNat_ofNat',
      UInt8.toNat_zero] at member <;>
    omega

/-- Octets in decimal, joined by dots. -/
def dotted (octets : List (Fin 256)) : List UInt8 :=
  List.intercalate [0x2E] (octets.map fun octet => decimal octet)

/-- Text that has ended was accepted behind the fourth octet. -/
theorem hostOctetsValid_of_ended {rounds octets : ℕ} {bytes : List UInt8}
    (valid : hostOctetsValid rounds octets bytes = some true) (ended : content bytes = []) :
    octets = 4 := by
  cases rounds with
  | zero => simp [hostOctetsValid] at valid
  | succ rounds =>
    cases bytes with
    | nil => simp [hostOctetsValid] at valid
    | cons first tail =>
      have zero : first = 0 := by
        by_contra nonzero
        simp [content_cons nonzero] at ended
      simpa [hostOctetsValid, zero] using valid

/-- The octets still missing at the loop head are those of the remaining text. -/
theorem dotted_of_hostOctetsValid {rounds octets : ℕ} {bytes : List UInt8}
    (valid : hostOctetsValid rounds octets bytes = some true) (nonempty : content bytes ≠ []) :
    ∃ values : List (Fin 256), values ≠ [] ∧ octets + values.length = 4 ∧
      content bytes = dotted values := by
  induction rounds generalizing octets bytes with
  | zero => simp [hostOctetsValid] at valid
  | succ rounds ih =>
    cases bytes with
    | nil => simp [hostOctetsValid] at valid
    | cons first tail =>
      have nonzero : first ≠ 0 := by
        rintro rfl
        exact nonempty (by simp [content])
      simp only [hostOctetsValid, if_neg nonzero] at valid
      obtain ⟨digits, value, rest, scan⟩ :
          ∃ digits value rest, scanOctet 0 0 (first :: tail) = (digits, value, rest) :=
        ⟨_, _, _, rfl⟩
      simp only [scan] at valid
      by_cases rejected : digits = 0 ∨ 3 < digits ∨ 255 < value ∨
          first = 0x30 ∧ 0x30 ≤ tail.headD 0 ∧ tail.headD 0 ≤ 0x39
      · rw [if_pos rejected] at valid
        simp at valid
      rw [if_neg rejected] at valid
      simp only [not_or, not_lt] at rejected
      obtain ⟨some_digit, few, octet, canonical⟩ := rejected
      have value_lt : value < 256 := by omega
      have prefixed := decimal_of_scanOctet scan some_digit few value_lt canonical
      rw [prefixed, content_append (decimal_ne_zero value_lt)]
      cases rest with
      | nil => simp at valid
      | cons ch after =>
        dsimp only at valid
        split_ifs at valid with dot fourth junk
        · simp at valid
        · -- behind a dot there must be another octet
          have more : content after ≠ [] := by
            intro ended
            exact fourth (hostOctetsValid_of_ended valid ended)
          obtain ⟨values, some_value, count, text⟩ := ih valid more
          obtain ⟨v, vs, rfl⟩ := List.exists_cons_of_ne_nil some_value
          refine ⟨⟨value, value_lt⟩ :: v :: vs, by simp, by simp at count ⊢; omega, ?_⟩
          rw [dot, content_cons (by decide), text]
          simp [dotted, List.intercalate]
        · simp at valid
        · have ended : content (ch :: after) = [] := by
            simp [content, not_not.mp junk]
          refine ⟨[⟨value, value_lt⟩], by simp, hostOctetsValid_of_ended valid ended, ?_⟩
          simp [ended, dotted]

/-- Five rounds suffice up to a NUL. -/
theorem hostOctetsValid_isSome {rounds octets : ℕ} {bytes : List UInt8} (ended : 0 ∈ bytes)
    (enough : 5 ≤ rounds + octets) (few : octets < 4) :
    (hostOctetsValid rounds octets bytes).isSome := by
  induction rounds generalizing octets bytes with
  | zero => omega
  | succ rounds ih =>
    cases bytes with
    | nil => simp at ended
    | cons first tail =>
      by_cases zero : first = 0
      · simp [hostOctetsValid, zero]
      · have later : 0 ∈ (scanOctet 0 0 (first :: tail)).2.2 := by
          obtain ⟨ds, split, -, -, all⟩ := scanOctet_eq
            (rfl : scanOctet 0 0 (first :: tail) = scanOctet 0 0 (first :: tail))
          rw [split] at ended
          -- The scan stops at the NUL at the latest, for it takes digits only.
          refine (List.mem_append.mp ended).resolve_left fun member => ?_
          exact absurd (all 0 member).1 (by decide)
        simp only [hostOctetsValid, if_neg zero]
        generalize scanOctet 0 0 (first :: tail) = scanned at later ⊢
        obtain ⟨digits, value, rest⟩ := scanned
        split
        · rfl
        · cases rest with
          | nil => simp at later
          | cons ch after =>
            dsimp only
            split_ifs with dot fourth junk
            · rfl
            · exact ih (by simpa [dot] using later) (by omega) (by omega)
            · rfl
            · -- Behind the last octet the loop makes one more round, which sees the NUL.
              obtain rfl : ch = 0 := not_not.mp junk
              cases rounds with
              | zero => omega
              | succ rounds => simp [hostOctetsValid]

/-- An accepted host is empty or canonical. -/
theorem isHost_of_valid {host : List UInt8}
    (valid : bridgeConfigTcpClientHostValid host = some true) : IsHost (content host) := by
  by_cases empty : content host = []
  · exact Or.inl empty
  · right
    cases host with
    | nil => simp [bridgeConfigTcpClientHostValid] at valid
    | cons first rest =>
      have nonzero : first ≠ 0 := by
        rintro rfl
        exact empty (by simp [content])
      simp only [bridgeConfigTcpClientHostValid, if_neg nonzero] at valid
      obtain ⟨values, -, count, text⟩ := dotted_of_hostOctetsValid valid empty
      rw [Nat.zero_add] at count
      obtain ⟨a, b, c, d, rfl⟩ := List.length_eq_four.mp count
      refine ⟨a, b, c, d, ?_⟩
      rw [text]
      simp [dotted, dottedQuad, List.intercalate]

theorem IsHost.length_le {text : List UInt8} (host : IsHost text) :
    text.length ≤ bridgeConfigTcpClientHostMax := by
  rcases host with rfl | ⟨a, b, c, d, rfl⟩
  · simp
  · exact dottedQuad_length_le a b c d

/-! ## Hostnames -/

/-- A lower-case letter, a digit or a hyphen. -/
def hostnameChar (ch : UInt8) : Bool :=
  (0x61 ≤ ch && ch ≤ 0x7A) || (0x30 ≤ ch && ch ≤ 0x39) || ch == 0x2D

/-- The loop of `bridge_config_hostname_valid`; `last` is the character before this one. -/
def hostnameValidFrom : (len : ℕ) → (last : UInt8) → List UInt8 → Option Bool
  | _, _, [] => none
  | len, last, ch :: rest =>
    if ch = 0 then some (last != 0x2D)
    else if len = bridgeConfigHostnameMax then some false
    else if !hostnameChar ch then some false
    else hostnameValidFrom (len + 1) ch rest

def bridgeConfigHostnameValid (hostname : List UInt8) : Option Bool :=
  match hostname with
  | [] => none
  | first :: _ =>
    if first = 0 ∨ first = 0x2D then some false else hostnameValidFrom 0 first hostname

/-- A DNS label usable as hostname. -/
structure IsHostname (text : List UInt8) : Prop where
  nonempty : text ≠ []
  length_le : text.length ≤ bridgeConfigHostnameMax
  chars : ∀ ch ∈ text, hostnameChar ch = true
  first : text.head? ≠ some 0x2D
  last : text.getLast? ≠ some 0x2D

/-- What the loop accepts from a character on. -/
theorem content_of_hostnameValidFrom {len : ℕ} {last : UInt8} {bytes : List UInt8}
    (valid : hostnameValidFrom len last bytes = some true)
    (within : len ≤ bridgeConfigHostnameMax) :
    len + (content bytes).length ≤ bridgeConfigHostnameMax ∧
      (∀ ch ∈ content bytes, hostnameChar ch = true) ∧
      (last :: content bytes).getLast? ≠ some 0x2D := by
  induction bytes generalizing len last with
  | nil => simp [hostnameValidFrom] at valid
  | cons ch rest ih =>
    simp only [hostnameValidFrom] at valid
    split_ifs at valid with ended full foreign
    · have empty : content (ch :: rest) = [] := by simp [content, ended]
      simpa [empty, within] using valid
    · simp at valid
    · simp at valid
    · obtain ⟨bound, chars, final⟩ := ih valid (by omega)
      rw [content_cons ended]
      refine ⟨by simp; omega, List.forall_mem_cons.mpr ⟨by simpa using foreign, chars⟩, ?_⟩
      rwa [List.getLast?_cons_cons]

theorem hostnameValidFrom_isSome {bytes : List UInt8} (ended : 0 ∈ bytes) (len : ℕ)
    (last : UInt8) : (hostnameValidFrom len last bytes).isSome := by
  induction bytes generalizing len last with
  | nil => simp at ended
  | cons ch rest ih =>
    simp only [hostnameValidFrom]
    split_ifs with nul full foreign
    · rfl
    · rfl
    · rfl
    · exact ih (by simpa [Ne.symm nul] using ended) _ _

/-- An accepted hostname is a label of the right length and characters. -/
theorem isHostname_of_valid {hostname : List UInt8}
    (valid : bridgeConfigHostnameValid hostname = some true) : IsHostname (content hostname) := by
  cases hostname with
  | nil => simp [bridgeConfigHostnameValid] at valid
  | cons first rest =>
    simp only [bridgeConfigHostnameValid] at valid
    split_ifs at valid with refused
    · simp at valid
    · obtain ⟨nonzero, letter⟩ := not_or.mp refused
      obtain ⟨bound, chars, final⟩ := content_of_hostnameValidFrom valid (Nat.zero_le _)
      rw [content_cons nonzero] at bound chars final ⊢
      exact ⟨by simp, by omega, chars, by simpa using letter,
        by rwa [List.getLast?_cons_cons] at final⟩

/-! ## Arrays

What stands behind the terminator is not looked at. -/

theorem textValidFrom_append_zero (cont : ℕ) (text rest : List UInt8) :
    textValidFrom cont (text ++ 0 :: rest) = textValidFrom cont (text ++ [0]) := by
  induction text generalizing cont with
  | nil => cases cont <;> simp [textValidFrom]
  | cons b text ih =>
    have next : (text ++ 0 :: rest).headD 0 = (text ++ [0]).headD 0 := by cases text <;> rfl
    cases cont <;> simp only [List.cons_append, textValidFrom, ih, next]

theorem scanOctet_append_zero (digits value : ℕ) (text : List UInt8) :
    ∃ digits' value' text', ∀ rest,
      scanOctet digits value (text ++ 0 :: rest) = (digits', value', text' ++ 0 :: rest) := by
  induction text generalizing digits value with
  | nil => exact ⟨digits, value, [], fun rest => by simp [scanOctet]⟩
  | cons ch text ih =>
    by_cases digit : 0x30 ≤ ch ∧ ch ≤ 0x39 ∧ digits < 4
    · obtain ⟨digits', value', text', same⟩ := ih (digits + 1) (value * 10 + (ch.toNat - 0x30))
      exact ⟨digits', value', text', fun rest => by simp [scanOctet, digit, same]⟩
    · exact ⟨digits, value, ch :: text, fun rest => by
        simp only [List.cons_append, scanOctet, if_neg digit]⟩

theorem hostOctetsValid_append_zero (rounds octets : ℕ) (text rest : List UInt8) :
    hostOctetsValid rounds octets (text ++ 0 :: rest) =
      hostOctetsValid rounds octets (text ++ [0]) := by
  induction rounds generalizing octets text with
  | zero => rfl
  | succ rounds ih =>
    cases text with
    | nil => simp [hostOctetsValid]
    | cons first text =>
      have next : (text ++ 0 :: rest).headD 0 = (text ++ [0]).headD 0 := by cases text <;> rfl
      -- The scan of one octet stops before the NUL, whatever follows it.
      obtain ⟨digits, value, text', same⟩ := scanOctet_append_zero 0 0 (first :: text)
      have long := same rest
      have short := same []
      simp only [List.cons_append] at long short ⊢
      simp only [hostOctetsValid, long, short, next]
      cases text' with
      | nil =>
        have ended := ih (octets + 1) []
        simp only [List.nil_append] at ended ⊢
        simp [ended]
      | cons ch text' =>
        have dotted := ih (octets + 1) text'
        have junk := ih (octets + 1) (ch :: text')
        simp only [List.cons_append] at junk ⊢
        simp only [dotted, junk]

theorem hostnameValidFrom_append_zero (len : ℕ) (last : UInt8) (text rest : List UInt8) :
    hostnameValidFrom len last (text ++ 0 :: rest) =
      hostnameValidFrom len last (text ++ [0]) := by
  induction text generalizing len last with
  | nil => simp [hostnameValidFrom]
  | cons ch text ih => simp only [List.cons_append, hostnameValidFrom, ih]

section Congr

variable {n m : ℕ} {a : CharArray n} {b : CharArray m}

/-- The checks see the strings two terminated arrays hold, and nothing else of them. -/
theorem valid_congr (ended : a.terminated = true) (ended' : b.terminated = true)
    (same : a.str = b.str) :
    bridgeConfigTextValid a.bytes = bridgeConfigTextValid b.bytes ∧
      bridgeConfigTcpClientHostValid a.bytes = bridgeConfigTcpClientHostValid b.bytes ∧
      bridgeConfigHostnameValid a.bytes = bridgeConfigHostnameValid b.bytes := by
  obtain ⟨rest, split⟩ := CharArray.bytes_of_terminated ended
  obtain ⟨rest', split'⟩ := CharArray.bytes_of_terminated ended'
  rw [split, split', same]
  refine ⟨?_, ?_, ?_⟩
  · exact (textValidFrom_append_zero 0 _ _).trans (textValidFrom_append_zero 0 _ _).symm
  · cases b.str with
    | nil => rfl
    | cons first text =>
      have host := (hostOctetsValid_append_zero 5 0 (first :: text) rest).trans
        (hostOctetsValid_append_zero 5 0 (first :: text) rest').symm
      simp only [List.cons_append] at host ⊢
      simp only [bridgeConfigTcpClientHostValid, host]
  · cases b.str with
    | nil => rfl
    | cons first text =>
      have label := (hostnameValidFrom_append_zero 0 first (first :: text) rest).trans
        (hostnameValidFrom_append_zero 0 first (first :: text) rest').symm
      simp only [List.cons_append] at label ⊢
      simp only [bridgeConfigHostnameValid, label]

end Congr

/-- On a terminated array each check has a result: it reads nothing outside. -/
theorem valid_isSome_of_terminated {n : ℕ} {a : CharArray n} (ended : a.terminated = true) :
    (bridgeConfigTextValid a.bytes).isSome ∧ (bridgeConfigTcpClientHostValid a.bytes).isSome ∧
      (bridgeConfigHostnameValid a.bytes).isSome := by
  have member : (0 : UInt8) ∈ a.bytes := by simpa [CharArray.terminated] using ended
  obtain ⟨first, rest, bytes⟩ := List.exists_cons_of_ne_nil (List.ne_nil_of_mem member)
  refine ⟨textValidFrom_isSome member 0, ?_, ?_⟩
  · rw [bytes] at member ⊢
    simp only [bridgeConfigTcpClientHostValid]
    split
    · rfl
    · exact hostOctetsValid_isSome member (by omega) (by omega)
  · rw [bytes] at member ⊢
    simp only [bridgeConfigHostnameValid]
    split
    · rfl
    · exact hostnameValidFrom_isSome member 0 first

end EspNmeaBridge
