/-
# The string checks accept all that they should

`BridgeConfig.Validators` shows that what passes a check has the right form. Here the
converse: strict UTF-8, every canonical address and every hostname label pass, whatever
memory holds behind their terminator. So each check decides exactly its language, and the
walk over the text ends at the terminator.
-/

import EspNmeaBridge.BridgeConfig.Validators

namespace EspNmeaBridge

open CString

/-! ## Text -/

section Text

variable {cont : ℕ} {b lead : UInt8} {rest tail text : List UInt8}

theorem textValidFrom_continuation (continues : Utf8.Continuation b) :
    textValidFrom (cont + 1) (b :: rest) = textValidFrom cont rest := by
  have mask : b &&& 0xC0 = 0x80 := (mask_ranges b).1.mpr continues
  simp [textValidFrom, mask]

/-- The loop takes one well-formed character at a time. -/
theorem textValidFrom_wellFormed {bytes : List UInt8} (wellFormed : Utf8.WellFormed bytes)
    (printable : ∀ a, bytes = [a] → 0x20 ≤ a.toNat) (rest : List UInt8) :
    textValidFrom 0 (bytes ++ rest) = textValidFrom 0 rest := by
  have lead_ranges (a : UInt8) := (mask_ranges a).2
  cases wellFormed with
  | @one a ascii =>
    have low := printable a rfl
    simp only [List.cons_append, List.nil_append, textValidFrom, UInt8.lt_iff_toNat_lt,
      ← UInt8.toNat_inj, UInt8.reduceToNat]
    rw [if_neg (by omega), if_neg (by omega), if_pos (by omega)]
  | @two a b low high second =>
    obtain ⟨two, -⟩ := lead_ranges a
    simp only [List.cons_append, List.nil_append, textValidFrom, two, UInt8.lt_iff_toNat_lt,
      UInt8.le_iff_toNat_le, ← UInt8.toNat_inj, UInt8.reduceToNat]
    rw [if_neg (by omega), if_neg (by omega), if_neg (by omega), if_pos (by omega)]
    exact textValidFrom_continuation second
  | @three a b c low high second third shortest scalar =>
    obtain ⟨two, three, -⟩ := lead_ranges a
    obtain ⟨-, -, -, overlong, surrogate, -⟩ := lead_ranges b
    simp only [List.cons_append, List.nil_append, textValidFrom, List.headD_cons, two, three,
      overlong, surrogate, UInt8.lt_iff_toNat_lt, UInt8.le_iff_toNat_le, ← UInt8.toNat_inj,
      UInt8.reduceToNat]
    rw [if_neg (by omega), if_neg (by omega), if_neg (by omega), if_neg (by omega),
      if_pos (by omega), if_neg (by omega)]
    exact (textValidFrom_continuation second).trans (textValidFrom_continuation third)
  | @four a b c d low high second third fourth shortest scalar =>
    obtain ⟨two, three, four, -⟩ := lead_ranges a
    obtain ⟨-, -, -, -, -, overlong⟩ := lead_ranges b
    simp only [List.cons_append, List.nil_append, textValidFrom, List.headD_cons, two, three, four,
      overlong, UInt8.lt_iff_toNat_lt, UInt8.le_iff_toNat_le, ← UInt8.toNat_inj, UInt8.reduceToNat]
    rw [if_neg (by omega), if_neg (by omega), if_neg (by omega), if_neg (by omega),
      if_neg (by omega), if_pos (by omega), if_neg (by omega)]
    exact ((textValidFrom_continuation second).trans (textValidFrom_continuation third)).trans
      (textValidFrom_continuation fourth)

/-- One printable character. -/
theorem textValidFrom_encodeChar {c : Char} (printable : 0x20 ≤ c.toNat) (rest : List UInt8) :
    textValidFrom 0 (String.utf8EncodeChar c ++ rest) = textValidFrom 0 rest := by
  refine textValidFrom_wellFormed (Utf8.wellFormed_encodeChar c) (fun a single => ?_) rest
  rcases Utf8.head_encodeChar single with ⟨-, same, -⟩ | ⟨high, -⟩ <;> omega

/-- All of it is accepted, up to the terminator. -/
theorem IsText.textValidFrom (isText : IsText text) (rest : List UInt8) :
    textValidFrom 0 (text ++ 0 :: rest) = some true := by
  obtain ⟨cs, rfl, printable⟩ := isText
  induction cs with
  | nil => simp [EspNmeaBridge.textValidFrom]
  | cons c cs ih =>
    obtain ⟨first, others⟩ := List.forall_mem_cons.mp printable
    rw [List.flatMap_cons, List.append_assoc, textValidFrom_encodeChar first]
    exact ih others

/-- How many bytes from the pointer on the loop has looked at when it returns. A lead byte
with a rule for the byte behind it looks at that one at once. -/
def textValidReads : (cont : ℕ) → List UInt8 → ℕ
  | _, [] => 1
  | cont + 1, byte :: rest =>
    if byte &&& 0xC0 ≠ 0x80 then 1 else textValidReads cont rest + 1
  | 0, lead :: rest =>
    let next := rest.headD 0
    if lead = 0 then 1
    else if lead < 0x20 then 1
    else if lead < 0x80 then textValidReads 0 rest + 1
    else if lead &&& 0xE0 = 0xC0 ∧ 0xC2 ≤ lead then textValidReads 1 rest + 1
    else if lead &&& 0xF0 = 0xE0 then
      if lead = 0xE0 ∧ next &&& 0xE0 = 0x80 ∨ lead = 0xED ∧ next &&& 0xE0 = 0xA0 then 2
      else textValidReads 2 rest + 1
    else if lead &&& 0xF8 = 0xF0 ∧ lead ≤ 0xF4 then
      if lead = 0xF0 ∧ next &&& 0xF0 = 0x80 ∨ lead = 0xF4 ∧ 0x8F < next then 2
      else textValidReads 3 rest + 1
    else 1

theorem one_le_textValidReads (cont : ℕ) (bytes : List UInt8) : 1 ≤ textValidReads cont bytes := by
  cases bytes with
  | nil => simp [textValidReads]
  | cons lead rest =>
    cases cont <;> simp only [textValidReads] <;> split_ifs <;> omega

/-- Nothing else is looked at: these bytes alone give the answer. -/
theorem textValidFrom_take_reads (cont : ℕ) (bytes : List UInt8) :
    textValidFrom cont (bytes.take (textValidReads cont bytes)) = textValidFrom cont bytes := by
  induction bytes generalizing cont with
  | nil => simp
  | cons lead rest ih =>
    have next (cont : ℕ) : (rest.take (textValidReads cont rest)).headD 0 = rest.headD 0 := by
      have some_byte := one_le_textValidReads cont rest
      cases rest with
      | nil => simp
      | cons b rest =>
        rw [← Nat.sub_add_cancel some_byte, List.take_succ_cons, List.headD_cons, List.headD_cons]
    have taken : (rest.take 1).headD 0 = rest.headD 0 := by cases rest <;> rfl
    cases cont with
    | succ cont =>
      simp only [textValidReads]
      split_ifs with wrong
      · simp [textValidFrom, wrong]
      · rw [List.take_succ_cons]
        simp only [textValidFrom, if_neg wrong, ih]
    | zero =>
      simp only [textValidReads]
      split_ifs with ended control ascii two three overlong four overlong
      · simp [textValidFrom, ended]
      · simp [textValidFrom, ended, control]
      · simp [textValidFrom, ended, control, ascii, ih]
      · simp [textValidFrom, ended, control, ascii, two, ih]
      · -- the rule for the second byte has rejected it
        have reject (tail : List UInt8) (same : tail.headD 0 = rest.headD 0) :
            textValidFrom 0 (lead :: tail) = some false := by
          simp only [textValidFrom, same]
          rw [if_neg ended, if_neg control, if_neg ascii, if_neg two, if_pos three,
            if_pos overlong]
        exact (reject _ taken).trans (reject _ rfl).symm
      · rw [List.take_succ_cons]
        simp only [textValidFrom, ended, control, ascii, two, three, next, ih, if_true, if_false]
      · have reject (tail : List UInt8) (same : tail.headD 0 = rest.headD 0) :
            textValidFrom 0 (lead :: tail) = some false := by
          simp only [textValidFrom, same]
          rw [if_neg ended, if_neg control, if_neg ascii, if_neg two, if_neg three, if_pos four,
            if_pos overlong]
        exact (reject _ taken).trans (reject _ rfl).symm
      · rw [List.take_succ_cons]
        simp only [textValidFrom, ended, control, ascii, two, three, four, next, ih, if_true,
          if_false, and_self]
      · simp [textValidFrom, ended, control, ascii, two, three, four]

/-- The last byte looked at is the terminator or stands before it. -/
theorem textValidReads_le (cont : ℕ) (text rest : List UInt8) :
    textValidReads cont (text ++ 0 :: rest) ≤ text.length + 1 := by
  induction text generalizing cont with
  | nil => cases cont <;> simp [textValidReads]
  | cons lead text ih =>
    -- behind a character there is the terminator at least, so a look at `p[1]` is safe
    cases cont <;> simp only [List.cons_append, textValidReads, List.length_cons] <;>
      split_ifs <;> first | omega | exact Nat.succ_le_succ (ih _)

/-- The check decides strict UTF-8 without C0 controls, and looks at nothing behind the
terminator. -/
theorem bridgeConfigTextValid_exact (text rest : List UInt8) (clean : (0 : UInt8) ∉ text) :
    (bridgeConfigTextValid (text ++ 0 :: rest) = some true ↔ IsText text) ∧
      (bridgeConfigTextValid (text ++ 0 :: rest)).isSome = true ∧
      textValidReads 0 (text ++ 0 :: rest) ≤ text.length + 1 ∧
      bridgeConfigTextValid (text ++ 0 :: rest) = bridgeConfigTextValid (text ++ [0]) := by
  refine ⟨⟨fun valid => ?_, fun isText => isText.textValidFrom rest⟩,
    textValidFrom_isSome (by simp) 0, textValidReads_le 0 text rest,
    textValidFrom_append_zero 0 text rest⟩
  have accepted := isText_of_textValidFrom valid
  rwa [content_append_zero, content_eq_self clean] at accepted

/-- A surrogate and an encoding cut off by the terminator are refused, a euro sign is not. -/
theorem bridgeConfigTextValid_exact_euro :
    bridgeConfigTextValid [0xED, 0xA0, 0x80, 0] = some false ∧
      bridgeConfigTextValid [0xE2, 0x82, 0] = some false ∧ IsText [0xE2, 0x82, 0xAC] :=
  ⟨by decide, by decide,
    (bridgeConfigTextValid_exact [0xE2, 0x82, 0xAC] [] (by decide)).1.mp (by decide)⟩

end Text

/-! ## Hosts -/

/-- What the scan of an octet looks at in its decimal form. -/
theorem decimal_digits {n : ℕ} (octet : n < 256) :
    decimal n ≠ [] ∧ (∀ ch ∈ decimal n, 0x30 ≤ ch ∧ ch ≤ 0x39) ∧
      (decimal n).foldl (fun v ch => v * 10 + (ch.toNat - 0x30)) 0 = n ∧
      ((decimal n).head? = some 0x30 → (decimal n).length = 1) := by
  rw [decimal_octet octet]
  split_ifs with one two
  -- one, two or three digits, none of which wraps
  all_goals
    simp only [List.forall_mem_cons, List.foldl_cons, List.foldl_nil, List.head?_cons,
      Option.some.injEq, UInt8.le_iff_toNat_le, ← UInt8.toNat_inj, UInt8.toNat_ofNat',
      UInt8.reduceToNat]
    refine ⟨by simp, ?_, by omega, fun zero => ?_⟩
    · simp only [List.not_mem_nil, IsEmpty.forall_iff, implies_true, and_true]
      omega
  · rfl
  all_goals omega

/-- Up to four digits are scanned, up to what is no digit. -/
theorem scanOctet_append {ds rest : List UInt8} {digits value : ℕ}
    (all : ∀ ch ∈ ds, 0x30 ≤ ch ∧ ch ≤ 0x39) (few : digits + ds.length ≤ 4)
    (stop : ∀ ch, rest.head? = some ch → ¬ (0x30 ≤ ch ∧ ch ≤ 0x39)) :
    scanOctet digits value (ds ++ rest) =
      (digits + ds.length, ds.foldl (fun v ch => v * 10 + (ch.toNat - 0x30)) value, rest) := by
  induction ds generalizing digits value with
  | nil =>
    cases rest with
    | nil => rfl
    | cons ch rest =>
      have other : ¬ (0x30 ≤ ch ∧ ch ≤ 0x39 ∧ digits < 4) := by
        rintro ⟨low, high, -⟩
        exact stop ch rfl ⟨low, high⟩
      simp [scanOctet, other]
  | cons d ds ih =>
    obtain ⟨⟨low, high⟩, others⟩ := List.forall_mem_cons.mp all
    rw [List.length_cons] at few ⊢
    have room : digits < 4 := by omega
    rw [List.cons_append, scanOctet, if_pos ⟨low, high, room⟩, ih others (by omega),
      List.foldl_cons]
    congr 1
    omega

/-- One round over an octet in decimal. -/
theorem hostOctetsValid_decimal {n rounds octets : ℕ} {ch : UInt8} {after : List UInt8}
    (octet : n < 256) (separator : ch = 0x2E ∨ ch = 0) :
    hostOctetsValid (rounds + 1) octets (decimal n ++ ch :: after) =
      if ch = 0x2E then
        if octets + 1 = 4 then some false else hostOctetsValid rounds (octets + 1) after
      else hostOctetsValid rounds (octets + 1) (0 :: after) := by
  obtain ⟨nonempty, all, sum, canonical⟩ := decimal_digits octet
  have few := octet_length_le octet
  have stop : ∀ c, (ch :: after).head? = some c → ¬ (0x30 ≤ c ∧ c ≤ 0x39) := by
    rintro c same
    obtain rfl : ch = c := by simpa using same
    rcases separator with rfl | rfl <;> decide
  have scan := @scanOctet_append _ _ 0 0 all (by omega) stop
  rw [sum] at scan
  obtain ⟨first, ds, split⟩ := List.exists_cons_of_ne_nil nonempty
  rw [split] at scan all canonical few ⊢
  rw [List.cons_append] at scan ⊢
  have digit := (all first (by simp)).1
  have nonzero : first ≠ 0 := by
    rintro rfl
    exact absurd digit (by decide)
  -- a leading zero is the only digit, so no digit follows it
  have single : ¬ (first = 0x30 ∧ 0x30 ≤ (ds ++ ch :: after).headD 0 ∧
      (ds ++ ch :: after).headD 0 ≤ 0x39) := by
    rintro ⟨zero, low, high⟩
    have alone := canonical (by simp [zero])
    obtain rfl : ds = [] := by simpa using alone
    exact stop ch rfl ⟨low, high⟩
  simp only [hostOctetsValid, if_neg nonzero, scan, List.length_cons] at few ⊢
  rw [if_neg (by push Not; exact ⟨by omega, by omega, by omega, by simpa using single⟩)]
  rcases separator with rfl | rfl <;> simp

/-- Every canonical address is accepted. -/
theorem IsHost.valid {text : List UInt8} (host : IsHost text) (rest : List UInt8) :
    bridgeConfigTcpClientHostValid (text ++ 0 :: rest) = some true := by
  rcases host with rfl | ⟨a, b, c, d, rfl⟩
  · simp [bridgeConfigTcpClientHostValid]
  · have accepted : hostOctetsValid 5 0 (dottedQuad a b c d ++ 0 :: rest) = some true := by
      simp only [dottedQuad, List.append_assoc, List.cons_append]
      rw [hostOctetsValid_decimal a.isLt (Or.inl rfl), hostOctetsValid_decimal b.isLt (Or.inl rfl),
        hostOctetsValid_decimal c.isLt (Or.inl rfl), hostOctetsValid_decimal d.isLt (Or.inr rfl)]
      simp [hostOctetsValid]
    obtain ⟨nonempty, all, -⟩ := decimal_digits a.isLt
    obtain ⟨first, ds, split⟩ := List.exists_cons_of_ne_nil nonempty
    have nonzero : first ≠ 0 := by
      rintro rfl
      exact absurd (all 0 (by simp [split])).1 (by decide)
    simp only [dottedQuad, split, List.append_assoc, List.cons_append] at accepted ⊢
    simpa [bridgeConfigTcpClientHostValid, nonzero] using accepted

/-- A host is written with digits and dots. -/
theorem IsHost.chars {text : List UInt8} (host : IsHost text) :
    ∀ ch ∈ text, (0x30 ≤ ch ∧ ch ≤ 0x39) ∨ ch = 0x2E := by
  have digit (n : Fin 256) (ch : UInt8) (member : ch ∈ decimal n) : 0x30 ≤ ch ∧ ch ≤ 0x39 :=
    (decimal_digits n.isLt).2.1 ch member
  rcases host with rfl | ⟨a, b, c, d, rfl⟩
  · simp
  · intro ch member
    simp only [dottedQuad, List.mem_append, List.mem_cons] at member
    rcases member with ((inside | dot | inside) | dot | inside) | dot | inside
    all_goals first | exact Or.inl (digit _ ch inside) | exact Or.inr dot

theorem bridgeConfigTcpClientHostValid_iff (text rest : List UInt8)
    (clean : (0 : UInt8) ∉ text) :
    bridgeConfigTcpClientHostValid (text ++ 0 :: rest) = some true ↔ IsHost text := by
  refine ⟨fun valid => ?_, fun host => host.valid rest⟩
  have accepted := isHost_of_valid valid
  rwa [content_append_zero, content_eq_self clean] at accepted

/-- The check decides the empty string and the canonical addresses, all of which fit the
array. -/
theorem bridgeConfigTcpClientHostValid_exact (text rest : List UInt8)
    (clean : (0 : UInt8) ∉ text) :
    (bridgeConfigTcpClientHostValid (text ++ 0 :: rest) = some true ↔
      text = [] ∨ ∃ a b c d : Fin 256, text = dottedQuad a b c d) ∧
      (bridgeConfigTcpClientHostValid (text ++ 0 :: rest)).isSome = true ∧
      (bridgeConfigTcpClientHostValid (text ++ 0 :: rest) = some true → text.length ≤ 15) := by
  have decides := bridgeConfigTcpClientHostValid_iff text rest clean
  refine ⟨decides, ?_, fun valid => (decides.mp valid).length_le⟩
  cases text with
  | nil => rfl
  | cons first text =>
    simp only [List.cons_append, bridgeConfigTcpClientHostValid]
    split_ifs
    · rfl
    · exact hostOctetsValid_isSome (by simp) (by omega) (by omega)

/-- A leading zero is refused, the largest address is accepted. -/
theorem bridgeConfigTcpClientHostValid_exact_broadcast :
    bridgeConfigTcpClientHostValid (ascii "01.2.3.4" ++ [0]) = some false ∧
      (bridgeConfigTcpClientHostValid (ascii "255.255.255.255" ++ [0]) = some true →
        (ascii "255.255.255.255").length ≤ 15) :=
  ⟨by decide, (bridgeConfigTcpClientHostValid_exact (ascii "255.255.255.255") [] (by decide)).2.2⟩

/-! ## Hostnames -/

/-- From a character on, the loop accepts what keeps to the characters and the length. -/
theorem hostnameValidFrom_of_chars {len : ℕ} {last : UInt8} {text : List UInt8}
    (chars : ∀ ch ∈ text, hostnameChar ch = true)
    (within : len + text.length ≤ bridgeConfigHostnameMax)
    (final : (last :: text).getLast? ≠ some 0x2D) (rest : List UInt8) :
    hostnameValidFrom len last (text ++ 0 :: rest) = some true := by
  induction text generalizing len last with
  | nil => simpa [hostnameValidFrom] using final
  | cons ch text ih =>
    obtain ⟨char, others⟩ := List.forall_mem_cons.mp chars
    have nonzero : ch ≠ 0 := by
      rintro rfl
      exact absurd char (by decide)
    rw [List.length_cons] at within
    have room : len ≠ bridgeConfigHostnameMax := by omega
    rw [List.getLast?_cons_cons] at final
    simpa [hostnameValidFrom, nonzero, room, char] using ih others (by omega) final

/-- Every label is accepted. -/
theorem IsHostname.valid {text : List UInt8} (label : IsHostname text) (rest : List UInt8) :
    bridgeConfigHostnameValid (text ++ 0 :: rest) = some true := by
  obtain ⟨first, more, rfl⟩ := List.exists_cons_of_ne_nil label.nonempty
  have nonzero : first ≠ 0 := by
    rintro rfl
    exact absurd (label.chars 0 (by simp)) (by decide)
  have letter : first ≠ 0x2D := by simpa using label.first
  have accepted := @hostnameValidFrom_of_chars 0 first _ label.chars
    (by simpa using label.length_le) (by simpa using label.last) rest
  simpa [bridgeConfigHostnameValid, nonzero, letter] using accepted

/-- The check decides the labels. -/
theorem bridgeConfigHostnameValid_iff (text rest : List UInt8) (clean : (0 : UInt8) ∉ text) :
    bridgeConfigHostnameValid (text ++ 0 :: rest) = some true ↔ IsHostname text := by
  refine ⟨fun valid => ?_, fun label => label.valid rest⟩
  have accepted := isHostname_of_valid valid
  rwa [content_append_zero, content_eq_self clean] at accepted

/-! ## Arrays -/

section Arrays

variable {n : ℕ} {a : CharArray n}

/-- On a terminated array each check decides its language for the string it holds. -/
theorem valid_iff_of_terminated (ended : a.terminated = true) :
    (bridgeConfigTextValid a.bytes = some true ↔ IsText a.str) ∧
      (bridgeConfigTcpClientHostValid a.bytes = some true ↔ IsHost a.str) ∧
      (bridgeConfigHostnameValid a.bytes = some true ↔ IsHostname a.str) := by
  obtain ⟨rest, bytes⟩ := CharArray.bytes_of_terminated ended
  have clean := a.zero_notMem_str
  rw [bytes]
  exact ⟨(bridgeConfigTextValid_exact _ rest clean).1,
    bridgeConfigTcpClientHostValid_iff _ rest clean, bridgeConfigHostnameValid_iff _ rest clean⟩

end Arrays

end EspNmeaBridge
