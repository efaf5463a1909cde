/-
# The armour of AIS payloads

A payload carries six bits in each character: '0' to 'W' for 0 to 39 and the
backquote to 'w' for 40 to 63. This file says what armouring is over strings of
bits and compares `decode_mmsi` with it. Armoured messages decode to their MMSI,
whatever stands around it.

The characters between the two ranges, 'X' to '_', are no armour, but the
arithmetic of `ais_sixbit_value` gives them the values of 'Q' to 'W' and of the
backquote. A payload with one of them decodes, where it should not.
-/

import EspNmeaBridge.AisMmsiFilter
import EspNmeaBridge.Lib.BitString

namespace EspNmeaBridge

open CString BitString

/-! ## Armouring -/

/-- The character of each six-bit value in turn. -/
def armourAlphabet : List UInt8 := (List.range' 48 40 ++ List.range' 96 24).map UInt8.ofNat

/-- The six bits a character of the alphabet stands for. -/
def armourBits (ch : UInt8) : List Bool := ofNat 6 (armourAlphabet.idxOf ch)

/-- The bit string of a payload. -/
def payloadBits (payload : List UInt8) : List Bool := payload.flatMap armourBits

/-- The character for six bits. -/
def armourChar (bits : List Bool) : UInt8 := armourAlphabet.getD (value bits) 0

/-- Six bits to a character, the last one filled up with zeros. -/
def armour (bits : List Bool) : List UInt8 :=
  if bits = [] then []
  else armourChar ((bits ++ List.replicate 5 false).take 6) :: armour (bits.drop 6)
termination_by bits.length
decreasing_by
  have := List.length_pos_of_ne_nil ‹bits ≠ []›
  simp only [List.length_drop]
  omega

/-- At least seven bytes, the first seven of them armour. -/
def IsArmoured (payload : List UInt8) : Prop :=
  7 ≤ payload.length ∧ ∀ ch ∈ payload.take 7, ch ∈ armourAlphabet

instance (payload : List UInt8) : Decidable (IsArmoured payload) :=
  inferInstanceAs (Decidable (_ ∧ ∀ ch ∈ payload.take 7, _))

/-- A position report and every other message starts with its type, the repeat
indicator and the MMSI. -/
def messageBits (type : BitVec 6) (repeatIndicator : BitVec 2) (mmsi : BitVec 30)
    (rest : List Bool) : List Bool :=
  ofNat 6 type.toNat ++ ofNat 2 repeatIndicator.toNat ++ ofNat 30 mmsi.toNat ++ rest

/-- Bits 8 to 37 of a payload. -/
def mmsiBits (payload : List UInt8) : List Bool := ((payloadBits payload).drop 8).take 30

/-- `decode_mmsi` accepts the payload exactly when it is armoured, and then returns
the MMSI in its bits. -/
def DecodesExactly (payload : List UInt8) : Prop :=
  ((decodeMmsi payload).isSome ↔ IsArmoured payload) ∧
    (IsArmoured payload → decodeMmsi payload = some (UInt32.ofNat (value (mmsiBits payload))))

/-- Two prefixes of seven characters are decoded to the same 42 bits only if they are
the same. -/
def DecodeApart (payload other : List UInt8) : Prop :=
  7 ≤ payload.length → 7 ≤ other.length → ∀ bits, sixbitRun 0 (payload.take 7) = some bits →
    sixbitRun 0 (other.take 7) = some bits → payload.take 7 = other.take 7

/-- No character between the two ranges is let through: none is among the first seven,
or there are no seven, or another one is rejected. -/
def NoStrayArmour (payload : List UInt8) : Prop :=
  payload.length < 7 ∨ (∃ ch ∈ payload.take 7, ch < 48 ∨ 119 < ch) ∨
    ∀ ch ∈ payload.take 7, ¬ (88 ≤ ch ∧ ch ≤ 95)

/-! ## One character -/

theorem mem_armourAlphabet_iff (ch : UInt8) :
    ch ∈ armourAlphabet ↔ ¬ (ch < 48 ∨ 119 < ch) ∧ ¬ (88 ≤ ch ∧ ch ≤ 95) := by
  have bound := ch.toNat_lt
  have inRange : ch ∈ armourAlphabet ↔
      (48 ≤ ch.toNat ∧ ch.toNat < 88) ∨ (96 ≤ ch.toNat ∧ ch.toNat < 120) := by
    simp only [armourAlphabet, List.mem_map, List.mem_append, List.mem_range'_1]
    constructor
    · rintro ⟨n, range, rfl⟩
      have small : (UInt8.ofNat n).toNat = n := by
        rw [UInt8.toNat_ofNat', Nat.mod_eq_of_lt (by omega)]
      rw [small]
      exact range
    · intro range
      exact ⟨ch.toNat, range, UInt8.ofNat_toNat⟩
  rw [inRange]
  simp only [UInt8.lt_iff_toNat_lt, UInt8.le_iff_toNat_le, UInt8.reduceToNat]
  omega

/-- The index of every character of the alphabet, and its value to the filter. -/
private theorem armour_index : ∀ v < 64,
    armourAlphabet.idxOf (armourAlphabet.getD v 0) = v ∧
      aisSixbitValue (armourAlphabet.getD v 0) = some v := by
  decide +kernel

theorem idxOf_lt {ch : UInt8} (armoured : ch ∈ armourAlphabet) :
    armourAlphabet.idxOf ch < 2 ^ 6 :=
  List.idxOf_lt_length_of_mem armoured

/-- Inside the alphabet a character has its index as value. -/
theorem aisSixbitValue_of_mem {ch : UInt8} (armoured : ch ∈ armourAlphabet) :
    aisSixbitValue ch = some (armourAlphabet.idxOf ch) := by
  have found : armourAlphabet.getD (armourAlphabet.idxOf ch) 0 = ch := by
    rw [List.getD_eq_getElem _ _ (List.idxOf_lt_length_of_mem armoured), List.getElem_idxOf]
  have value := (armour_index _ (idxOf_lt armoured)).2
  rwa [found] at value

/-- Outside the alphabet only the characters between the two ranges have a value. -/
theorem aisSixbitValue_isSome_iff (ch : UInt8) :
    (aisSixbitValue ch).isSome ↔ ch ∈ armourAlphabet ∨ (88 ≤ ch ∧ ch ≤ 95) := by
  rw [mem_armourAlphabet_iff]
  revert ch
  decide +kernel

theorem armourChar_mem {bits : List Bool} (six : bits.length = 6) :
    armourChar bits ∈ armourAlphabet := by
  have bound := value_lt bits
  rw [six] at bound
  rw [armourChar, List.getD_eq_getElem _ _ (by exact bound)]
  exact List.getElem_mem _

/-- A character stands for the six bits it was chosen for. -/
theorem armourBits_armourChar {bits : List Bool} (six : bits.length = 6) :
    armourBits (armourChar bits) = bits := by
  have bound := value_lt bits
  rw [six] at bound
  rw [armourBits, armourChar, (armour_index _ bound).1, ← six, ofNat_value]

@[simp] theorem length_armourBits (ch : UInt8) : (armourBits ch).length = 6 := length_ofNat _ _

/-- Characters of the alphabet are told apart by their bits. -/
theorem eq_of_armourBits_eq {ch other : UInt8} (armoured : ch ∈ armourAlphabet)
    (armoured' : other ∈ armourAlphabet) (same : armourBits ch = armourBits other) :
    ch = other := by
  have sameValue := congrArg value same
  rw [armourBits, armourBits, value_ofNat (idxOf_lt armoured),
    value_ofNat (idxOf_lt armoured')] at sameValue
  exact (List.idxOf_inj armoured).mp sameValue

/-! ## A run of characters -/

@[simp] theorem length_payloadBits (payload : List UInt8) :
    (payloadBits payload).length = 6 * payload.length :=
  length_flatMap armourBits length_armourBits payload

/-- Armour appends its bits to those read before it. -/
theorem sixbitRun_of_mem {payload : List UInt8} (armoured : ∀ ch ∈ payload, ch ∈ armourAlphabet)
    (front : List Bool) :
    sixbitRun (value front) payload = some (value (front ++ payloadBits payload)) := by
  induction payload generalizing front with
  | nil => simp [sixbitRun, payloadBits]
  | cons ch rest ih =>
    have chArmoured := armoured ch (by simp)
    have bound := idxOf_lt chArmoured
    have next : value front <<< 6 ||| armourAlphabet.idxOf ch = value (front ++ armourBits ch) := by
      rw [← Nat.shiftLeft_add_eq_or_of_lt bound, value_append, length_armourBits, armourBits,
        value_ofNat bound, Nat.shiftLeft_eq]
    simp only [sixbitRun, aisSixbitValue_of_mem chArmoured, Option.bind_eq_bind, Option.bind_some,
      next]
    rw [ih (fun b member => armoured b (by simp [member])), payloadBits, payloadBits,
      List.flatMap_cons, List.append_assoc]

/-- A run has a value when every character has one. -/
theorem sixbitRun_isSome_iff (bits : ℕ) (payload : List UInt8) :
    (sixbitRun bits payload).isSome ↔ ∀ ch ∈ payload, (aisSixbitValue ch).isSome := by
  induction payload generalizing bits with
  | nil => simp [sixbitRun]
  | cons ch rest ih =>
    cases found : aisSixbitValue ch with
    | none => simp [sixbitRun, found]
    | some v => simp [sixbitRun, found, ih]

theorem decodeMmsi_isSome_iff (payload : List UInt8) :
    (decodeMmsi payload).isSome ↔
      7 ≤ payload.length ∧ ∀ ch ∈ payload.take 7, (aisSixbitValue ch).isSome := by
  unfold decodeMmsi
  split_ifs with short
  · simp
    omega
  · rw [Option.isSome_map, sixbitRun_isSome_iff]
    exact (and_iff_right (by omega)).symm

/-- An armoured payload decodes to the number in its bits 8 to 37. -/
theorem decodeMmsi_of_isArmoured {payload : List UInt8} (armoured : IsArmoured payload) :
    decodeMmsi payload = some (UInt32.ofNat (value (mmsiBits payload))) := by
  obtain ⟨long, seven⟩ := armoured
  have run := sixbitRun_of_mem seven []
  rw [value_nil, List.nil_append] at run
  have prefixBits : payloadBits (payload.take 7) = (payloadBits payload).take 42 :=
    (take_flatMap armourBits length_armourBits 7 payload).symm
  -- The 42 bits are eight, the thirty of the MMSI, and four.
  have split : (payloadBits payload).take 42 =
      (payloadBits payload).take 8 ++ mmsiBits payload ++
        (((payloadBits payload).drop 38).take 4) := by
    rw [mmsiBits, ← List.take_add, ← List.take_add]
  have enough : 42 ≤ (payloadBits payload).length := by
    rw [length_payloadBits]
    omega
  have partLength : (mmsiBits payload).length = 30 := by
    rw [mmsiBits, List.length_take, List.length_drop]
    omega
  have backLength : (((payloadBits payload).drop 38).take 4).length = 4 := by
    rw [List.length_take, List.length_drop]
    omega
  have read := value_section ((payloadBits payload).take 8) (mmsiBits payload)
    (((payloadBits payload).drop 38).take 4)
  rw [partLength, backLength, ← split, ← prefixBits] at read
  rw [decodeMmsi, if_neg (by omega), run, Option.map_some]
  exact congrArg (fun n => some (UInt32.ofNat n)) read

/-- Armoured prefixes are told apart by their 42 bits. -/
theorem eq_of_payloadBits_eq {payload other : List UInt8}
    (armoured : ∀ ch ∈ payload, ch ∈ armourAlphabet) (armoured' : ∀ ch ∈ other, ch ∈ armourAlphabet)
    (same : payloadBits payload = payloadBits other) : payload = other := by
  induction payload generalizing other with
  | nil =>
    have := congrArg List.length same
    rw [length_payloadBits, length_payloadBits] at this
    exact (List.length_eq_zero_iff.mp (by simpa using this.symm)).symm
  | cons ch rest ih =>
    cases other with
    | nil =>
      have := congrArg List.length same
      simp at this
    | cons ch' rest' =>
      rw [payloadBits, payloadBits, List.flatMap_cons, List.flatMap_cons] at same
      obtain ⟨sameChar, sameRest⟩ := List.append_inj same (by simp)
      rw [eq_of_armourBits_eq (armoured ch (by simp)) (armoured' ch' (by simp)) sameChar,
        ih (fun b member => armoured b (by simp [member]))
          (fun b member => armoured' b (by simp [member])) sameRest]

/-! ## Armoured messages -/

/-- The six bits of one character, filled up with zeros at the end of the message. -/
theorem length_sixBits {bits : List Bool} (nonempty : bits ≠ []) :
    ((bits ++ List.replicate 5 false).take 6).length = 6 := by
  have := List.length_pos_of_ne_nil nonempty
  rw [List.length_take, List.length_append, List.length_replicate]
  omega

theorem armour_mem (bits : List Bool) : ∀ ch ∈ armour bits, ch ∈ armourAlphabet := by
  fun_induction armour bits with
  | case1 => simp
  | case2 bits nonempty ih =>
    exact List.forall_mem_cons.mpr ⟨armourChar_mem (length_sixBits nonempty), ih⟩

/-- Armour carries the bits it was made from, and zeros behind them. -/
theorem payloadBits_armour (bits : List Bool) : bits <+: payloadBits (armour bits) := by
  fun_induction armour bits with
  | case1 => exact List.nil_prefix
  | case2 bits nonempty ih =>
    obtain ⟨fill, rest⟩ := ih
    rw [payloadBits, List.flatMap_cons, armourBits_armourChar (length_sixBits nonempty)]
    rcases Nat.lt_or_ge bits.length 6 with short | long
    · -- The last character holds all that is left.
      rw [List.take_append, List.take_of_length_le short.le, List.append_assoc]
      exact List.prefix_append _ _
    · rw [List.take_append_of_le_length long]
      refine ⟨fill, ?_⟩
      rw [← payloadBits, ← rest, ← List.append_assoc, List.take_append_drop]

theorem isArmoured_armour {bits : List Bool} (long : 37 ≤ bits.length) :
    IsArmoured (armour bits) := by
  have := (payloadBits_armour bits).length_le
  rw [length_payloadBits] at this
  exact ⟨by omega, fun ch member => armour_mem bits ch (List.mem_of_mem_take member)⟩

/-- Whatever the type, the repeat indicator and the rest of a message are, its MMSI
comes back. -/
theorem decodeMmsi_armour (type : BitVec 6) (repeatIndicator : BitVec 2) (mmsi : BitVec 30)
    (rest : List Bool) :
    decodeMmsi (armour (messageBits type repeatIndicator mmsi rest)) =
      some (UInt32.ofNat mmsi.toNat) := by
  have long : 37 ≤ (messageBits type repeatIndicator mmsi rest).length := by
    simp [messageBits]
    omega
  obtain ⟨fill, bits_eq⟩ := payloadBits_armour (messageBits type repeatIndicator mmsi rest)
  have found : mmsiBits (armour (messageBits type repeatIndicator mmsi rest)) =
      ofNat 30 mmsi.toNat := by
    rw [mmsiBits, ← bits_eq, messageBits]
    simp only [List.append_assoc]
    rw [← List.append_assoc, List.drop_left' (by simp), List.take_left' (by simp)]
  rw [decodeMmsi_of_isArmoured (isArmoured_armour long), found, value_ofNat mmsi.isLt]

/-! ## What is accepted -/

theorem decodesExactly_iff (payload : List UInt8) :
    DecodesExactly payload ↔ NoStrayArmour payload := by
  constructor
  · rintro ⟨accepts, -⟩
    by_contra stray
    simp only [NoStrayArmour, not_or, not_exists, not_and, not_forall] at stray
    obtain ⟨long, inside, ch, member, between⟩ := stray
    -- All seven characters have a value, so the payload decodes although it is no armour.
    have decodes : (decodeMmsi payload).isSome := by
      refine (decodeMmsi_isSome_iff payload).mpr ⟨by omega, fun b memberB => ?_⟩
      rw [aisSixbitValue_isSome_iff, mem_armourAlphabet_iff]
      have := inside b memberB
      tauto
    have armoured := (accepts.mp decodes).2 ch member
    rw [mem_armourAlphabet_iff] at armoured
    tauto
  · intro noStray
    refine ⟨?_, decodeMmsi_of_isArmoured⟩
    rw [decodeMmsi_isSome_iff, IsArmoured]
    refine and_congr_right fun long => ?_
    rcases noStray with short | ⟨ch, member, outside⟩ | none
    · omega
    · -- One of the seven is rejected, and is no armour either.
      refine iff_of_false (fun all => ?_) fun all => ?_
      · have := all ch member
        rw [aisSixbitValue_isSome_iff, mem_armourAlphabet_iff] at this
        rcases this with this | this
        · tauto
        · rw [UInt8.lt_iff_toNat_lt, UInt8.lt_iff_toNat_lt] at outside
          rw [UInt8.le_iff_toNat_le, UInt8.le_iff_toNat_le] at this
          simp at outside this
          omega
      · have := all ch member
        rw [mem_armourAlphabet_iff] at this
        tauto
    · refine forall₂_congr fun ch member => ?_
      rw [aisSixbitValue_isSome_iff]
      exact or_iff_left (none ch member)

/-- Armoured messages always decode to their MMSI. Decoding is exact for two payloads,
and tells their first 42 bits apart, if and only if neither has a character from
between the two ranges let through. -/
theorem decoding_exact_iff (payload other : List UInt8) :
    (∀ (type : BitVec 6) (repeatIndicator : BitVec 2) (mmsi : BitVec 30) (rest : List Bool),
      decodeMmsi (armour (messageBits type repeatIndicator mmsi rest)) =
        some (UInt32.ofNat mmsi.toNat)) ∧
    ((DecodesExactly payload ∧ DecodesExactly other ∧ DecodeApart payload other) ↔
      NoStrayArmour payload ∧ NoStrayArmour other) := by
  refine ⟨decodeMmsi_armour, ?_⟩
  rw [decodesExactly_iff, decodesExactly_iff, ← and_assoc, and_iff_left_iff_imp]
  rintro ⟨noStray, noStray'⟩ long long' bits run run'
  -- Both decode, so both are armoured, and armour is told apart.
  have armoured {p : List UInt8} (clean : NoStrayArmour p) (longP : 7 ≤ p.length)
      (runP : sixbitRun 0 (p.take 7) = some bits) : ∀ ch ∈ p.take 7, ch ∈ armourAlphabet := by
    have decodes : (decodeMmsi p).isSome := by
      rw [decodeMmsi, if_neg (by omega), runP]
      rfl
    exact (((decodesExactly_iff p).mpr clean).1.mp decodes).2
  have seven := armoured noStray long run
  have seven' := armoured noStray' long' run'
  have sameBits := sixbitRun_of_mem seven []
  have sameBits' := sixbitRun_of_mem seven' []
  rw [value_nil, run, Option.some.injEq, List.nil_append] at sameBits
  rw [value_nil, run', Option.some.injEq, List.nil_append] at sameBits'
  refine eq_of_payloadBits_eq seven seven' (eq_of_value_eq ?_ (sameBits.symm.trans sameBits'))
  rw [length_payloadBits, length_payloadBits, List.length_take, List.length_take]
  omega

/-- Seven times 'X', which is no armour, decodes like seven backquotes. -/
theorem stray_armour_decodes :
    ¬ ((∀ (type : BitVec 6) (repeatIndicator : BitVec 2) (mmsi : BitVec 30) (rest : List Bool),
      decodeMmsi (armour (messageBits type repeatIndicator mmsi rest)) =
        some (UInt32.ofNat mmsi.toNat)) ∧
    ∀ payload other : List UInt8,
      DecodesExactly payload ∧ DecodesExactly other ∧ DecodeApart payload other) := by
  rintro ⟨-, always⟩
  have decodes : (decodeMmsi (ascii "XXXXXXX")).isSome := by decide
  have armoured := (always (ascii "XXXXXXX") []).1.1.mp decodes
  exact absurd armoured (by decide)

end EspNmeaBridge
