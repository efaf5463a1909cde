/-
# Well-formed UTF-8 from its byte ranges

A decoder that never builds the character only looks at byte ranges: the lead byte
says how many continuation bytes follow, and four leads restrict the first of them.
Here each such range is shown to be the encoding of a Unicode scalar value.
-/

import Mathlib

namespace Utf8

/-- A continuation byte, `80..BF`. -/
def Continuation (b : UInt8) : Prop := 0x80 ≤ b.toNat ∧ b.toNat ≤ 0xBF

theorem Continuation.ne_zero {b : UInt8} (tail : Continuation b) : b ≠ 0 := by
  rintro rfl
  exact absurd tail.1 (by decide)

/-- The bytes encode characters that all have the property. -/
def Encodes (P : Char → Prop) (bytes : List UInt8) : Prop :=
  ∃ cs : List Char, bytes = cs.flatMap String.utf8EncodeChar ∧ ∀ c ∈ cs, P c

/-- The scalar value `n` as a character. -/
theorem exists_char {n : ℕ} (valid : n < 0xD800 ∨ 0xDFFF < n ∧ n < 0x110000) :
    ∃ c : Char, c.val.toNat = n := by
  have small : n < 2 ^ 32 := by omega
  exact ⟨Char.ofNatAux n valid, by simp [Char.ofNatAux, UInt32.toNat_ofNatLT]⟩

theorem exists_one {a : UInt8} (high : a.toNat ≤ 0x7F) :
    ∃ c : Char, String.utf8EncodeChar c = [a] ∧ c.toNat = a.toNat := by
  obtain ⟨c, value⟩ := exists_char (n := a.toNat) (by omega)
  refine ⟨c, ?_, value⟩
  simp [String.utf8EncodeChar, value, high]

theorem exists_two {a b : UInt8} (low : 0xC2 ≤ a.toNat) (high : a.toNat ≤ 0xDF)
    (second : Continuation b) :
    ∃ c : Char, String.utf8EncodeChar c = [a, b] ∧ 0x80 ≤ c.toNat := by
  obtain ⟨lower, upper⟩ := second
  obtain ⟨c, value⟩ := exists_char (n := (a.toNat - 0xC0) * 64 + (b.toNat - 0x80)) (by omega)
  refine ⟨c, ?_, ?_⟩
  · simp only [String.utf8EncodeChar, value]
    rw [if_neg (by omega), if_pos (by omega)]
    simp only [List.cons.injEq, and_true, ← UInt8.toNat_inj, UInt8.toNat_ofNat']
    omega
  · rw [Char.toNat, value]
    omega

theorem exists_three {a b c : UInt8} (low : 0xE0 ≤ a.toNat) (high : a.toNat ≤ 0xEF)
    (second : Continuation b) (third : Continuation c)
    (shortest : a.toNat = 0xE0 → 0xA0 ≤ b.toNat)
    (no_surrogate : a.toNat = 0xED → b.toNat ≤ 0x9F) :
    ∃ ch : Char, String.utf8EncodeChar ch = [a, b, c] ∧ 0x80 ≤ ch.toNat := by
  obtain ⟨lower, upper⟩ := second
  obtain ⟨lower', upper'⟩ := third
  obtain ⟨ch, value⟩ := exists_char
    (n := (a.toNat - 0xE0) * 4096 + (b.toNat - 0x80) * 64 + (c.toNat - 0x80)) (by omega)
  refine ⟨ch, ?_, ?_⟩
  · simp only [String.utf8EncodeChar, value]
    rw [if_neg (by omega), if_neg (by omega), if_pos (by omega)]
    simp only [List.cons.injEq, and_true, ← UInt8.toNat_inj, UInt8.toNat_ofNat']
    omega
  · rw [Char.toNat, value]
    omega

theorem exists_four {a b c d : UInt8} (low : 0xF0 ≤ a.toNat) (high : a.toNat ≤ 0xF4)
    (second : Continuation b) (third : Continuation c) (fourth : Continuation d)
    (shortest : a.toNat = 0xF0 → 0x90 ≤ b.toNat)
    (in_range : a.toNat = 0xF4 → b.toNat ≤ 0x8F) :
    ∃ ch : Char, String.utf8EncodeChar ch = [a, b, c, d] ∧ 0x80 ≤ ch.toNat := by
  obtain ⟨lower, upper⟩ := second
  obtain ⟨lower', upper'⟩ := third
  obtain ⟨lower'', upper''⟩ := fourth
  obtain ⟨ch, value⟩ := exists_char
    (n := (a.toNat - 0xF0) * 262144 + (b.toNat - 0x80) * 4096 + (c.toNat - 0x80) * 64 +
      (d.toNat - 0x80)) (by omega)
  refine ⟨ch, ?_, ?_⟩
  · simp only [String.utf8EncodeChar, value]
    rw [if_neg (by omega), if_neg (by omega), if_neg (by omega)]
    simp only [List.cons.injEq, and_true, ← UInt8.toNat_inj, UInt8.toNat_ofNat']
    omega
  · rw [Char.toNat, value]
    omega

/-- The byte sequences of one character, as the Unicode standard tabulates them. -/
inductive WellFormed : List UInt8 → Prop where
  | one {a : UInt8} : a.toNat ≤ 0x7F → WellFormed [a]
  | two {a b : UInt8} : 0xC2 ≤ a.toNat → a.toNat ≤ 0xDF → Continuation b → WellFormed [a, b]
  | three {a b c : UInt8} : 0xE0 ≤ a.toNat → a.toNat ≤ 0xEF → Continuation b → Continuation c →
      (a.toNat = 0xE0 → 0xA0 ≤ b.toNat) → (a.toNat = 0xED → b.toNat ≤ 0x9F) →
      WellFormed [a, b, c]
  | four {a b c d : UInt8} : 0xF0 ≤ a.toNat → a.toNat ≤ 0xF4 → Continuation b → Continuation c →
      Continuation d → (a.toNat = 0xF0 → 0x90 ≤ b.toNat) → (a.toNat = 0xF4 → b.toNat ≤ 0x8F) →
      WellFormed [a, b, c, d]

/-- A character is a scalar value: no surrogate, nothing above U+10FFFF. -/
theorem scalar_value (c : Char) : c.toNat < 0xD800 ∨ 0xDFFF < c.toNat ∧ c.toNat < 0x110000 :=
  c.valid

/-- Every character is encoded by a row of the table. -/
theorem wellFormed_encodeChar (c : Char) : WellFormed (String.utf8EncodeChar c) := by
  have scalar := scalar_value c
  have value : c.val.toNat = c.toNat := rfl
  simp only [String.utf8EncodeChar, value]
  -- By the length of the encoding; every byte is a sum that does not wrap.
  split_ifs with one two three
  · refine .one ?_
    simp only [UInt8.toNat_ofNat']
    omega
  · refine .two ?_ ?_ ⟨?_, ?_⟩ <;> simp only [UInt8.toNat_ofNat'] <;> omega
  · refine .three ?_ ?_ ⟨?_, ?_⟩ ⟨?_, ?_⟩ ?_ ?_ <;> simp only [UInt8.toNat_ofNat'] <;> omega
  · refine .four ?_ ?_ ⟨?_, ?_⟩ ⟨?_, ?_⟩ ⟨?_, ?_⟩ ?_ ?_ <;> simp only [UInt8.toNat_ofNat'] <;> omega

/-- An ASCII character is one byte. -/
theorem encodeChar_ascii {c : Char} (ascii : c.toNat < 0x80) :
    String.utf8EncodeChar c = [c.toUInt8] := by
  have value : c.val.toNat = c.toNat := rfl
  rw [String.utf8EncodeChar, value, if_pos (by omega)]
  rfl

theorem encode_ascii {text : List Char} (ascii : ∀ c ∈ text, c.toNat < 0x80) :
    text.flatMap String.utf8EncodeChar = text.map Char.toUInt8 := by
  induction text with
  | nil => rfl
  | cons c text ih =>
    obtain ⟨first, others⟩ := List.forall_mem_cons.mp ascii
    rw [List.flatMap_cons, encodeChar_ascii first, ih others]
    rfl

/-- Only ASCII characters start with an ASCII byte, which is then the character itself. -/
theorem head_encodeChar {c : Char} {lead : UInt8} {tail : List UInt8}
    (encoded : String.utf8EncodeChar c = lead :: tail) :
    (lead.toNat < 0x80 ∧ lead.toNat = c.toNat ∧ tail = []) ∨
      (0x80 ≤ lead.toNat ∧ 0x80 ≤ c.toNat) := by
  have scalar := scalar_value c
  have value : c.val.toNat = c.toNat := rfl
  simp only [String.utf8EncodeChar, value] at encoded
  split_ifs at encoded with one two three <;>
    simp only [List.cons.injEq, ← UInt8.toNat_inj, UInt8.toNat_ofNat'] at encoded
  · obtain ⟨first, rfl⟩ := encoded
    refine Or.inl ⟨?_, ?_, rfl⟩ <;> omega
  all_goals
    refine Or.inr ⟨?_, ?_⟩ <;> omega

/-- The bytes of other characters are no ASCII bytes. -/
theorem le_of_mem_encodeChar {c : Char} (beyond : 0x80 ≤ c.toNat) :
    ∀ b ∈ String.utf8EncodeChar c, 0x80 ≤ b.toNat := by
  have table := wellFormed_encodeChar c
  generalize encoded : String.utf8EncodeChar c = bytes at table
  cases table with
  | one ascii =>
    rcases head_encodeChar encoded with ⟨low, same, -⟩ | ⟨high, -⟩ <;> omega
  | two low high second =>
    simp only [List.forall_mem_cons, List.not_mem_nil, false_implies, implies_true, and_true]
    exact ⟨by omega, second.1⟩
  | three low high second third =>
    simp only [List.forall_mem_cons, List.not_mem_nil, false_implies, implies_true, and_true]
    exact ⟨by omega, second.1, third.1⟩
  | four low high second third fourth =>
    simp only [List.forall_mem_cons, List.not_mem_nil, false_implies, implies_true, and_true]
    exact ⟨by omega, second.1, third.1, fourth.1⟩

/-- Only the NUL character is encoded with a NUL byte. -/
theorem toNat_eq_zero_of_mem {c : Char} (member : (0 : UInt8) ∈ String.utf8EncodeChar c) :
    c.toNat = 0 := by
  have table := wellFormed_encodeChar c
  generalize encoded : String.utf8EncodeChar c = bytes at member table
  cases table with
  | one ascii =>
    obtain rfl := List.mem_singleton.mp member
    rcases head_encodeChar encoded with ⟨-, same, -⟩ | ⟨high, -⟩
    · exact same.symm
    · exact absurd high (by decide)
  | two low high second =>
    simp only [List.mem_cons, List.not_mem_nil, or_false, second.ne_zero.symm] at member
    subst member
    exact absurd low (by decide)
  | three low high second third =>
    simp only [List.mem_cons, List.not_mem_nil, or_false, second.ne_zero.symm,
      third.ne_zero.symm] at member
    subst member
    exact absurd low (by decide)
  | four low high second third fourth =>
    simp only [List.mem_cons, List.not_mem_nil, or_false, second.ne_zero.symm,
      third.ne_zero.symm, fourth.ne_zero.symm] at member
    subst member
    exact absurd low (by decide)

section Encodes

variable {P : Char → Prop}

@[simp] theorem encodes_nil : Encodes P [] := ⟨[], rfl, by simp⟩

/-- One more character in front. -/
theorem Encodes.cons {bytes rest : List UInt8} {c : Char}
    (encoded : String.utf8EncodeChar c = bytes) (property : P c) (tail : Encodes P rest) :
    Encodes P (bytes ++ rest) := by
  obtain ⟨cs, rfl, all⟩ := tail
  exact ⟨c :: cs, by simp [encoded], List.forall_mem_cons.mpr ⟨property, all⟩⟩

end Encodes

end Utf8
