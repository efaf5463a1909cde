/-
# Bytes at offsets

A parser in C keeps offsets into one array, reads strings up to their NUL from any of
them, and writes NULs of its own. A write at an offset leaves what stands before it and
behind it alone; a NUL written into a string ends it there. The searches of the C library
are first occurrences in what they may look at.
-/

import EspNmeaBridge.Lib.CString
import EspNmeaBridge.Lib.Pattern

namespace ByteMemory

open CString Pattern

abbrev Memory := List UInt8

/-- The bytes are written from the offset on. -/
def store (memory : Memory) (offset : ℕ) (bytes : List UInt8) : Memory :=
  memory.take offset ++ (bytes ++ memory.drop (offset + bytes.length))

/-- A range of bytes. -/
def load (memory : Memory) (offset length : ℕ) : List UInt8 := (memory.drop offset).take length

/-- The string at the offset. -/
def cString (memory : Memory) (offset : ℕ) : List UInt8 := content (memory.drop offset)

/-- `strstr(&memory[offset], pattern)`. -/
def strstr (memory : Memory) (offset : ℕ) (pattern : List UInt8) : Option ℕ :=
  (find pattern (cString memory offset)).map (offset + ·)

/-- `strchr(&memory[offset], ch)`, for a character that is no NUL. -/
def strchr (memory : Memory) (offset : ℕ) (ch : UInt8) : Option ℕ := strstr memory offset [ch]

/-- `memchr(&memory[offset], ch, length)`. -/
def memchr (memory : Memory) (offset : ℕ) (ch : UInt8) (length : ℕ) : Option ℕ :=
  (find [ch] (load memory offset length)).map (offset + ·)

section Content

theorem content_drop {bytes : List UInt8} {k : ℕ} (inside : k ≤ (content bytes).length) :
    content (bytes.drop k) = (content bytes).drop k := by
  induction bytes generalizing k with
  | nil => simp
  | cons b bytes ih =>
    cases k with
    | zero => rfl
    | succ k =>
      have nonzero : b ≠ 0 := by
        rintro rfl
        simp [content] at inside
      rw [content_cons nonzero] at inside ⊢
      exact ih (Nat.le_of_succ_le_succ inside)

theorem take_content {bytes : List UInt8} {k : ℕ} (inside : k ≤ (content bytes).length) :
    bytes.take k = (content bytes).take k := by
  obtain ⟨rest, split⟩ := List.takeWhile_prefix (l := bytes) (· ≠ (0 : UInt8))
  conv_lhs => rw [← split]
  exact List.take_append_of_le_length inside

end Content

section Store

variable {memory : Memory} {offset k length : ℕ} {bytes : List UInt8}

@[simp] theorem length_store (inside : offset + bytes.length ≤ memory.length) :
    (store memory offset bytes).length = memory.length := by
  simp only [store, List.length_append, List.length_take, List.length_drop]
  omega

theorem take_store (before : k ≤ offset) (inside : offset ≤ memory.length) :
    (store memory offset bytes).take k = memory.take k := by
  rw [store, List.take_append_of_le_length (by rw [List.length_take]; omega), List.take_take,
    Nat.min_eq_left before]

theorem drop_store (behind : offset + bytes.length ≤ k) (inside : offset ≤ memory.length) :
    (store memory offset bytes).drop k = memory.drop k := by
  have front : (memory.take offset).length = offset := by
    rw [List.length_take, Nat.min_eq_left inside]
  obtain ⟨j, rfl⟩ := Nat.exists_eq_add_of_le behind
  rw [store, ← List.append_assoc, List.drop_append, List.drop_eq_nil_of_le, List.nil_append,
    List.drop_drop, List.length_append, front]
  · congr 1
    omega
  · rw [List.length_append, front]
    omega

/-- A range of the part in which two memories agree. -/
theorem load_congr {other : Memory} {n : ℕ} (same : other.take n = memory.take n)
    (inside : k + length ≤ n) : load other k length = load memory k length := by
  have front := congrArg (List.take (k + length)) same
  rw [List.take_take, List.take_take, Nat.min_eq_left inside] at front
  rw [load, load, List.take_drop, List.take_drop, front]

theorem drop_congr {other : Memory} {n : ℕ} (same : other.drop n = memory.drop n)
    (behind : n ≤ k) : other.drop k = memory.drop k := by
  obtain ⟨j, rfl⟩ := Nat.exists_eq_add_of_le behind
  rw [← List.drop_drop, same, List.drop_drop]

/-- What was written last can be read. -/
theorem take_store_append (inside : offset ≤ memory.length) :
    (store memory offset bytes).take (offset + bytes.length) = memory.take offset ++ bytes := by
  have front : (memory.take offset).length = offset := by
    rw [List.length_take, Nat.min_eq_left inside]
  rw [store, ← List.append_assoc, List.take_left']
  rw [List.length_append, front]

/-- What is written behind a range continues it. -/
theorem load_store_append (inside : k + length ≤ memory.length) :
    load (store memory (k + length) bytes) k (length + bytes.length) =
      load memory k length ++ bytes := by
  have front : k ≤ (memory.take (k + length)).length := by
    rw [List.length_take]
    omega
  rw [load, List.take_drop, ← add_assoc, take_store_append inside,
    List.drop_append_of_le_length front, load, List.take_drop]

end Store

section Strings

variable {memory : Memory} {offset k : ℕ}

theorem cString_length_le (memory : Memory) (offset : ℕ) :
    offset + (cString memory offset).length ≤ max offset memory.length := by
  have bound := content_length_le (memory.drop offset)
  rw [List.length_drop] at bound
  rw [cString]
  omega

/-- The rest of a string. -/
theorem cString_add (inside : k ≤ (cString memory offset).length) :
    cString memory (offset + k) = (cString memory offset).drop k := by
  rw [cString, ← List.drop_drop, content_drop inside, ← cString]

/-- The beginning of a string. -/
theorem load_eq_take (inside : k ≤ (cString memory offset).length) :
    load memory offset k = (cString memory offset).take k :=
  take_content inside

/-- A NUL ends what stands before it. -/
theorem cString_store_nul (room : offset + k ≤ memory.length) :
    cString (store memory (offset + k) [0]) offset = content (load memory offset k) := by
  have split : (store memory (offset + k) [0]).drop offset =
      load memory offset k ++ 0 :: memory.drop (offset + k + 1) := by
    rw [store, List.drop_append_of_le_length (by rw [List.length_take]; omega), List.drop_take,
      Nat.add_sub_cancel_left]
    rfl
  rw [cString, split, content_append_zero]

/-- A NUL written into a string cuts it off. -/
theorem cString_store_zero (inside : k ≤ (cString memory offset).length)
    (room : offset + k ≤ memory.length) :
    cString (store memory (offset + k) [0]) offset = (cString memory offset).take k := by
  rw [cString_store_nul room, load_eq_take inside]
  apply content_eq_self
  intro member
  exact zero_notMem_content _ (List.mem_of_mem_take member)

/-- Behind a write a string is as before. -/
theorem cString_store_of_le {bytes : List UInt8} {k : ℕ} (behind : offset + bytes.length ≤ k)
    (inside : offset ≤ memory.length) :
    cString (store memory offset bytes) k = cString memory k := by
  rw [cString, drop_store behind inside, cString]

end Strings

section Searches

variable {memory : Memory} {offset found length : ℕ} {pattern : List UInt8} {ch : UInt8}

/-- What a search in a string found, told of the string. -/
theorem strstr_eq_some (searched : strstr memory offset pattern = some found) :
    ∃ i, found = offset + i ∧ find pattern (cString memory offset) = some i ∧
      i + pattern.length ≤ (cString memory offset).length := by
  obtain ⟨i, here, rfl⟩ := Option.map_eq_some_iff.mp searched
  exact ⟨i, rfl, here, find_add_length_le here⟩

theorem strstr_eq_none :
    strstr memory offset pattern = none ↔ find pattern (cString memory offset) = none :=
  Option.map_eq_none_iff

/-- What a search in a range found cuts the range in two. -/
theorem memchr_eq_some (searched : memchr memory offset ch length = some found) :
    ∃ j, found = offset + j ∧ j + 1 ≤ length ∧
      cut [ch] (load memory offset length) =
        some (load memory offset j, load memory (offset + j + 1) (length - (j + 1))) := by
  obtain ⟨j, here, rfl⟩ := Option.map_eq_some_iff.mp searched
  have inside := find_add_length_le here
  have short : (load memory offset length).length ≤ length := List.length_take_le _ _
  have within : j + 1 ≤ length := inside.trans short
  refine ⟨j, rfl, within, ?_⟩
  rw [cut, here, Option.map_some, load, List.take_take, Nat.min_eq_left (Nat.le_of_succ_le within),
    List.length_singleton, List.drop_take, List.drop_drop, load, load, add_assoc]

theorem memchr_eq_none :
    memchr memory offset ch length = none ↔ cut [ch] (load memory offset length) = none := by
  rw [memchr, cut, Option.map_eq_none_iff, Option.map_eq_none_iff]

end Searches

end ByteMemory
