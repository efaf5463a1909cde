/-
# Escaping into a buffer

`json_escape_string` copies a string into a buffer of a given size, escaped, and stops where
the next character may not fit. By offsets into the buffer: every store lies in it, what is
left there is terminated, and it is the escaping of a beginning of the source, which a JSON
parser reads back but for the control characters that were skipped.
-/

import EspNmeaBridge.Lib.ByteMemory
import EspNmeaBridge.Lib.Json
import EspNmeaBridge.WebApp.ConfigJson

namespace EspNmeaBridge

open CString ByteMemory

/-! ## What is escaped -/

/-- What one byte becomes if there is room. -/
def escapedByte (ch : UInt8) : List UInt8 :=
  (jsonEscape ch).getD (if 0x20 ≤ ch then [ch] else [])

section Escaping

variable {ch : UInt8}

theorem length_of_jsonEscape {escape : List UInt8} (escaped : jsonEscape ch = some escape) :
    escape.length = 2 := by
  unfold jsonEscape at escaped
  split_ifs at escaped
  all_goals
    cases escaped
    decide

theorem length_escapedByte_le (ch : UInt8) : (escapedByte ch).length ≤ 2 := by
  unfold escapedByte
  cases escaped : jsonEscape ch with
  | some escape => exact (length_of_jsonEscape escaped).le
  | none =>
    rw [Option.getD_none]
    split_ifs <;> simp

theorem length_escaped_le (src : List UInt8) :
    (src.flatMap escapedByte).length ≤ 2 * src.length := by
  induction src with
  | nil => exact le_rfl
  | cons ch src ih =>
    have first := length_escapedByte_le ch
    rw [List.flatMap_cons, List.length_append, List.length_cons]
    omega

/-- The loop takes the bytes one after the other, and stops at one only where fewer than
three bytes of the buffer are left. -/
theorem exists_covered (dstLen : ℕ) (out src : List UInt8) :
    ∃ covered, covered <+: src ∧
      jsonEscapeLoop dstLen out src = out ++ covered.flatMap escapedByte ∧
      (covered = src ∨ dstLen ≤ (jsonEscapeLoop dstLen out src).length + 2) := by
  induction src generalizing out with
  | nil => exact ⟨[], List.prefix_rfl, by simp [jsonEscapeLoop], Or.inl rfl⟩
  | cons ch src ih =>
    have stop (full : dstLen ≤ out.length + 2) : ∃ covered, covered <+: ch :: src ∧
        out = out ++ covered.flatMap escapedByte ∧
        (covered = ch :: src ∨ dstLen ≤ out.length + 2) :=
      ⟨[], List.nil_prefix, by simp, Or.inr full⟩
    have goOn : ∃ covered, covered <+: ch :: src ∧
        jsonEscapeLoop dstLen (out ++ escapedByte ch) src =
          out ++ covered.flatMap escapedByte ∧
        (covered = ch :: src ∨
          dstLen ≤ (jsonEscapeLoop dstLen (out ++ escapedByte ch) src).length + 2) := by
      obtain ⟨covered, front, result, whole⟩ := ih (out ++ escapedByte ch)
      refine ⟨ch :: covered, List.cons_prefix_cons.mpr ⟨rfl, front⟩, ?_, whole.imp_left ?_⟩
      · rw [result, List.flatMap_cons, List.append_assoc]
      · rintro rfl
        rfl
    rw [jsonEscapeLoop]
    by_cases full : dstLen ≤ out.length + 1
    · rw [if_pos full]
      exact stop (by omega)
    rw [if_neg full]
    cases escaped : jsonEscape ch with
    | some escape =>
      have two := length_of_jsonEscape escaped
      rw [escapedByte, escaped, Option.getD_some] at goOn
      dsimp only
      by_cases cut : dstLen ≤ out.length + escape.length
      · rw [if_pos cut]
        exact stop (by omega)
      · rw [if_neg cut]
        exact goOn
    | none =>
      rw [escapedByte, escaped, Option.getD_none] at goOn
      dsimp only
      by_cases printable : 0x20 ≤ ch
      · rw [if_pos printable] at goOn ⊢
        exact goOn
      · -- A skipped byte belongs to what is covered, and leaves nothing behind.
        rw [if_neg printable, List.append_nil] at goOn
        rw [if_neg printable]
        exact goOn

/-- Of the whole source if there is room for two bytes each. -/
theorem jsonEscapeString_covers (src : List UInt8) (dstLen : ℕ) :
    ∃ covered, covered <+: src ∧ jsonEscapeString src dstLen = covered.flatMap escapedByte ∧
      (covered = src ∨ dstLen ≤ (jsonEscapeString src dstLen).length + 2) ∧
      (2 * src.length + 1 ≤ dstLen → covered = src) := by
  obtain ⟨covered, front, result, whole⟩ := exists_covered dstLen [] src
  rw [List.nil_append] at result
  refine ⟨covered, front, result, whole, fun room => ?_⟩
  rcases whole with all | full
  · exact all
  · -- What was covered fills all but two bytes of the buffer, so it is all there is.
    have twice := length_escaped_le covered
    rw [result] at full
    exact front.eq_of_length_le (by omega)

theorem jsonEscapeString_eq {src : List UInt8} {dstLen : ℕ} (room : 2 * src.length < dstLen) :
    jsonEscapeString src dstLen = src.flatMap escapedByte := by
  obtain ⟨covered, -, result, -, all⟩ := jsonEscapeString_covers src dstLen
  rw [result, all room]

end Escaping

/-! ## The stores into the buffer -/

/-- The loop of `json_escape_string`, which leaves `dst`, `out` and the stores made: each an
offset with the bytes put there. The loop ends at the NUL of the source. -/
def jsonEscapeLoopAt (dstLen : ℕ) (dst : Memory) (out : ℕ) :
    List UInt8 → Memory × ℕ × List (ℕ × List UInt8)
  | [] => (dst, out, [])
  | ch :: src =>
    if ch = 0 ∨ dstLen ≤ out + 1 then (dst, out, [])
    else
      match jsonEscape ch with
      | some escape =>
        if dstLen ≤ out + escape.length then (dst, out, [])
        else
          let (dst', out', stores) :=
            jsonEscapeLoopAt dstLen (store dst out escape) (out + escape.length) src
          (dst', out', (out, escape) :: stores)
      | none =>
        if 0x20 ≤ ch then
          let (dst', out', stores) := jsonEscapeLoopAt dstLen (store dst out [ch]) (out + 1) src
          (dst', out', (out, [ch]) :: stores)
        else jsonEscapeLoopAt dstLen dst out src

/-- `json_escape_string(src, dst, dstLen)`: `dst` and the stores made into it. -/
def jsonEscapeStringAt (src : List UInt8) (dst : Memory) (dstLen : ℕ) :
    Memory × List (ℕ × List UInt8) :=
  if dstLen = 0 then (dst, [])
  else
    let (dst, out, stores) := jsonEscapeLoopAt dstLen dst 0 src
    (store dst out [0], stores ++ [(out, [0])])

/-- The loop has left the result in front of `out`, and has stored nothing from the last byte
of the buffer on. -/
structure LeavesEscaped (dstLen : ℕ) (dst : Memory) (out : ℕ) (result : List UInt8)
    (run : Memory × ℕ × List (ℕ × List UInt8)) : Prop where
  taken : run.1.take run.2.1 = result
  room : run.2.1 < dstLen
  length : run.1.length = dst.length
  behind : run.1.drop dstLen = dst.drop dstLen
  inside : ∀ stored ∈ run.2.2, stored.1 + stored.2.length < dstLen
  stored : dst.take out ++ run.2.2.flatMap Prod.snd = result

section LeavesEscaped

variable {dstLen out : ℕ} {dst : Memory} {result bytes : List UInt8}
  {run : Memory × ℕ × List (ℕ × List UInt8)}

theorem LeavesEscaped.stop (room : out < dstLen) :
    LeavesEscaped dstLen dst out (dst.take out) (dst, out, []) :=
  ⟨rfl, room, rfl, rfl, by simp, by simp⟩

/-- One store, and the loop behind it. -/
theorem LeavesEscaped.after (fits : out + bytes.length < dstLen) (large : dstLen ≤ dst.length)
    (leaves : LeavesEscaped dstLen (store dst out bytes) (out + bytes.length) result run) :
    LeavesEscaped dstLen dst out result (run.1, run.2.1, (out, bytes) :: run.2.2) where
  taken := leaves.taken
  room := leaves.room
  length := by rw [leaves.length, length_store (by omega)]
  behind := by rw [leaves.behind, drop_store (by omega) (by omega)]
  inside := List.forall_mem_cons.mpr ⟨fits, leaves.inside⟩
  stored := by
    rw [List.flatMap_cons, ← List.append_assoc, ← take_store_append (by omega)]
    exact leaves.stored

/-- What the loop leaves behind a store continues the list with the stored bytes. -/
theorem LeavesEscaped.loop_after (bytes : List UInt8) {src : List UInt8}
    (ih : ∀ {dst : Memory} {out : ℕ}, out < dstLen → dstLen ≤ dst.length →
      LeavesEscaped dstLen dst out (jsonEscapeLoop dstLen (dst.take out) (content src))
        (jsonEscapeLoopAt dstLen dst out src))
    (fits : out + bytes.length < dstLen) (large : dstLen ≤ dst.length) :
    let run := jsonEscapeLoopAt dstLen (store dst out bytes) (out + bytes.length) src
    LeavesEscaped dstLen dst out (jsonEscapeLoop dstLen (dst.take out ++ bytes) (content src))
      (run.1, run.2.1, (out, bytes) :: run.2.2) := by
  have inDst : out + bytes.length ≤ dst.length := by omega
  have large' : dstLen ≤ (store dst out bytes).length := by rwa [length_store inDst]
  have front : (store dst out bytes).take (out + bytes.length) = dst.take out ++ bytes :=
    take_store_append (by omega)
  have leaves := ih fits large'
  rw [front] at leaves
  exact leaves.after fits large

/-- On offsets the loop does what it does on lists. -/
theorem jsonEscapeLoopAt_leaves (src : List UInt8) (room : out < dstLen)
    (large : dstLen ≤ dst.length) :
    LeavesEscaped dstLen dst out (jsonEscapeLoop dstLen (dst.take out) (content src))
      (jsonEscapeLoopAt dstLen dst out src) := by
  induction src generalizing dst out with
  | nil => exact .stop room
  | cons ch src ih =>
    have front : (dst.take out).length = out := List.length_take_of_le (by omega)
    rw [jsonEscapeLoopAt]
    by_cases nul : ch = 0
    · rw [if_pos (Or.inl nul), nul]
      exact .stop room
    rw [content_cons nul, jsonEscapeLoop, front]
    by_cases full : dstLen ≤ out + 1
    · rw [if_pos (Or.inr full), if_pos full]
      exact .stop room
    rw [if_neg (not_or.mpr ⟨nul, full⟩), if_neg full]
    cases escaped : jsonEscape ch with
    | some escape =>
      dsimp only
      -- Half an escape is never stored.
      by_cases cut : dstLen ≤ out + escape.length
      · rw [if_pos cut, if_pos cut]
        exact .stop room
      · rw [if_neg cut, if_neg cut]
        exact .loop_after escape ih (not_le.mp cut) large
    | none =>
      dsimp only
      by_cases printable : 0x20 ≤ ch
      · rw [if_pos printable, if_pos printable]
        exact .loop_after [ch] ih (not_le.mp full) large
      · rw [if_neg printable, if_neg printable]
        exact ih room large

end LeavesEscaped

/-! ## What is left in the buffer -/

/-- A control character without a short escape. -/
def skippedByte (ch : UInt8) : Bool := ch < 0x20 && !([0x08, 0x09, 0x0A, 0x0C, 0x0D].contains ch)

section Bytes

/-- The bytes one by one: what each is escaped to, and which are skipped. -/
theorem escapedByte_toChar (ch : UInt8) :
    (escapedByte ch).map UInt8.toChar = (if skippedByte ch then [] else Json.shortForm ch.toChar) ∧
      (skippedByte ch = false → Json.HasShortForm ch.toChar) ∧ 0 ∉ escapedByte ch := by
  have all : ∀ n < 256, (escapedByte (.ofNat n)).map UInt8.toChar =
        (if skippedByte (.ofNat n) then [] else Json.shortForm (UInt8.ofNat n).toChar) ∧
      (skippedByte (.ofNat n) = false → Json.HasShortForm (UInt8.ofNat n).toChar) ∧
      0 ∉ escapedByte (.ofNat n) := by
    decide +kernel
  simpa using all ch.toNat ch.toNat_lt

/-- The characters that are kept of the bytes. -/
def keptChars (bytes : List UInt8) : List Char :=
  (bytes.filter fun ch => !skippedByte ch).map UInt8.toChar

theorem escaped_toChar (bytes : List UInt8) :
    (bytes.flatMap escapedByte).map UInt8.toChar = (keptChars bytes).flatMap Json.shortForm := by
  induction bytes with
  | nil => rfl
  | cons ch bytes ih =>
    have first := (escapedByte_toChar ch).1
    rw [List.flatMap_cons, List.map_append, ih, first, keptChars]
    cases skips : skippedByte ch <;> simp [keptChars, skips]

theorem hasShortForm_keptChars {bytes : List UInt8} :
    ∀ c ∈ keptChars bytes, Json.HasShortForm c := by
  intro c kept
  obtain ⟨ch, member, rfl⟩ := List.mem_map.mp kept
  exact (escapedByte_toChar ch).2.1 (by simpa using (List.mem_filter.mp member).2)

end Bytes

/-- The escaped string has no NUL of its own. -/
theorem zero_notMem_jsonEscapeString (src : List UInt8) (dstLen : ℕ) :
    0 ∉ jsonEscapeString src dstLen := by
  obtain ⟨covered, -, result, -⟩ := jsonEscapeString_covers src dstLen
  rw [result, List.mem_flatMap]
  rintro ⟨ch, -, nul⟩
  exact (escapedByte_toChar ch).2.2 nul

/-- On offsets `json_escape_string` leaves the string of the list model, terminated. -/
theorem jsonEscapeStringAt_leaves (src : List UInt8) {dst : Memory} {dstLen : ℕ}
    (positive : 0 < dstLen) (large : dstLen ≤ dst.length) :
    let run := jsonEscapeStringAt src dst dstLen
    let output := jsonEscapeString (content src) dstLen
    cString run.1 0 = output ∧ (∀ stored ∈ run.2, stored.1 + stored.2.length ≤ dstLen) ∧
      run.2.flatMap Prod.snd = output ++ [0] ∧ output.length + 1 ≤ dstLen ∧
      run.1.length = dst.length ∧ run.1.drop dstLen = dst.drop dstLen := by
  have leaves := jsonEscapeLoopAt_leaves src positive large
  have noNul := zero_notMem_jsonEscapeString (content src) dstLen
  rw [List.take_zero] at leaves
  rw [jsonEscapeString] at noNul ⊢
  rw [jsonEscapeStringAt, if_neg positive.ne']
  obtain ⟨taken, room, length, behind, inside, stored⟩ := leaves
  generalize jsonEscapeLoopAt dstLen dst 0 src = run at taken room length behind inside stored
  obtain ⟨dst', out, stores⟩ := run
  dsimp only at taken room length behind inside stored ⊢
  have inDst : out + [(0 : UInt8)].length ≤ dst'.length := by
    rw [length, List.length_singleton]
    omega
  refine ⟨?_, ?_, ?_, ?_, ?_, ?_⟩
  · have ended := @cString_store_nul dst' 0 out (by omega)
    rw [Nat.zero_add] at ended
    rw [ended, load, List.drop_zero, taken, content_eq_self noNul]
  · intro access member
    rcases List.mem_append.mp member with earlier | last
    · exact (inside access earlier).le
    · rw [List.mem_singleton.mp last]
      exact room
  · rw [List.flatMap_append, ← stored, List.take_zero, List.nil_append]
    rfl
  · rw [← taken, List.length_take_of_le (by omega)]
    exact room
  · rw [length_store inDst, length]
  · rw [drop_store room (by omega), behind]

/-- Whatever the source and the size of the buffer, no store leaves the buffer, and what they
put there ends with the terminator. The text in front of it is the escaping of a beginning of
the source without its skipped bytes, which a parser reads back from between quotes; with
room for two bytes each, of the whole source. -/
theorem json_escape_exact (src : List UInt8) (dst : Memory) (dstLen : ℕ) (positive : 0 < dstLen)
    (large : dstLen ≤ dst.length) :
    let run := jsonEscapeStringAt src dst dstLen
    let output := cString run.1 0
    ((∀ stored ∈ run.2, stored.1 + stored.2.length ≤ dstLen) ∧
      run.2.flatMap Prod.snd = output ++ [0] ∧ output.length + 1 ≤ dstLen ∧
      run.1.length = dst.length ∧ run.1.drop dstLen = dst.drop dstLen) ∧
    (∃ covered, covered <+: content src ∧
      output.map UInt8.toChar = (keptChars covered).flatMap Json.shortForm ∧
      Json.string (output.map UInt8.toChar ++ ['"']) = some (keptChars covered, []) ∧
      (covered = content src ∨ dstLen ≤ output.length + 2) ∧
      (2 * (content src).length + 1 ≤ dstLen → covered = content src)) ∧
    (2 * (content src).length + 1 ≤ dstLen →
      (∀ ch ∈ content src, skippedByte ch = false) →
      Json.string (output.map UInt8.toChar ++ ['"']) =
        some ((content src).map UInt8.toChar, [])) := by
  obtain ⟨string, inside, stores, fits, length, behind⟩ :=
    jsonEscapeStringAt_leaves src positive large
  obtain ⟨covered, front, result, whole, all⟩ := jsonEscapeString_covers (content src) dstLen
  have written : (jsonEscapeString (content src) dstLen).map UInt8.toChar =
      (keptChars covered).flatMap Json.shortForm := by
    rw [result, escaped_toChar]
  have quotes : ∀ c ∈ keptChars covered, Json.Quotes (Json.shortForm c) c :=
    fun c kept => Json.quotes_shortForm (hasShortForm_keptChars c kept)
  have read : Json.string ((jsonEscapeString (content src) dstLen).map UInt8.toChar ++ ['"']) =
      some (keptChars covered, []) := by
    rw [written]
    exact Json.string_quotes quotes []
  simp only [string]
  refine ⟨⟨inside, stores, fits, length, behind⟩, ⟨covered, front, written, read, whole, all⟩, ?_⟩
  intro room short
  rw [read, all room, keptChars, List.filter_eq_self.mpr]
  intro ch member
  rw [short ch member]
  rfl

/-- The escape of the newline would be cut off, so it is left out. -/
theorem json_escape_exact_cut :
    let run := jsonEscapeStringAt [0x41, 0x22, 0x01, 0x0A, 0x42, 0] (.replicate 6 0xFF) 5
    cString run.1 0 = [0x41, 0x5C, 0x22] ∧ run.1.drop 5 = [0xFF] :=
  ⟨by decide, (json_escape_exact [0x41, 0x22, 0x01, 0x0A, 0x42, 0] (.replicate 6 0xFF) 5
    (by decide) (by decide)).1.2.2.2.2⟩

end EspNmeaBridge
