/-
# Messages with a head

A message is a first line, fields and a body. Each line ends with the same mark, an empty one
ends the head, and the fields say how long the body is. Such messages are prefix-free: a
message that is cut anywhere is not read as another one.
-/

import EspNmeaBridge.Lib.Pattern

namespace HeadedMessage

open Pattern

variable {α : Type*}

structure Field (α : Type*) where
  name : List α
  value : List α

structure Message (α : Type*) where
  start : List α
  fields : List (Field α)
  body : List α

/-! ## Writing -/

section Write

variable (lineEnd separator : List α)

def Field.line (field : Field α) : List α := field.name ++ separator ++ field.value

/-- Lines, each with its mark, and an empty one. -/
def writeLines (lines : List (List α)) : List α := lines.flatMap (· ++ lineEnd) ++ lineEnd

def Message.lines (message : Message α) : List (List α) :=
  message.start :: message.fields.map (Field.line separator)

def write (message : Message α) : List α :=
  writeLines lineEnd (message.lines separator) ++ message.body

end Write

/-! ## Reading -/

variable [DecidableEq α]

section Read

variable (lineEnd separator : List α) (announced : List (Field α) → Option ℕ)

/-- The lines in front of the first empty one, and what stands behind it. -/
def readLines : (fuel : ℕ) → List α → Option (List (List α) × List α)
  | 0, _ => none
  | fuel + 1, text => do
    let (line, rest) ← cut lineEnd text
    if line = [] then some ([], rest)
    else do
      let (lines, rest) ← readLines fuel rest
      some (line :: lines, rest)

def readField (line : List α) : Option (Field α) :=
  (cut separator line).map fun (name, value) => ⟨name, value⟩

/-- The message, if its body is as long as its fields say. -/
def read (text : List α) : Option (Message α) := do
  let (lines, body) ← readLines lineEnd (text.length + 1) text
  let start ← lines.head?
  let fields ← lines.tail.mapM (readField separator)
  if announced fields = some body.length then some ⟨start, fields, body⟩ else none

end Read

variable {lineEnd separator : List α} {announced : List (Field α) → Option ℕ}

/-! ## Lines -/

section Lines

variable {fuel more : ℕ} {text rest : List α} {lines : List (List α)}

theorem cut_append_right (rest : List α) {text before behind : List α}
    (found : cut lineEnd text = some (before, behind)) :
    cut lineEnd (text ++ rest) = some (before, behind ++ rest) := by
  obtain ⟨i, here, same⟩ := Option.map_eq_some_iff.mp found
  obtain ⟨rfl, rfl⟩ := Prod.mk.inj same
  have inside := find_add_length_le here
  rw [cut, find_append here, Option.map_some, List.take_append_of_le_length (by omega),
    List.drop_append_of_le_length inside]

/-- What is read of a beginning is read of the whole. -/
theorem readLines_append (read : readLines lineEnd fuel text = some (lines, rest))
    (behind : List α) (le : fuel ≤ more) :
    readLines lineEnd more (text ++ behind) = some (lines, rest ++ behind) := by
  induction fuel generalizing text lines more with
  | zero => cases read
  | succ fuel ih =>
    obtain ⟨more, rfl⟩ : ∃ k, more = k + 1 := ⟨more - 1, by omega⟩
    simp only [readLines, Option.bind_eq_bind, Option.bind_eq_some_iff, Prod.exists] at read ⊢
    obtain ⟨line, left, found, read⟩ := read
    refine ⟨line, left ++ behind, cut_append_right behind found, ?_⟩
    split_ifs at read ⊢ with blank
    · obtain ⟨rfl, rfl⟩ := Prod.mk.inj (Option.some.inj read)
      rfl
    · simp only [Option.bind_eq_some_iff, Prod.exists] at read
      obtain ⟨lines, rest', read, same⟩ := read
      obtain ⟨rfl, rfl⟩ := Prod.mk.inj (Option.some.inj same)
      rw [ih read (by omega)]
      rfl

/-- The mark stands at the end of the line and nowhere before. -/
def Ended (mark line : List α) : Prop := find mark (line ++ mark) = some line.length

theorem ended_nil (nonempty : lineEnd ≠ []) : Ended lineEnd [] := by
  obtain ⟨a, tail, rfl⟩ := List.exists_cons_of_ne_nil nonempty
  simp [Ended, find]

/-- It is enough that the line is free of the first character of the mark. -/
theorem ended_of_notMem {a : α} {mark line : List α} (free : a ∉ line) :
    Ended (a :: mark) line := by
  induction line with
  | nil => exact ended_nil (List.cons_ne_nil _ _)
  | cons b line ih =>
    obtain ⟨other, free⟩ := not_or.mp (mt List.mem_cons.mpr free)
    have notHere : ¬ a :: mark <+: b :: (line ++ a :: mark) := fun starts =>
      other (List.cons_prefix_cons.mp starts).1
    rw [Ended, List.cons_append, find, if_neg notHere, ih free]
    rfl

theorem readLines_writeLines (nonempty : lineEnd ≠ [])
    (ended : ∀ line ∈ lines, line ≠ [] ∧ Ended lineEnd line) (enough : lines.length < fuel)
    (rest : List α) :
    readLines lineEnd fuel (writeLines lineEnd lines ++ rest) = some (lines, rest) := by
  induction lines generalizing fuel with
  | nil =>
    obtain ⟨fuel, rfl⟩ : ∃ k, fuel = k + 1 := ⟨fuel - 1, by omega⟩
    have blank := cut_append (ended_nil nonempty) rest
    rw [List.nil_append] at blank
    simp [readLines, writeLines, blank]
  | cons line lines ih =>
    obtain ⟨⟨content, marked⟩, others⟩ := List.forall_mem_cons.mp ended
    rw [List.length_cons] at enough
    obtain ⟨fuel, rfl⟩ : ∃ k, fuel = k + 1 := ⟨fuel - 1, by omega⟩
    have first := cut_append marked (writeLines lineEnd lines ++ rest)
    have split : writeLines lineEnd (line :: lines) ++ rest =
        line ++ lineEnd ++ (writeLines lineEnd lines ++ rest) := by
      simp [writeLines]
    have later := ih others (Nat.lt_of_succ_lt_succ enough)
    rw [split, readLines, first]
    simp [content, later]

end Lines

/-! ## Messages -/

section Messages

variable {message : Message α} {text rest : List α}

/-- No line of the message is taken for the end of the head, or for two lines. -/
structure Message.Clean (lineEnd separator : List α) (message : Message α) : Prop where
  startNonempty : message.start ≠ []
  start : Ended lineEnd message.start
  lines : ∀ field ∈ message.fields, Ended lineEnd (field.line separator)
  names : ∀ field ∈ message.fields, Ended separator field.name

omit [DecidableEq α] in
theorem length_le_writeLines (nonempty : lineEnd ≠ []) (lines : List (List α)) :
    lines.length ≤ (writeLines lineEnd lines).length := by
  have mark := List.length_pos_iff.mpr nonempty
  induction lines with
  | nil => exact Nat.zero_le _
  | cons line lines ih =>
    simp only [writeLines, List.flatMap_cons, List.length_append, List.length_cons] at ih ⊢
    omega

theorem readField_line {field : Field α} (ended : Ended separator field.name) :
    readField separator (field.line separator) = some field := by
  rw [readField, Field.line, cut_append ended]
  rfl

theorem mapM_readField {fields : List (Field α)}
    (ended : ∀ field ∈ fields, Ended separator field.name) :
    (fields.map (Field.line separator)).mapM (readField separator) = some fields := by
  induction fields with
  | nil => rfl
  | cons field fields ih =>
    obtain ⟨first, others⟩ := List.forall_mem_cons.mp ended
    simp [List.mapM_cons, readField_line first, ih others]

/-- A message whose fields announce its body is read back. -/
theorem read_write (lineMark : lineEnd ≠ []) (fieldMark : separator ≠ [])
    (clean : message.Clean lineEnd separator)
    (truly : announced message.fields = some message.body.length) :
    read lineEnd separator announced (write lineEnd separator message) = some message := by
  have ended : ∀ line ∈ message.lines separator, line ≠ [] ∧ Ended lineEnd line := by
    refine List.forall_mem_cons.mpr ⟨⟨clean.startNonempty, clean.start⟩, ?_⟩
    intro line member
    obtain ⟨field, inside, rfl⟩ := List.mem_map.mp member
    refine ⟨?_, clean.lines field inside⟩
    simp [Field.line, fieldMark]
  have long := length_le_writeLines lineMark (message.lines separator)
  have enough : (message.lines separator).length <
      (write lineEnd separator message).length + 1 := by
    rw [write, List.length_append]
    omega
  have lines := readLines_writeLines lineMark ended enough message.body
  have fields := mapM_readField clean.names
  rw [read]
  simp only [Option.bind_eq_bind]
  rw [show write lineEnd separator message =
    writeLines lineEnd (message.lines separator) ++ message.body from rfl] at lines ⊢
  rw [lines]
  simp [Message.lines, fields, truly]

/-- Nothing is read of a text that a message is a part of in front. -/
theorem read_append (whole : read lineEnd separator announced text = some message)
    (nonempty : rest ≠ []) : read lineEnd separator announced (text ++ rest) = none := by
  simp only [read, Option.bind_eq_bind, Option.bind_eq_some_iff, Prod.exists] at whole
  obtain ⟨lines, body, read', start, first, fields, parsed, whole⟩ := whole
  split_ifs at whole with truly
  have le : text.length + 1 ≤ (text ++ rest).length + 1 := by
    rw [List.length_append]
    omega
  have longer := readLines_append read' rest le
  have more := List.length_pos_iff.mpr nonempty
  have differ : ¬ announced fields = some (body.length + rest.length) := by
    rw [truly, Option.some.injEq]
    omega
  rw [read, longer]
  simp [first, parsed, differ]

/-- A message that is cut is not read. -/
theorem read_eq_none_of_prefix {full : List α} (cutShort : text <+: full) (shorter : text ≠ full)
    (whole : read lineEnd separator announced full = some message) :
    read lineEnd separator announced text = none := by
  obtain ⟨rest, rfl⟩ := cutShort
  have nonempty : rest ≠ [] := by
    rintro rfl
    exact shorter (List.append_nil text).symm
  cases read' : read lineEnd separator announced text with
  | none => rfl
  | some other => simp [read_append read' nonempty] at whole

end Messages

end HeadedMessage
