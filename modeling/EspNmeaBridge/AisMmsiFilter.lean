/-
# The AIS self-MMSI filter

The filter looks at one complete frame at a time and drops it when it carries
the vessel's own MMSI, or when it continues a multipart message whose first
fragment did. Four scanners decide whether a frame is a checksum-valid VDM
sentence; one remembered sequence decides about later fragments.
-/

import EspNmeaBridge.Lib.CString

namespace EspNmeaBridge

open CString

/-- A frame as the UART framing delivers it, line end included. -/
abbrev Frame := List UInt8

/-! ## Scanners -/

/-- The value of a hexadecimal digit; `none` is the source's `-1`. -/
def hexValue (ch : UInt8) : Option UInt8 :=
  if '0'.toUInt8 ≤ ch ∧ ch ≤ '9'.toUInt8 then some (ch - '0'.toUInt8)
  else if 'A'.toUInt8 ≤ ch ∧ ch ≤ 'F'.toUInt8 then some (ch - 'A'.toUInt8 + 10)
  else if 'a'.toUInt8 ≤ ch ∧ ch ≤ 'f'.toUInt8 then some (ch - 'a'.toUInt8 + 10)
  else none

/-- The index of the first `'*'` from index 1 on, or 0 when there is none. -/
def findStar (frame : Frame) : ℕ :=
  -- The scan starts behind the start character.
  match (frame.drop 1).findIdx? (· == '*'.toUInt8) with
  | some i => i + 1
  | none => 0

/-- Where the body of a checksum-valid sentence starts and how long it is. -/
def checksumIsValid (frame : Frame) : Option (ℕ × ℕ) :=
  let len := frame.length
  let start := frame.getD 0 0
  if len < 5 ∨ (start ≠ '!'.toUInt8 ∧ start ≠ '$'.toUInt8) then none
  else
    let star := findStar frame
    if star = 0 ∨ len ≤ star + 2 then none
    else
      match hexValue (frame.getD (star + 1) 0), hexValue (frame.getD (star + 2) 0) with
      | some hi, some lo =>
        -- Everything between the start character and the star is summed.
        let actual := ((frame.drop 1).take (star - 1)).foldl (· ^^^ ·) 0
        if actual ≠ (hi <<< 4 ||| lo) then none else some (1, star - 1)
      | _, _ => none

/-- The scan of `split_fields`: the fields stored so far, the bytes since the
last separator, and the rest of the body. -/
def splitFieldsFrom (fieldCount : ℕ) (fields : List (List UInt8)) (field : List UInt8) :
    List UInt8 → Option (List (List UInt8))
  | [] =>
    -- The body ended: what stands behind the last comma is a field too.
    if fieldCount ≤ fields.length then some fields
    else if fieldCount ≤ (fields ++ [field]).length then some (fields ++ [field])
    else none
  | b :: rest =>
    if b ≠ ','.toUInt8 then splitFieldsFrom fieldCount fields (field ++ [b]) rest
    -- A comma behind the last wanted field ends the scan.
    else if fieldCount ≤ fields.length then some fields
    else splitFieldsFrom fieldCount (fields ++ [field]) [] rest

/-- The first `fieldCount` comma-separated fields, when the body has that many. -/
def splitFields (body : List UInt8) (fieldCount : ℕ) : Option (List (List UInt8)) :=
  splitFieldsFrom fieldCount [] [] body

/-- The digits of a field accumulated onto `parsed`, rejecting anything above 255. -/
def parseUintDigits (parsed : ℕ) : List UInt8 → Option ℕ
  | [] => some parsed
  | b :: rest =>
    if '0'.toUInt8 ≤ b ∧ b ≤ '9'.toUInt8 then
      let parsed := parsed * 10 + (b - '0'.toUInt8).toNat
      if 255 < parsed then none else parseUintDigits parsed rest
    else none

/-- A field of one to three digits with a value that fits eight bits. -/
def parseUintField (field : List UInt8) : Option UInt8 :=
  if field.length = 0 ∨ 3 < field.length then none
  else (parseUintDigits 0 field).map UInt8.ofNat

/-- The six bits an armoured character stands for; `none` is the source's `-1`. -/
def aisSixbitValue (ch : UInt8) : Option ℕ :=
  if ch < 48 ∨ 119 < ch then none
  else
    let value := ch.toNat - 48
    -- Nothing turns 'X' to '_' away: their values are also those of other characters.
    let value := if 40 < value then value - 8 else value
    if 63 < value then none else some value

/-- The six-bit values of a run of armoured characters, most significant first. -/
def sixbitRun (bits : ℕ) : List UInt8 → Option ℕ
  | [] => some bits
  | ch :: rest => do
    let value ← aisSixbitValue ch
    sixbitRun (bits <<< 6 ||| value) rest

/-- Bits 8 to 37 of the armoured payload. -/
def decodeMmsi (payload : List UInt8) : Option UInt32 :=
  if payload.length < 7 then none
  -- Seven characters are 42 bits: type and repeat in front, four bits behind.
  else (sixbitRun 0 (payload.take 7)).map fun bits =>
    UInt32.ofNat ((bits >>> 4) &&& 0x3fffffff)

def formatterIsVdm (formatter : List UInt8) : Bool :=
  formatter.length == 5 && formatter.getD 2 0 == 'V'.toUInt8 &&
    formatter.getD 3 0 == 'D'.toUInt8 && formatter.getD 4 0 == 'M'.toUInt8

/-- The channel as one byte; a field of any other length than one reads as NUL. -/
def channelValue (channel : List UInt8) : UInt8 :=
  if channel.length = 1 then channel.getD 0 0 else 0

/-! ## The fields of a VDM sentence -/

/-- What the filter reads of a VDM sentence: fields 1 to 5, the numbers parsed. -/
structure VdmFields where
  total : UInt8
  fragment : UInt8
  sequenceId : List UInt8
  channel : List UInt8
  payload : List UInt8
  deriving DecidableEq, Repr

/-- The fields of a checksum-valid VDM sentence with a sensible fragment number.
Everything the filter checks before it looks at its own state. -/
def parseVdm (frame : Frame) : Option VdmFields := do
  let (bodyStart, bodyLen) ← checksumIsValid frame
  let fields ← splitFields ((frame.drop bodyStart).take bodyLen) 7
  if !formatterIsVdm (fields.getD 0 []) then none
  let total ← parseUintField (fields.getD 1 [])
  let fragment ← parseUintField (fields.getD 2 [])
  -- Fragments are numbered from 1 to the total.
  if total = 0 ∨ fragment = 0 ∨ total < fragment then none
  return { total, fragment, sequenceId := fields.getD 3 [], channel := fields.getD 4 [],
           payload := fields.getD 5 [] }

/-! ## The remembered sequence -/

def aisMmsiFilterSeqIdMaxLen : ℕ := 8

structure AisMmsiFilterSequence where
  active : Bool
  totalFragments : UInt8
  nextFragment : UInt8
  sequenceId : CharArray (aisMmsiFilterSeqIdMaxLen + 1)
  channel : UInt8
  deriving DecidableEq, Repr

structure AisMmsiFilter where
  ownMmsi : UInt32
  sequence : AisMmsiFilterSequence
  deriving DecidableEq, Repr

def sequenceMatches (sequence : AisMmsiFilterSequence) (seqId : List UInt8) (channel : UInt8)
    (total fragment : UInt8) : Bool :=
  sequence.active && sequence.totalFragments == total && sequence.nextFragment == fragment &&
    -- The stored ID is a C string, the ID of the frame a range of bytes.
    sequence.channel == channel && sequence.sequenceId.strlen == seqId.length &&
    strncmpEq sequence.sequenceId.bytes seqId seqId.length

def rememberSequence (filter : AisMmsiFilter) (seqId : List UInt8) (channel : UInt8)
    (total : UInt8) : AisMmsiFilter :=
  -- Without an ID, or with one that does not fit, no later fragment could be told.
  if seqId.length = 0 ∨ aisMmsiFilterSeqIdMaxLen < seqId.length ∨ total < 2 then
    { filter with sequence := { filter.sequence with active := false } }
  else
    { filter with sequence :=
        { active := true
          totalFragments := total
          nextFragment := 2
          channel := channel
          sequenceId := filter.sequence.sequenceId.memcpy (seqId ++ [0]) } }

/-- A matching fragment was dropped; the last one ends the sequence. The counter
has eight bits, so after fragment 255 it restarts at 0. -/
def advanceSequence (sequence : AisMmsiFilterSequence) : AisMmsiFilterSequence :=
  let nextFragment := sequence.nextFragment + 1
  { sequence with
    nextFragment
    active := if sequence.totalFragments < nextFragment then false else sequence.active }

def aisMmsiFilterInit (ownMmsi : UInt32) : AisMmsiFilter :=
  { ownMmsi
    sequence := { active := false, totalFragments := 0, nextFragment := 0,
                  sequenceId := CharArray.zeroed _, channel := 0 } }

/-- The verdict on one frame, `true` for drop, and the filter after it. -/
def aisMmsiFilterShouldDrop (filter : AisMmsiFilter) (frame : Frame) : AisMmsiFilter × Bool :=
  if frame.length = 0 ∨ filter.ownMmsi = 0 then (filter, false)
  else
    match parseVdm frame with
    | none => (filter, false)
    | some vdm =>
      let channel := channelValue vdm.channel
      -- A later fragment carries no MMSI: it is judged by the sequence alone.
      if 1 < vdm.fragment then
        if !sequenceMatches filter.sequence vdm.sequenceId channel vdm.total vdm.fragment then
          (filter, false)
        else
          ({ filter with sequence := advanceSequence filter.sequence }, true)
      else
        match decodeMmsi vdm.payload with
        | none => (filter, false)
        | some mmsi =>
          if mmsi ≠ filter.ownMmsi then (filter, false)
          -- An own sentence ends whatever was remembered before it.
          else if 1 < vdm.total then
            (rememberSequence filter vdm.sequenceId channel vdm.total, true)
          else
            ({ filter with sequence := { filter.sequence with active := false } }, true)

/-! ## What one frame can do -/

theorem parseVdm_fragment_ne_zero {frame : Frame} {vdm : VdmFields}
    (parsed : parseVdm frame = some vdm) : vdm.fragment ≠ 0 := by
  simp only [parseVdm, Option.bind_eq_bind, Option.bind_eq_some_iff] at parsed
  obtain ⟨body, -, fields, -, parsed⟩ := parsed
  split at parsed
  · simp at parsed
  · simp only [Option.bind_eq_some_iff] at parsed
    obtain ⟨total, -, fragment, -, parsed⟩ := parsed
    split at parsed
    · simp at parsed
    · rename_i sensible
      simp only [Option.pure_def, Option.some.injEq] at parsed
      subst parsed
      exact fun zero => sensible (Or.inr (Or.inl zero))

/-- A vessel's own first or only fragment. -/
def VdmFields.IsOwnFirst (own : UInt32) (vdm : VdmFields) : Prop :=
  vdm.fragment = 1 ∧ decodeMmsi vdm.payload = some own

instance (own : UInt32) (vdm : VdmFields) : Decidable (vdm.IsOwnFirst own) :=
  inferInstanceAs (Decidable (_ ∧ _))

def VdmFields.matches (vdm : VdmFields) (sequence : AisMmsiFilterSequence) : Bool :=
  sequenceMatches sequence vdm.sequenceId (channelValue vdm.channel) vdm.total vdm.fragment

/-- Where the filter stands after an own first fragment. -/
def startSequence (filter : AisMmsiFilter) (vdm : VdmFields) : AisMmsiFilter :=
  if 1 < vdm.total then
    rememberSequence filter vdm.sequenceId (channelValue vdm.channel) vdm.total
  else { filter with sequence := { filter.sequence with active := false } }

/-- Everything a frame can do: pass and leave no trace, continue the remembered
sequence, or start a new one. -/
theorem shouldDrop_cases (filter : AisMmsiFilter) (frame : Frame) :
    (aisMmsiFilterShouldDrop filter frame = (filter, false) ∧
      (filter.ownMmsi = 0 ∨ ∀ vdm, parseVdm frame = some vdm →
        ¬ vdm.IsOwnFirst filter.ownMmsi ∧
          (1 < vdm.fragment → vdm.matches filter.sequence = false))) ∨
    (∃ vdm, parseVdm frame = some vdm ∧ 1 < vdm.fragment ∧
      vdm.matches filter.sequence = true ∧ aisMmsiFilterShouldDrop filter frame =
        ({ filter with sequence := advanceSequence filter.sequence }, true)) ∨
    (∃ vdm, parseVdm frame = some vdm ∧ vdm.IsOwnFirst filter.ownMmsi ∧
      filter.ownMmsi ≠ 0 ∧
      aisMmsiFilterShouldDrop filter frame = (startSequence filter vdm, true)) := by
  unfold aisMmsiFilterShouldDrop
  by_cases inactive : frame.length = 0 ∨ filter.ownMmsi = 0
  · refine Or.inl ⟨if_pos inactive, ?_⟩
    rcases inactive with empty | inactive
    · refine Or.inr fun vdm parsed => ?_
      -- An empty frame is no sentence at all.
      rw [List.length_eq_zero_iff.mp empty] at parsed
      simp [parseVdm, checksumIsValid] at parsed
    · exact Or.inl inactive
  · rw [if_neg inactive]
    obtain ⟨-, own⟩ := not_or.mp inactive
    cases parsed : parseVdm frame with
    | none => exact Or.inl ⟨rfl, Or.inr fun _ impossible => by simp at impossible⟩
    | some vdm =>
      -- From here the cases are those of the function: a later fragment, then a first one.
      by_cases later : 1 < vdm.fragment
      · have notFirst : vdm.fragment ≠ 1 := fun first => by simp [first] at later
        cases continues : vdm.matches filter.sequence with
        | false =>
          refine Or.inl ⟨by simp_all [VdmFields.matches], Or.inr ?_⟩
          simp_all [VdmFields.IsOwnFirst]
        | true =>
          exact Or.inr (Or.inl ⟨vdm, rfl, later, continues, by simp_all [VdmFields.matches]⟩)
      · have first : vdm.fragment = 1 := by
          -- The fragment is neither 0 nor above 1.
          have := parseVdm_fragment_ne_zero parsed
          grind
        by_cases mine : decodeMmsi vdm.payload = some filter.ownMmsi
        · refine Or.inr (Or.inr ⟨vdm, rfl, ⟨first, mine⟩, own, ?_⟩)
          simp only [later, mine, startSequence]
          split_ifs <;> simp_all
        · refine Or.inl ⟨?_, Or.inr ?_⟩
          · cases decoded : decodeMmsi vdm.payload with
            | none => simp [later, decoded]
            | some mmsi =>
              have foreign : mmsi ≠ filter.ownMmsi := fun same => mine (same ▸ decoded)
              simp [later, decoded, foreign]
          · simp_all [VdmFields.IsOwnFirst]

@[simp] theorem ownMmsi_rememberSequence (filter : AisMmsiFilter) (seqId : List UInt8)
    (channel total : UInt8) :
    (rememberSequence filter seqId channel total).ownMmsi = filter.ownMmsi := by
  unfold rememberSequence
  split_ifs <;> rfl

/-- Frames never change whose sentences the filter drops. -/
@[simp] theorem ownMmsi_shouldDrop (filter : AisMmsiFilter) (frame : Frame) :
    (aisMmsiFilterShouldDrop filter frame).1.ownMmsi = filter.ownMmsi := by
  rcases shouldDrop_cases filter frame with ⟨step, -⟩ | ⟨vdm, -, -, -, step⟩ | ⟨vdm, -, -, -, step⟩
  · rw [step]
  · rw [step]
  · rw [step, startSequence]
    split_ifs <;> simp

end EspNmeaBridge
