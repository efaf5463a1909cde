/-
# The remembered sequence as a piece of state

While a sequence is active the filter counts its fragments in eight bits and
keeps its ID as a C string. This file says when both mean what they should: the
counter stands between 2 and the total, and the string is the ID of the first
fragment that started the sequence.

Two frames break this and no others do. An ID with a NUL byte in it is stored as
a shorter string, an empty one if the NUL comes first, although an empty ID is
turned away. The last fragment of a message of 255 takes the counter past its
eight bits: it restarts at 0, which is not above the total, and the sequence
stays active after its end.
-/

import EspNmeaBridge.AisMmsiFilter.Multipart

namespace EspNmeaBridge

open CString Machine History

/-! ## Well-formed memory -/

/-- The memory of an active sequence fits the first fragment that started it. -/
structure AisMmsiFilterSequence.WellFormed (sequence : AisMmsiFilterSequence)
    (first : VdmFields) : Prop where
  two_le_next : 2 ≤ sequence.nextFragment
  next_le_total : sequence.nextFragment ≤ sequence.totalFragments
  terminated : sequence.sequenceId.terminated = true
  one_le_strlen : 1 ≤ sequence.sequenceId.strlen
  strlen_le : sequence.sequenceId.strlen ≤ aisMmsiFilterSeqIdMaxLen
  sameId : sequence.sequenceId.str = first.sequenceId

/-- The first fragment that started the remembered sequence: the latest own one, since
every own first fragment starts a sequence or ends the one before it. -/
def startedBy (own : UInt32) (frames : List Frame) : Option VdmFields :=
  (since (ownFirst own) (filterHistory own frames)).map Prod.fst

/-- After these frames the filter remembers a well-formed sequence or none. -/
def WellRemembered (own : UInt32) (frames : List Frame) : Prop :=
  (filterAfter own frames).sequence.active = true →
    ∃ first ∈ startedBy own frames, (filterAfter own frames).sequence.WellFormed first

/-- The frame starts no sequence under an ID with a NUL in it, and is not fragment 255
of the remembered sequence. -/
def KeepsSequence (own : UInt32) (earlier : List Frame) (frame : Frame) : Prop :=
  ∀ vdm ∈ parseVdm frame,
    (own ≠ 0 → vdm.IsOwnFirst own → 1 < vdm.total → 1 ≤ vdm.sequenceId.length →
      vdm.sequenceId.length ≤ aisMmsiFilterSeqIdMaxLen → (0 : UInt8) ∉ vdm.sequenceId) ∧
    (vdm.fragment = 255 → vdm.matches (filterAfter own earlier).sequence = false)

section Steps

variable {own : UInt32} {earlier : List Frame} {frame : Frame} {vdm : VdmFields}

theorem startedBy_snoc_of_first {dropped : Bool}
    (verdict : (aisMmsiFilterShouldDrop (filterAfter own earlier) frame).2 = dropped)
    (first : ownFirst own (frame, dropped) = some vdm) :
    startedBy own (earlier ++ [frame]) = some vdm := by
  rw [startedBy, filterHistory_snoc, verdict, since_snoc_of_some first]
  rfl

theorem startedBy_snoc_of_other {dropped : Bool}
    (verdict : (aisMmsiFilterShouldDrop (filterAfter own earlier) frame).2 = dropped)
    (other : ownFirst own (frame, dropped) = none) :
    startedBy own (earlier ++ [frame]) = startedBy own earlier := by
  rw [startedBy, filterHistory_snoc, verdict, since_snoc_of_none other, Option.map_map]
  rfl

/-- Without an own MMSI nothing is ever remembered. -/
theorem inactive_filterAfter_zero (frames : List Frame) :
    (filterAfter 0 frames).sequence.active = false := by
  have idle := Machine.invariant aisMmsiFilterShouldDrop
    (P := fun filter => filter.ownMmsi = 0 ∧ filter.sequence.active = false)
    (fun filter frame ⟨unset, inactive⟩ => by
      refine ⟨(ownMmsi_shouldDrop filter frame).trans unset, ?_⟩
      rcases shouldDrop_cases filter frame with
        ⟨step, -⟩ | ⟨vdm, -, -, continues, -⟩ | ⟨vdm, -, -, configured, -⟩
      · rwa [step]
      · exact absurd (matches_iff.mp continues).1 (by simp [inactive])
      · exact absurd unset configured)
    (s := aisMmsiFilterInit 0) ⟨rfl, rfl⟩ frames
  exact idle.2

/-- A frame that leaves no trace leaves a well-formed memory, and is none of the two. -/
theorem WellRemembered.passed (before : WellRemembered own earlier)
    (step : aisMmsiFilterShouldDrop (filterAfter own earlier) frame =
      (filterAfter own earlier, false))
    (passes : own = 0 ∨ ∀ vdm, parseVdm frame = some vdm → ¬ vdm.IsOwnFirst own ∧
      (1 < vdm.fragment → vdm.matches (filterAfter own earlier).sequence = false)) :
    WellRemembered own (earlier ++ [frame]) ∧ KeepsSequence own earlier frame := by
  rcases passes with rfl | passes
  · have inactive := inactive_filterAfter_zero earlier
    refine ⟨fun active => ?_, fun vdm _ => ⟨fun configured => absurd rfl configured, fun _ => ?_⟩⟩
    · rw [inactive_filterAfter_zero] at active
      exact absurd active (by simp)
    · by_contra continues
      rw [Bool.not_eq_false, matches_iff, inactive] at continues
      simpa using continues.1
  · constructor
    · intro active
      have notFirst : ownFirst own (frame, false) = none :=
        ownFirst_eq_none.mpr fun vdm parsed => (passes vdm parsed).1
      rw [startedBy_snoc_of_other (by rw [step]) notFirst]
      rw [filterAfter_snoc, step] at active ⊢
      exact before active
    · intro vdm parsed
      refine ⟨fun _ isFirst => absurd isFirst (passes vdm parsed).1, fun last => ?_⟩
      exact (passes vdm parsed).2 (by rw [last]; decide)

/-- Fragment 255 of the remembered sequence leaves a counter of 0 behind. -/
theorem not_wellRemembered_of_last (configured : own ≠ 0) (parsed : parseVdm frame = some vdm)
    (last : vdm.fragment = 255)
    (continues : vdm.matches (filterAfter own earlier).sequence = true) :
    ¬ WellRemembered own (earlier ++ [frame]) := by
  have later : 1 < vdm.fragment := by rw [last]; decide
  obtain ⟨active, -, counter, -, -⟩ := matches_iff.mp continues
  rw [WellRemembered, filterAfter_snoc]
  rcases shouldDrop_cases (filterAfter own earlier) frame with
    ⟨-, passes⟩ | ⟨vdm', -, -, -, step⟩ | ⟨vdm', parsed', isFirst, -, -⟩
  · rw [ownMmsi_filterAfter] at passes
    have unmatched := (passes.resolve_left configured vdm parsed).2 later
    rw [continues] at unmatched
    simp at unmatched
  · rw [step]
    -- Past its eight bits the counter is 0: not above the total, and below 2.
    have wrapped : (advanceSequence (filterAfter own earlier).sequence).nextFragment = 0 := by
      simp [advanceSequence, counter, last]
    have stillActive : (advanceSequence (filterAfter own earlier).sequence).active = true := by
      simp [advanceSequence, counter, last, active]
    intro after
    obtain ⟨first, -, wellFormed⟩ := after stillActive
    have low := wellFormed.two_le_next
    rw [wrapped] at low
    exact absurd low (by decide)
  · obtain rfl : vdm = vdm' := Option.some.inj (parsed.symm.trans parsed')
    rw [isFirst.1] at later
    exact absurd later (by decide)

/-- A fragment that is counted keeps the memory well formed unless it is number 255. -/
theorem WellRemembered.continued (before : WellRemembered own earlier) (configured : own ≠ 0)
    (parsed : parseVdm frame = some vdm) (later : 1 < vdm.fragment)
    (continues : vdm.matches (filterAfter own earlier).sequence = true)
    (step : aisMmsiFilterShouldDrop (filterAfter own earlier) frame =
      ({ filterAfter own earlier with
          sequence := advanceSequence (filterAfter own earlier).sequence }, true)) :
    WellRemembered own (earlier ++ [frame]) ↔ KeepsSequence own earlier frame := by
  have notFirst : ¬ vdm.IsOwnFirst own := fun isFirst => by simp [isFirst.1] at later
  have unmarked : ownFirst own (frame, true) = none := by
    refine ownFirst_eq_none.mpr fun other parsed' => ?_
    obtain rfl : vdm = other := Option.some.inj (parsed.symm.trans parsed')
    exact notFirst
  have keeps_iff : KeepsSequence own earlier frame ↔ vdm.fragment ≠ 255 := by
    simp [KeepsSequence, parsed, notFirst, continues]
  obtain ⟨active, -, counter, -, -⟩ := matches_iff.mp continues
  obtain ⟨first, started, wellFormed⟩ := before active
  rw [keeps_iff]
  constructor
  · exact fun after last => not_wellRemembered_of_last configured parsed last continues after
  · intro notLast
    rw [WellRemembered, startedBy_snoc_of_other (by rw [step]) unmarked, filterAfter_snoc, step]
    intro stillActive
    refine ⟨first, started, ?_, ?_, wellFormed.terminated, wellFormed.one_le_strlen,
      wellFormed.strlen_le, wellFormed.sameId⟩
    · have low := wellFormed.two_le_next
      have noWrap := (filterAfter own earlier).sequence.nextFragment.toNat_lt
      rw [← counter, ne_eq, ← UInt8.toNat_inj] at notLast
      simp only [advanceSequence, UInt8.le_iff_toNat_le, UInt8.toNat_add] at low ⊢
      simp at low notLast ⊢
      omega
    · -- Still active, the counter has not passed the total.
      by_contra beyond
      simp only [advanceSequence] at stillActive beyond
      rw [if_pos (UInt8.not_le.mp beyond)] at stillActive
      simp at stillActive

/-- A message of one fragment, or under an ID that does not fit, is not remembered. -/
theorem inactive_startSequence (filter : AisMmsiFilter)
    (refused : ¬ (1 < vdm.total ∧ 1 ≤ vdm.sequenceId.length ∧
      vdm.sequenceId.length ≤ aisMmsiFilterSeqIdMaxLen)) :
    (startSequence filter vdm).sequence.active = false := by
  unfold startSequence
  split_ifs with several
  · have forgotten : vdm.sequenceId.length = 0 ∨
        aisMmsiFilterSeqIdMaxLen < vdm.sequenceId.length ∨ vdm.total < 2 := by
      by_contra kept
      exact refused ⟨several, by omega, by omega⟩
    rw [rememberSequence, if_pos forgotten]
  · rfl

/-- Any other is, and it is well formed unless its ID has a NUL in it. -/
theorem startSequence_remembers (filter : AisMmsiFilter) (several : 1 < vdm.total)
    (nonempty : 1 ≤ vdm.sequenceId.length)
    (fits : vdm.sequenceId.length ≤ aisMmsiFilterSeqIdMaxLen) :
    (startSequence filter vdm).sequence.active = true ∧
      ((startSequence filter vdm).sequence.WellFormed vdm ↔ (0 : UInt8) ∉ vdm.sequenceId) := by
  have two : 2 ≤ vdm.total := by
    rw [UInt8.lt_iff_toNat_lt] at several
    rw [UInt8.le_iff_toNat_le]
    exact several
  have kept : ¬ (vdm.sequenceId.length = 0 ∨
      aisMmsiFilterSeqIdMaxLen < vdm.sequenceId.length ∨ vdm.total < 2) := by
    rintro (empty | long | single)
    · omega
    · omega
    · exact UInt8.not_lt.mpr two single
  have room : vdm.sequenceId.length < aisMmsiFilterSeqIdMaxLen + 1 := by omega
  rw [startSequence, if_pos several, rememberSequence, if_neg kept]
  refine ⟨rfl, fun wellFormed member => ?_, fun clean => ?_⟩
  · -- The stored string ends in front of a NUL, the ID does not.
    have sameId := wellFormed.sameId
    simp only [CharArray.str_memcpy_terminated _ room] at sameId
    rw [← sameId] at member
    exact zero_notMem_content _ member
  · have sameId : (filter.sequence.sequenceId.memcpy (vdm.sequenceId ++ [0])).str =
        vdm.sequenceId := by
      rw [CharArray.str_memcpy_terminated _ room, content_eq_self clean]
    have length : (filter.sequence.sequenceId.memcpy (vdm.sequenceId ++ [0])).strlen =
        vdm.sequenceId.length := by
      rw [CharArray.strlen, sameId]
    have terminated := CharArray.terminated_of_strlen_lt (length.trans_lt room)
    exact ⟨le_refl 2, two, terminated, nonempty.trans_eq length.symm, length.trans_le fits, sameId⟩

/-- An own first fragment leaves a well-formed memory unless its ID has a NUL in it. -/
theorem WellRemembered.started (parsed : parseVdm frame = some vdm)
    (isFirst : vdm.IsOwnFirst own) (configured : own ≠ 0)
    (step : aisMmsiFilterShouldDrop (filterAfter own earlier) frame =
      (startSequence (filterAfter own earlier) vdm, true)) :
    WellRemembered own (earlier ++ [frame]) ↔ KeepsSequence own earlier frame := by
  have marked : ownFirst own (frame, true) = some vdm := ownFirst_eq_some.mpr ⟨parsed, isFirst⟩
  have notLast : vdm.fragment ≠ 255 := by rw [isFirst.1]; decide
  rw [WellRemembered, startedBy_snoc_of_first (by rw [step]) marked, filterAfter_snoc, step]
  simp only [KeepsSequence, parsed, Option.mem_def, Option.some.injEq, forall_eq', exists_eq_left',
    isFirst, configured, ne_eq, not_false_eq_true, forall_const, notLast, false_implies, and_true]
  by_cases remembered : 1 < vdm.total ∧ 1 ≤ vdm.sequenceId.length ∧
      vdm.sequenceId.length ≤ aisMmsiFilterSeqIdMaxLen
  · obtain ⟨several, nonempty, fits⟩ := remembered
    obtain ⟨active, wellFormed_iff⟩ :=
      startSequence_remembers (filterAfter own earlier) several nonempty fits
    simp only [active, wellFormed_iff, several, nonempty, fits, forall_const]
  · have inactive := inactive_startSequence (filterAfter own earlier) remembered
    refine iff_of_true (by simp [inactive]) fun several nonempty fits => ?_
    exact absurd ⟨several, nonempty, fits⟩ remembered

/-- On a well-formed memory, the next frame keeps it so or is one of the two. -/
theorem wellRemembered_snoc_iff (before : WellRemembered own earlier) :
    WellRemembered own (earlier ++ [frame]) ↔ KeepsSequence own earlier frame := by
  have ownMmsi := ownMmsi_filterAfter own earlier
  rcases shouldDrop_cases (filterAfter own earlier) frame with
    ⟨step, passes⟩ | ⟨vdm, parsed, later, continues, step⟩ | ⟨vdm, parsed, isFirst, own0, step⟩
  · rw [ownMmsi] at passes
    obtain ⟨after, keeps⟩ := before.passed step passes
    exact iff_of_true after keeps
  · have configured : own ≠ 0 := by
      rintro rfl
      have inactive := inactive_filterAfter_zero earlier
      exact absurd (matches_iff.mp continues).1 (by simp [inactive])
    exact before.continued configured parsed later continues step
  · rw [ownMmsi] at isFirst own0
    exact WellRemembered.started parsed isFirst own0 step

end Steps

/-- In every state of a run the remembered sequence is well formed, exactly when no frame
of the run is one of the two that break it. -/
theorem remembered_sequence_wellFormed_iff (own : UInt32) (frames : List Frame) :
    (∀ reached, reached <+: frames → WellRemembered own reached) ↔
      EveryStep (KeepsSequence own) frames := by
  induction frames using List.reverseRecOn with
  | nil =>
    refine iff_of_true (fun reached start => ?_) everyStep_nil
    rw [List.prefix_nil.mp start]
    simp [WellRemembered, filterAfter, aisMmsiFilterInit]
  | append_singleton frames frame ih =>
    rw [everyStep_snoc, ← ih]
    constructor
    · intro every
      have soFar := fun reached (start : reached <+: frames) =>
        every reached (start.trans (List.prefix_append _ _))
      exact ⟨soFar, (wellRemembered_snoc_iff (soFar frames (List.prefix_refl _))).mp
        (every _ (List.prefix_refl _))⟩
    · rintro ⟨soFar, keeps⟩ reached start
      rcases List.prefix_concat_iff.mp start with rfl | start
      · exact (wellRemembered_snoc_iff (soFar frames (List.prefix_refl _))).mpr keeps
      · exact soFar reached start

/-- Fragment `k + 1` of an own message of 255, on channel B under the ID `7`. -/
def longestFragment (k : ℕ) : VdmFields :=
  fragmentAt 255 (ascii "7") (ascii "B") (ascii "11mg=5@") k

/-- The first fragments of that message. -/
def longestMessage (n : ℕ) : List Frame :=
  (List.range n).map fun k => vdmSentence (longestFragment k)

theorem longestMessage_succ (n : ℕ) :
    longestMessage (n + 1) = longestMessage n ++ [vdmSentence (longestFragment n)] := by
  rw [longestMessage, List.range_succ, List.map_append, List.map_singleton, longestMessage]

theorem parseVdm_longestFragment {k : ℕ} (inside : k < 255) :
    parseVdm (vdmSentence (longestFragment k)) = some (longestFragment k) := by
  have number : (longestFragment k).fragment.toNat = k + 1 := by
    simp [longestFragment, fragmentAt]
    omega
  have plain : ∀ field ∈ [ascii "7", ascii "B", ascii "11mg=5@"],
      ','.toUInt8 ∉ field ∧ '*'.toUInt8 ∉ field := by decide
  refine parseVdm_eq_some_iff.mpr (isVdmSentence_vdmSentence ?_ ?_ plain)
  · rw [UInt8.le_iff_toNat_le, number]
    exact Nat.le_add_left 1 k
  · rw [UInt8.le_iff_toNat_le, number]
    exact inside

theorem awaits_longestMessage {n : ℕ} (few : n ≤ 255) :
    Awaits 123456789 255 (ascii "7") 'B'.toUInt8 n
      (filterAfter 123456789 (longestMessage n)) := by
  induction n with
  | zero => exact ⟨rfl, fun started => absurd started (by decide)⟩
  | succ n ih =>
    have awaits := ih (by omega)
    have parsed := parseVdm_longestFragment (k := n) (by omega)
    rw [longestMessage_succ, filterAfter_snoc]
    cases n with
    | zero =>
      exact (awaits.first (by decide) (by decide) (by decide) (by decide) (by decide) parsed
        (by decide)).2
    | succ n => exact (awaits.later (by decide) (by omega) few parsed).2

/-- An own first fragment whose ID is a NUL byte, and an own message of 255 fragments. -/
theorem remembered_sequence_malformed :
    ¬ WellRemembered 123456789 [ascii "!AIVDM,2,1,\x00,B,11mg=5@ABCDE,0*25"] ∧
      ¬ WellRemembered 123456789 (longestMessage 255) := by
  constructor
  · intro wellRemembered
    obtain ⟨first, -, wellFormed⟩ := wellRemembered (by decide)
    exact absurd wellFormed.one_le_strlen (by decide)
  · obtain ⟨active, total, next, channel, sequenceId⟩ :=
      (awaits_longestMessage (n := 254) (by decide)).remembers (by decide) (by decide)
    have whole : longestMessage 255 = longestMessage 254 ++ [vdmSentence (longestFragment 254)] :=
      longestMessage_succ 254
    have continues : (longestFragment 254).matches
        (filterAfter 123456789 (longestMessage 254)).sequence = true :=
      matches_iff.mpr ⟨active, total, next, channel, sequenceId⟩
    rw [whole]
    exact not_wellRemembered_of_last (by decide) (parseVdm_longestFragment (by decide)) rfl
      continues

end EspNmeaBridge
