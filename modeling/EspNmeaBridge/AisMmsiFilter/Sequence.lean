/-
# Which vessel a later fragment belongs to

Later fragments carry no MMSI; the filter attributes them to the one sequence it
remembers. This file compares that attribution with the frames themselves: a
drop is justified when the latest first fragment with the same total, sequence
ID and channel was the vessel's own and every fragment in between was dropped.

The remembered sequence is the latest own first fragment together with the
fragments dropped since, whatever else arrived. A drop therefore goes wrong only
when the frames do not tell the two apart: another vessel starts a sequence under
the same total, ID and channel while the own one is still remembered, or two
different fields look alike to the filter.
-/

import EspNmeaBridge.AisMmsiFilter
import EspNmeaBridge.Lib.History
import EspNmeaBridge.Lib.Machine

namespace EspNmeaBridge

open CString Machine History

/-- Frames with the verdict each got, oldest first. -/
abbrev FilterHistory := List (Frame × Bool)

/-- The verdicts on a run of frames from a fresh filter. -/
def filterHistory (own : UInt32) (frames : List Frame) : FilterHistory :=
  trace aisMmsiFilterShouldDrop (aisMmsiFilterInit own) frames

/-- The filter after a run of frames from a fresh filter. -/
def filterAfter (own : UInt32) (frames : List Frame) : AisMmsiFilter :=
  stateAfter aisMmsiFilterShouldDrop (aisMmsiFilterInit own) frames

/-- Two fragments are of one sequence: same total, same ID bytes, same channel bytes. -/
def VdmFields.SameSequence (vdm other : VdmFields) : Prop :=
  vdm.total = other.total ∧ vdm.sequenceId = other.sequenceId ∧ vdm.channel = other.channel

instance (vdm other : VdmFields) : Decidable (vdm.SameSequence other) :=
  inferInstanceAs (Decidable (_ ∧ _ ∧ _))

/-- Marks the first fragments of the sequence `vdm` belongs to. -/
def firstOf (vdm : VdmFields) (event : Frame × Bool) : Option VdmFields :=
  (parseVdm event.1).filter fun first => first.fragment = 1 ∧ first.SameSequence vdm

/-- Marks the vessel's own first fragments, of whatever sequence. -/
def ownFirst (own : UInt32) (event : Frame × Bool) : Option VdmFields :=
  (parseVdm event.1).filter fun first => first.IsOwnFirst own

/-- The fragment number, when the frame is of the sequence of `vdm` and was dropped. -/
def droppedFragment (vdm : VdmFields) (event : Frame × Bool) : Option ℕ :=
  if event.2 then
    ((parseVdm event.1).filter fun part => part.SameSequence vdm).map (·.fragment.toNat)
  else none

/-- Dropping fragment `vdm` after this history is justified: the latest first
fragment of its sequence decodes to the own MMSI, and exactly the fragments
before it were dropped since, in order. -/
def DropJustified (own : UInt32) (history : FilterHistory) (vdm : VdmFields) : Prop :=
  match since (firstOf vdm) history with
  | none => False
  | some (first, after) =>
    decodeMmsi first.payload = some own ∧
      after.filterMap (droppedFragment vdm) = List.range' 2 (vdm.fragment.toNat - 2)

instance (own : UInt32) (history : FilterHistory) (vdm : VdmFields) :
    Decidable (DropJustified own history vdm) := by
  unfold DropJustified
  split <;> infer_instance

/-- If the frame is a later fragment and gets dropped, then justifiably. -/
def DropsOnlyOwnFragment (own : UInt32) (earlier : List Frame) (frame : Frame) : Prop :=
  ∀ vdm ∈ parseVdm frame, 1 < vdm.fragment →
    (aisMmsiFilterShouldDrop (filterAfter own earlier) frame).2 = true →
      DropJustified own (filterHistory own earlier) vdm

instance (own : UInt32) (earlier : List Frame) (frame : Frame) :
    Decidable (DropsOnlyOwnFragment own earlier frame) := by
  unfold DropsOnlyOwnFragment
  infer_instance

/-- The frames up to this one tell its sequence from every other. When it matches the
remembered sequence, the latest own first fragment differs from it in the channel or
the ID only if the filter sees a difference there, and no first fragment under the
same total, ID and channel came after that one. -/
def SequenceUnambiguous (own : UInt32) (earlier : List Frame) (frame : Frame) : Prop :=
  ∀ vdm ∈ parseVdm frame, 1 < vdm.fragment →
    vdm.matches (filterAfter own earlier).sequence = true →
    ∀ latest ∈ since (ownFirst own) (filterHistory own earlier),
      (channelValue latest.1.channel = channelValue vdm.channel →
        latest.1.channel = vdm.channel) ∧
      (CString.content latest.1.sequenceId = vdm.sequenceId →
        latest.1.sequenceId = vdm.sequenceId) ∧
      ∀ event ∈ latest.2, firstOf vdm event = none

instance (own : UInt32) (earlier : List Frame) (frame : Frame) :
    Decidable (SequenceUnambiguous own earlier frame) := by
  unfold SequenceUnambiguous
  infer_instance

@[simp] theorem filterHistory_snoc (own : UInt32) (frames : List Frame) (frame : Frame) :
    filterHistory own (frames ++ [frame]) = filterHistory own frames ++
      [(frame, (aisMmsiFilterShouldDrop (filterAfter own frames) frame).2)] :=
  trace_snoc _ _ _ _

@[simp] theorem filterAfter_snoc (own : UInt32) (frames : List Frame) (frame : Frame) :
    filterAfter own (frames ++ [frame]) =
      (aisMmsiFilterShouldDrop (filterAfter own frames) frame).1 :=
  stateAfter_snoc _ _ _ _

section Remembered

variable {own : UInt32} {vdm first : VdmFields} {event : Frame × Bool}

@[simp] theorem firstOf_eq_some :
    firstOf vdm event = some first ↔
      parseVdm event.1 = some first ∧ first.fragment = 1 ∧ first.SameSequence vdm := by
  simp [firstOf, Option.filter_eq_some_iff]

@[simp] theorem ownFirst_eq_some :
    ownFirst own event = some first ↔
      parseVdm event.1 = some first ∧ first.IsOwnFirst own := by
  simp [ownFirst, Option.filter_eq_some_iff]

theorem ownFirst_eq_none :
    ownFirst own event = none ↔
      ∀ first, parseVdm event.1 = some first → ¬ first.IsOwnFirst own := by
  simp [ownFirst, Option.filter_eq_none_iff]

theorem droppedFragment_congr (same : first.SameSequence vdm) :
    droppedFragment vdm event = droppedFragment first event := by
  have swap : ∀ part : VdmFields, part.SameSequence vdm ↔ part.SameSequence first := by
    obtain ⟨total, sequenceId, channel⟩ := same
    simp [VdmFields.SameSequence, total, sequenceId, channel]
  simp [droppedFragment, swap]

@[simp] theorem droppedFragment_passed (vdm : VdmFields) (frame : Frame) :
    droppedFragment vdm (frame, false) = none := rfl

theorem droppedFragment_of_sameSequence {frame : Frame} (parsed : parseVdm frame = some vdm)
    (same : vdm.SameSequence first) :
    droppedFragment first (frame, true) = some vdm.fragment.toNat := by
  simp [droppedFragment, parsed, same]

/-- A match fixes the remembered total, counter, channel byte and ID. -/
theorem matches_iff {sequence : AisMmsiFilterSequence} :
    vdm.matches sequence = true ↔
      sequence.active = true ∧ sequence.totalFragments = vdm.total ∧
        sequence.nextFragment = vdm.fragment ∧
        sequence.channel = channelValue vdm.channel ∧
        sequence.sequenceId.str = vdm.sequenceId := by
  simp only [VdmFields.matches, sequenceMatches, Bool.and_eq_true, beq_iff_eq, and_assoc,
    and_congr_right_iff]
  intro _ _ _ _
  constructor
  · rintro ⟨sameLength, sameBytes⟩
    exact (CString.strncmpEq_content sameLength).mp sameBytes
  · intro same
    have sameLength := congrArg List.length same
    exact ⟨sameLength, (CString.strncmpEq_content sameLength).mpr same⟩

/-- The remembered sequence is the latest own first fragment and what was dropped
of its sequence since. The counter is 0 only after it wrapped, and then matches
no fragment. -/
def Remembers (own : UInt32) (history : FilterHistory) (sequence : AisMmsiFilterSequence) :
    Prop :=
  sequence.active = true →
    ∃ first after, since (ownFirst own) history = some (first, after) ∧
      sequence.totalFragments = first.total ∧
      sequence.channel = channelValue first.channel ∧
      sequence.sequenceId.str = CString.content first.sequenceId ∧
      (sequence.nextFragment ≠ 0 → 2 ≤ sequence.nextFragment.toNat ∧
        after.filterMap (droppedFragment first) =
          List.range' 2 (sequence.nextFragment.toNat - 2))

/-- A frame that passed without starting a sequence leaves the memory right. -/
theorem Remembers.passed {history : FilterHistory} {sequence : AisMmsiFilterSequence}
    {frame : Frame} (remembers : Remembers own history sequence)
    (notFirst : ownFirst own (frame, false) = none) :
    Remembers own (history ++ [(frame, false)]) sequence := by
  intro active
  obtain ⟨first, after, found, total, channel, sequenceId, counted⟩ := remembers active
  -- The own first fragment is still the latest; nothing dropped was added to it.
  refine ⟨first, after ++ [(frame, false)], ?_, total, channel, sequenceId, ?_⟩
  · rw [since_snoc_of_none notFirst, found]
    rfl
  · simpa [List.filterMap_cons] using counted

private theorem toNat_succ_of_ne_zero {a : UInt8} (noWrap : a + 1 ≠ 0) :
    (a + 1).toNat = a.toNat + 1 := by
  have bound := a.toNat_lt
  have wrapped : (a + 1).toNat = (a.toNat + 1) % 256 := by simp [UInt8.toNat_add]
  have nonzero : (a + 1).toNat ≠ 0 := fun zero => noWrap (UInt8.toNat_inj.mp zero)
  omega

/-- A dropped later fragment of the remembered sequence is counted. -/
theorem Remembers.continued {history : FilterHistory} {sequence : AisMmsiFilterSequence}
    {frame : Frame} (remembers : Remembers own history sequence)
    (parsed : parseVdm frame = some vdm) (later : 1 < vdm.fragment)
    (counter : sequence.nextFragment = vdm.fragment)
    (same : ∀ first after, since (ownFirst own) history = some (first, after) →
      vdm.SameSequence first) :
    Remembers own (history ++ [(frame, true)]) (advanceSequence sequence) := by
  intro active
  have wasActive : sequence.active = true := by
    simp only [advanceSequence] at active
    split_ifs at active
    exact active
  obtain ⟨first, after, found, total, channel, sequenceId, counted⟩ := remembers wasActive
  -- A later fragment starts no sequence of its own.
  have notFirst : ownFirst own (frame, true) = none := by
    rw [ownFirst_eq_none]
    rintro other parsed' ⟨isFirst, -⟩
    obtain rfl : vdm = other := Option.some.inj (parsed.symm.trans parsed')
    simp [isFirst] at later
  refine ⟨first, after ++ [(frame, true)], ?_, total, channel, sequenceId, ?_⟩
  · rw [since_snoc_of_none notFirst, found]
    rfl
  · intro nonzero
    have fragmentNonzero : sequence.nextFragment ≠ 0 := by
      rw [counter]
      exact parseVdm_fragment_ne_zero parsed
    obtain ⟨atLeastTwo, dropped⟩ := counted fragmentNonzero
    -- The counter matters only while it has not wrapped to 0.
    have noWrap : (advanceSequence sequence).nextFragment.toNat =
        sequence.nextFragment.toNat + 1 := toNat_succ_of_ne_zero nonzero
    refine ⟨by omega, ?_⟩
    have oneMore : sequence.nextFragment.toNat + 1 - 2 =
        sequence.nextFragment.toNat - 2 + 1 := by omega
    rw [List.filterMap_append, dropped, noWrap, oneMore, List.range'_concat]
    simp only [List.filterMap_cons, List.filterMap_nil,
      droppedFragment_of_sameSequence parsed (same first after found), ← counter]
    congr 2
    omega

/-- An own first fragment becomes the remembered sequence, or none is remembered. -/
theorem Remembers.started {history : FilterHistory} {filter : AisMmsiFilter} {frame : Frame}
    (parsed : parseVdm frame = some vdm) (isFirst : vdm.IsOwnFirst own) :
    Remembers own (history ++ [(frame, true)]) (startSequence filter vdm).sequence := by
  intro active
  have marked : ownFirst own (frame, true) = some vdm := ownFirst_eq_some.mpr ⟨parsed, isFirst⟩
  refine ⟨vdm, [], since_snoc_of_some marked history, ?_⟩
  -- It is active only if there are several fragments and the ID fits.
  simp only [startSequence, rememberSequence] at active ⊢
  split_ifs at active ⊢ with several unfit
  simp only [not_or] at unfit
  have fits : vdm.sequenceId.length < aisMmsiFilterSeqIdMaxLen + 1 := by omega
  refine ⟨rfl, rfl, CString.CharArray.str_memcpy_terminated _ fits,
    fun _ => ⟨le_refl 2, rfl⟩⟩

@[simp] theorem ownMmsi_filterAfter (own : UInt32) (frames : List Frame) :
    (filterAfter own frames).ownMmsi = own :=
  Machine.invariant aisMmsiFilterShouldDrop (P := fun filter => filter.ownMmsi = own)
    (fun filter frame same => (ownMmsi_shouldDrop filter frame).trans same) rfl frames

/-- On a frame that is told from every other, the memory stays right. -/
theorem Remembers.step {earlier : List Frame} {frame : Frame} (active : own ≠ 0)
    (remembers : Remembers own (filterHistory own earlier) (filterAfter own earlier).sequence)
    (unambiguous : SequenceUnambiguous own earlier frame) :
    Remembers own (filterHistory own (earlier ++ [frame]))
      (filterAfter own (earlier ++ [frame])).sequence := by
  have ownMmsi := ownMmsi_filterAfter own earlier
  rw [filterHistory_snoc, filterAfter_snoc]
  rcases shouldDrop_cases (filterAfter own earlier) frame with
    ⟨step, passes⟩ | ⟨vdm, parsed, later, continues, step⟩ | ⟨vdm, parsed, isFirst, -, step⟩
  · rw [step]
    -- Dropping no frame, the filter saw no own first fragment.
    refine remembers.passed (ownFirst_eq_none.mpr fun first parsed => ?_)
    rw [ownMmsi] at passes
    exact (passes.resolve_left active first parsed).1
  · rw [step]
    obtain ⟨wasActive, sameTotal, counter, sameChannel, sameId⟩ := matches_iff.mp continues
    refine remembers.continued parsed later counter fun first after found => ?_
    -- The filter compares a channel byte and a C string; on this frame they tell as much as the
    -- fields themselves.
    obtain ⟨channelTold, idTold, -⟩ := unambiguous vdm parsed later continues _ found
    obtain ⟨first', after', found', total, channel, sequenceId, -⟩ := remembers wasActive
    obtain ⟨rfl, rfl⟩ := Prod.mk.inj (Option.some.inj (found.symm.trans found'))
    exact ⟨sameTotal.symm.trans total, (idTold (sequenceId.symm.trans sameId)).symm,
      (channelTold (channel.symm.trans sameChannel)).symm⟩
  · rw [step]
    rw [ownMmsi] at isFirst
    exact Remembers.started parsed isFirst

/-- Along an unambiguous run the filter remembers the right sequence. -/
theorem remembers_filterAfter (active : own ≠ 0) {frames : List Frame}
    (unambiguous : EveryStep (SequenceUnambiguous own) frames) :
    Remembers own (filterHistory own frames) (filterAfter own frames).sequence := by
  induction frames using List.reverseRecOn with
  | nil => simp [Remembers, filterAfter, aisMmsiFilterInit]
  | append_singleton frames frame ih =>
    obtain ⟨earlier, thisOne⟩ := everyStep_snoc.mp unambiguous
    exact (ih earlier).step active thisOne

/-- While the right sequence is remembered, a dropped later fragment is its own. -/
theorem Remembers.dropsOnlyOwnFragment {earlier : List Frame} {frame : Frame}
    (remembers : Remembers own (filterHistory own earlier) (filterAfter own earlier).sequence)
    (unambiguous : SequenceUnambiguous own earlier frame) :
    DropsOnlyOwnFragment own earlier frame := by
  intro vdm parsed later dropped
  rcases shouldDrop_cases (filterAfter own earlier) frame with
    ⟨step, -⟩ | ⟨vdm', parsed', -, continues, -⟩ | ⟨vdm', parsed', isFirst, -, -⟩
  · simp [step] at dropped
  · obtain rfl : vdm = vdm' := Option.some.inj (parsed.symm.trans parsed')
    obtain ⟨wasActive, sameTotal, counter, sameChannel, sameId⟩ := matches_iff.mp continues
    obtain ⟨first, after, found, total, channel, sequenceId, counted⟩ := remembers wasActive
    obtain ⟨channelTold, idTold, quiet⟩ := unambiguous vdm parsed later continues _ found
    -- The fragment belongs to the remembered sequence in every respect.
    have same : first.SameSequence vdm :=
      ⟨total.symm.trans sameTotal, idTold (sequenceId.symm.trans sameId),
        channelTold (channel.symm.trans sameChannel)⟩
    obtain ⟨front, event, split, marked, -⟩ := exists_of_since_eq_some found
    obtain ⟨parsedFirst, isFirst⟩ := ownFirst_eq_some.mp marked
    -- no first fragment of this sequence came later, so the own one is the latest
    have latest : since (firstOf vdm) (filterHistory own earlier) = some (first, after) := by
      rw [split]
      exact since_eq_some (firstOf_eq_some.mpr ⟨parsedFirst, isFirst.1, same⟩) quiet
    have nonzero : (filterAfter own earlier).sequence.nextFragment ≠ 0 := by
      rw [counter]
      exact parseVdm_fragment_ne_zero parsed
    have parts : droppedFragment vdm = droppedFragment first :=
      funext fun _ => droppedFragment_congr same
    simp only [DropJustified, latest]
    refine ⟨isFirst.2, ?_⟩
    rw [parts, (counted nonzero).2, counter]
  · obtain rfl : vdm = vdm' := Option.some.inj (parsed.symm.trans parsed')
    simp [isFirst.1] at later

end Remembered

/-- Along a run of frames that tell their sequences apart, every later fragment the
filter drops continues the vessel's own sequence. -/
theorem dropsOnlyOwnFragments (own : UInt32) (active : own ≠ 0) (frames : List Frame)
    (unambiguous : EveryStep (SequenceUnambiguous own) frames) :
    EveryStep (DropsOnlyOwnFragment own) frames := by
  induction frames using List.reverseRecOn with
  | nil => exact everyStep_nil
  | append_singleton frames frame ih =>
    obtain ⟨earlier, thisOne⟩ := everyStep_snoc.mp unambiguous
    exact everyStep_snoc.mpr
      ⟨ih earlier, (remembers_filterAfter active earlier).dropsOnlyOwnFragment thisOne⟩

/-- Two fragments of the vessel's own sequence, both dropped. -/
theorem dropsOnlyOwnFragments_ownPair :
    EveryStep (DropsOnlyOwnFragment 123456789)
      [ascii "!AIVDM,2,1,7,B,11mg=5@ABCDE,0*12", ascii "!AIVDM,2,2,7,B,BBBBBB,0*12"] :=
  dropsOnlyOwnFragments 123456789 (by decide) _ (by decide)

/-- Another vessel reuses the sequence ID before the own second fragment arrived:
its second fragment is taken for the own one. -/
theorem foreign_fragment_dropped :
    ¬ ∀ own : UInt32, own ≠ 0 → ∀ frames, EveryStep (DropsOnlyOwnFragment own) frames := by
  intro always
  have reused := always 123456789 (by decide)
    [ascii "!AIVDM,2,1,7,B,11mg=5@ABCDE,0*12", ascii "!AIVDM,2,1,7,B,1>eq`d@ABCDE,0*0F",
      ascii "!AIVDM,2,2,7,B,BBBBBB,0*12"]
  exact absurd reused (by decide)

end EspNmeaBridge
