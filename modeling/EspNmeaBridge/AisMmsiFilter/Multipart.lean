/-
# The vessel's own multipart messages

A message of several fragments is dropped as a whole when the filter has
remembered its first fragment by the time each later one arrives. Between two
fragments any other frames may pass; they leave the remembered sequence alone as
long as they start no own message and do not belong to the same sequence.

The filter compares a channel byte and reads NUL for a channel field that has no
single byte. A message whose channel is the NUL byte is therefore not told from
one without a channel, and loses its own fragment to it.
-/

import EspNmeaBridge.AisMmsiFilter.Sentence
import EspNmeaBridge.AisMmsiFilter.Sequence

namespace EspNmeaBridge

open CString Machine

/-! ## Messages among other traffic -/

/-- A frame on its arrival, marked when it is a fragment of the message in question. -/
structure Arrival where
  frame : Frame
  part : Bool
  deriving DecidableEq, Repr

/-- The fragments of the message, in the order of their arrival. -/
def parts (arrivals : List Arrival) : List Frame :=
  (arrivals.filter (·.part)).map (·.frame)

/-- Fragment `k + 1` of a message. -/
def fragmentAt (total : UInt8) (sequenceId channel payload : List UInt8) (k : ℕ) : VdmFields :=
  { total, fragment := UInt8.ofNat (k + 1), sequenceId, channel, payload }

/-- A complete message under one sequence ID and channel whose first fragment
carries the own MMSI. -/
def IsOwnMessage (own : UInt32) (total : UInt8) (sequenceId channel : List UInt8)
    (fragments : List Frame) : Prop :=
  fragments.length = total.toNat ∧
    ∀ k, ∀ frame ∈ fragments[k]?, ∃ payload,
      IsVdmSentence frame (fragmentAt total sequenceId channel payload k) ∧
        (k = 0 → decodeMmsi payload = some own)

/-- A frame that neither starts an own message nor continues the given sequence. -/
def IsOtherTraffic (own : UInt32) (total : UInt8) (sequenceId channel : List UInt8)
    (frame : Frame) : Prop :=
  ∀ vdm, IsVdmSentence frame vdm → ¬ vdm.IsOwnFirst own ∧
    ¬ (1 < vdm.fragment ∧ vdm.total = total ∧ vdm.sequenceId = sequenceId ∧
      vdm.channel = channel)

/-- An own message of 2 to 255 fragments, under a sequence ID of 1 to 8 bytes and a
channel of one byte, that arrives in order among other traffic. -/
structure OwnMessageArrives (own : UInt32) (total : UInt8) (sequenceId : List UInt8)
    (channel : UInt8) (arrivals : List Arrival) : Prop where
  own_ne_zero : own ≠ 0
  several : 2 ≤ total
  id_nonempty : 1 ≤ sequenceId.length
  id_fits : sequenceId.length ≤ aisMmsiFilterSeqIdMaxLen
  id_clean : ∀ b ∈ sequenceId, b ≠ 0 ∧ b ≠ ','.toUInt8 ∧ b ≠ '*'.toUInt8
  message : IsOwnMessage own total sequenceId [channel] (parts arrivals)
  others : ∀ arrival ∈ arrivals, arrival.part = false →
    IsOtherTraffic own total sequenceId [channel] arrival.frame

/-- The filter drops every fragment of the message. -/
def DropsEveryPart (filter : AisMmsiFilter) (arrivals : List Arrival) : Prop :=
  ∀ event ∈ trace (fun filter arrival => aisMmsiFilterShouldDrop filter arrival.frame)
    filter arrivals, event.1.part = true → event.2 = true

instance (filter : AisMmsiFilter) (arrivals : List Arrival) :
    Decidable (DropsEveryPart filter arrivals) :=
  inferInstanceAs (Decidable (∀ _ ∈ _, _))

/-! ## Waiting for the next fragment -/

section Waiting

variable {own : UInt32} {total channel : UInt8} {sequenceId : List UInt8} {k : ℕ}
  {filter : AisMmsiFilter} {frame : Frame}

/-- The filter has dropped the first `k` fragments. While more are to come it remembers
the message and which fragment is next. -/
structure Awaits (own : UInt32) (total : UInt8) (sequenceId : List UInt8) (channel : UInt8)
    (k : ℕ) (filter : AisMmsiFilter) : Prop where
  ownMmsi : filter.ownMmsi = own
  remembers : 1 ≤ k → k < total.toNat →
    filter.sequence.active = true ∧ filter.sequence.totalFragments = total ∧
      filter.sequence.nextFragment = UInt8.ofNat (k + 1) ∧
      filter.sequence.channel = channel ∧ filter.sequence.sequenceId.str = sequenceId

/-- A channel field that reads as a byte other than NUL is that byte. -/
theorem channel_eq_of_channelValue {field : List UInt8} (nonzero : channel ≠ 0)
    (reads : channelValue field = channel) : field = [channel] := by
  unfold channelValue at reads
  split_ifs at reads with single
  · obtain ⟨b, rfl⟩ := List.length_eq_one_iff.mp single
    simpa using reads
  · exact absurd reads.symm nonzero

/-- Other traffic leaves the filter waiting. -/
theorem Awaits.other (awaits : Awaits own total sequenceId channel k filter)
    (nonzero : channel ≠ 0)
    (other : IsOtherTraffic own total sequenceId [channel] frame) :
    Awaits own total sequenceId channel k (aisMmsiFilterShouldDrop filter frame).1 := by
  have unread (vdm : VdmFields) (parsed : parseVdm frame = some vdm) :=
    other vdm (parseVdm_eq_some_iff.mp parsed)
  rcases shouldDrop_cases filter frame with
    ⟨step, -⟩ | ⟨vdm, parsed, later, continues, step⟩ | ⟨vdm, parsed, isFirst, -, step⟩
  · rwa [step]
  · refine ⟨by rw [ownMmsi_shouldDrop, awaits.ownMmsi], fun started unfinished => ?_⟩
    -- While the message is remembered, only its own fragments match.
    obtain ⟨-, sameTotal, -, sameChannel, sameId⟩ := matches_iff.mp continues
    obtain ⟨-, total_eq, -, channel_eq, id_eq⟩ := awaits.remembers started unfinished
    exact absurd ⟨later, sameTotal.symm.trans total_eq, sameId.symm.trans id_eq,
      channel_eq_of_channelValue nonzero (sameChannel.symm.trans channel_eq)⟩
      (unread vdm parsed).2
  · rw [awaits.ownMmsi] at isFirst
    exact absurd isFirst (unread vdm parsed).1

/-- The first fragment is dropped and remembered. -/
theorem Awaits.first (awaits : Awaits own total sequenceId channel 0 filter) (active : own ≠ 0)
    (several : 2 ≤ total) (idNonempty : 1 ≤ sequenceId.length)
    (idFits : sequenceId.length ≤ aisMmsiFilterSeqIdMaxLen) (idClean : (0 : UInt8) ∉ sequenceId)
    {payload : List UInt8}
    (parsed : parseVdm frame = some (fragmentAt total sequenceId [channel] payload 0))
    (mine : decodeMmsi payload = some own) :
    (aisMmsiFilterShouldDrop filter frame).2 = true ∧
      Awaits own total sequenceId channel 1 (aisMmsiFilterShouldDrop filter frame).1 := by
  have isFirst : (fragmentAt total sequenceId [channel] payload 0).IsOwnFirst own := ⟨rfl, mine⟩
  rcases shouldDrop_cases filter frame with
    ⟨-, passes⟩ | ⟨vdm, parsed', later, -, -⟩ | ⟨vdm, parsed', -, -, step⟩
  · rw [awaits.ownMmsi] at passes
    exact absurd isFirst (passes.resolve_left active _ parsed).1
  · obtain rfl := Option.some.inj (parsed.symm.trans parsed')
    exact absurd later (by simp [fragmentAt])
  · obtain rfl := Option.some.inj (parsed.symm.trans parsed')
    rw [step]
    refine ⟨rfl, ?_, fun _ _ => ?_⟩
    · rw [startSequence]
      split_ifs <;> simp [awaits.ownMmsi]
    · -- The message is remembered: its id has room, and more fragments follow.
      have fits : ¬ (sequenceId.length = 0 ∨ aisMmsiFilterSeqIdMaxLen < sequenceId.length ∨
          total < 2) := by
        rintro (empty | long | single)
        · omega
        · omega
        · exact UInt8.not_lt.mpr several single
      have many : 1 < total := UInt8.lt_of_lt_of_le (by decide) several
      simp only [startSequence, fragmentAt, many, if_true, rememberSequence, fits, if_false,
        true_and]
      refine ⟨rfl, rfl, ?_⟩
      rw [CharArray.str_memcpy_terminated _ (by omega), content_eq_self idClean]

/-- The fragment waited for is dropped; the next one is waited for then. -/
theorem Awaits.later (awaits : Awaits own total sequenceId channel k filter) (active : own ≠ 0)
    (started : 1 ≤ k) (unfinished : k < total.toNat) {payload : List UInt8}
    (parsed : parseVdm frame = some (fragmentAt total sequenceId [channel] payload k)) :
    (aisMmsiFilterShouldDrop filter frame).2 = true ∧
      Awaits own total sequenceId channel (k + 1) (aisMmsiFilterShouldDrop filter frame).1 := by
  have totalBound := total.toNat_lt
  obtain ⟨isActive, total_eq, next_eq, channel_eq, id_eq⟩ := awaits.remembers started unfinished
  have number : (UInt8.ofNat (k + 1)).toNat = k + 1 := by
    simp
    omega
  have isLater : 1 < (fragmentAt total sequenceId [channel] payload k).fragment := by
    rw [UInt8.lt_iff_toNat_lt]
    simp only [fragmentAt, number]
    exact Nat.lt_add_of_pos_left started
  have continues : (fragmentAt total sequenceId [channel] payload k).matches filter.sequence =
      true :=
    matches_iff.mpr ⟨isActive, total_eq, next_eq, channel_eq, id_eq⟩
  rcases shouldDrop_cases filter frame with
    ⟨-, passes⟩ | ⟨vdm, -, -, -, step⟩ | ⟨vdm, parsed', isFirst, -, -⟩
  · rw [awaits.ownMmsi] at passes
    have unmatched := (passes.resolve_left active _ parsed).2 isLater
    rw [continues] at unmatched
    simp at unmatched
  · rw [step]
    refine ⟨rfl, awaits.ownMmsi, fun _ more => ?_⟩
    -- With another fragment to come the counter neither wraps nor passes the total.
    have next : filter.sequence.nextFragment + 1 = UInt8.ofNat (k + 1 + 1) := by
      rw [next_eq]
      simp
    have within : ¬ total < UInt8.ofNat (k + 1 + 1) := by
      rw [UInt8.lt_iff_toNat_lt]
      simp
      omega
    simp only [advanceSequence, next, total_eq, within, if_false, true_and]
    exact ⟨isActive, channel_eq, id_eq⟩
  · obtain rfl := Option.some.inj (parsed.symm.trans parsed')
    rw [isFirst.1] at isLater
    simp at isLater

end Waiting

/-! ## Whole messages -/

/-- From the fragment waited for on, everything that is left of the message is dropped. -/
theorem Awaits.dropsEveryPart {own : UInt32} {total channel : UInt8} {sequenceId : List UInt8}
    {fragments : List Frame} (active : own ≠ 0) (nonzero : channel ≠ 0) (several : 2 ≤ total)
    (idNonempty : 1 ≤ sequenceId.length)
    (idFits : sequenceId.length ≤ aisMmsiFilterSeqIdMaxLen) (idClean : (0 : UInt8) ∉ sequenceId)
    (message : IsOwnMessage own total sequenceId [channel] fragments) {k : ℕ}
    {filter : AisMmsiFilter} (awaits : Awaits own total sequenceId channel k filter)
    {arrivals : List Arrival} (left : parts arrivals = fragments.drop k)
    (others : ∀ arrival ∈ arrivals, arrival.part = false →
      IsOtherTraffic own total sequenceId [channel] arrival.frame) :
    DropsEveryPart filter arrivals := by
  induction arrivals generalizing k filter with
  | nil => simp [DropsEveryPart]
  | cons arrival rest ih =>
    have othersLeft := fun a (member : a ∈ rest) => others a (List.mem_cons_of_mem _ member)
    rw [DropsEveryPart, trace, List.forall_mem_cons]
    cases marked : arrival.part with
    | false =>
      -- No fragment of the message: the filter keeps waiting for the same one.
      have still := awaits.other nonzero (others arrival (by simp) marked)
      refine ⟨fun isPart => by simp at isPart, ih still ?_ othersLeft⟩
      simpa [parts, marked] using left
    | true =>
      have here : fragments.drop k = arrival.frame :: parts rest := by
        simpa [parts, marked] using left.symm
      have found : fragments[k]? = some arrival.frame := by
        rw [← List.head?_drop, here]
        rfl
      have unfinished : k < total.toNat := by
        rw [← message.1]
        exact (List.getElem?_eq_some_iff.mp found).1
      obtain ⟨payload, sentence, mine⟩ := message.2 k _ found
      have parsed := parseVdm_eq_some_iff.mpr sentence
      have step : (aisMmsiFilterShouldDrop filter arrival.frame).2 = true ∧
          Awaits own total sequenceId channel (k + 1)
            (aisMmsiFilterShouldDrop filter arrival.frame).1 := by
        cases k with
        | zero => exact awaits.first active several idNonempty idFits idClean parsed (mine rfl)
        | succ k => exact awaits.later active (by omega) unfinished parsed
      refine ⟨fun _ => step.1, ih step.2 ?_ othersLeft⟩
      rw [← List.tail_drop, here]
      rfl

/-- Whatever the filter remembers when the first fragment arrives, an own message on
a channel other than the NUL byte is dropped completely. -/
theorem ownMessage_dropped_completely {own : UInt32} {total : UInt8} {sequenceId : List UInt8}
    {channel : UInt8} {arrivals : List Arrival}
    (arrives : OwnMessageArrives own total sequenceId channel arrivals) (nonzero : channel ≠ 0)
    (filter : AisMmsiFilter) (configured : filter.ownMmsi = own) :
    DropsEveryPart filter arrivals := by
  have idle : Awaits own total sequenceId channel 0 filter :=
    ⟨configured, fun started => absurd started (by decide)⟩
  exact idle.dropsEveryPart arrives.own_ne_zero nonzero arrives.several arrives.id_nonempty
    arrives.id_fits (fun member => (arrives.id_clean 0 member).1 rfl) arrives.message rfl
    arrives.others

/-- Two fragments of a message with another frame between them. -/
def interrupted (first between second : Frame) : List Arrival :=
  [⟨first, true⟩, ⟨between, false⟩, ⟨second, true⟩]

/-- An own message of two fragments and a later fragment of another channel field. -/
theorem interrupted_arrives (first between second : Frame) (channel : UInt8)
    (payload payload' : List UInt8) (other : VdmFields)
    (parsedFirst : parseVdm first = some (fragmentAt 2 (ascii "7") [channel] payload 0))
    (parsedBetween : parseVdm between = some other)
    (parsedSecond : parseVdm second = some (fragmentAt 2 (ascii "7") [channel] payload' 1))
    (mine : decodeMmsi payload = some 123456789) (later : 1 < other.fragment)
    (elsewhere : other.channel ≠ [channel]) :
    OwnMessageArrives 123456789 2 (ascii "7") channel (interrupted first between second) where
  own_ne_zero := by decide
  several := by decide
  id_nonempty := by decide
  id_fits := by decide
  id_clean := by decide +kernel
  message := by
    refine ⟨rfl, fun k frame found => ?_⟩
    match k, found with
    | 0, found =>
      obtain rfl := Option.some.inj found
      exact ⟨payload, parseVdm_eq_some_iff.mp parsedFirst, fun _ => mine⟩
    | 1, found =>
      obtain rfl := Option.some.inj found
      exact ⟨payload', parseVdm_eq_some_iff.mp parsedSecond, by simp⟩
  others := by
    intro arrival member unmarked vdm sentence
    -- The frame between the two is the only unmarked one.
    obtain rfl : arrival = ⟨between, false⟩ := by
      simp only [interrupted, List.mem_cons, List.not_mem_nil, or_false] at member
      rcases member with rfl | rfl | rfl
      · simp at unmarked
      · rfl
      · simp at unmarked
    obtain rfl := Option.some.inj (parsedBetween.symm.trans (parseVdm_eq_some_iff.mpr sentence))
    exact ⟨fun isFirst => by simp [isFirst.1] at later, fun same => elsewhere same.2.2.2⟩

/-- A fragment of another vessel on channel A between the own fragments on channel B. -/
theorem ownMessage_dropped_completely_channelB :
    DropsEveryPart (aisMmsiFilterInit 123456789)
      (interrupted (ascii "!AIVDM,2,1,7,B,11mg=5@ABCDE,0*12")
        (ascii "!AIVDM,2,2,7,A,BBBBBB,0*11") (ascii "!AIVDM,2,2,7,B,BBBBBB,0*12")) :=
  ownMessage_dropped_completely
    (interrupted_arrives _ _ _ 'B'.toUInt8 (ascii "11mg=5@ABCDE") (ascii "BBBBBB")
      ⟨2, 2, ascii "7", ascii "A", ascii "BBBBBB"⟩
      (by decide) (by decide) (by decide) (by decide) (by decide) (by decide))
    (by decide) _ rfl

/-- On a channel that is the NUL byte, a fragment without a channel is taken for the own
second fragment, which then passes. -/
theorem channelless_fragment_taken :
    ¬ ∀ (own : UInt32) (total : UInt8) (sequenceId : List UInt8) (channel : UInt8)
      (arrivals : List Arrival), OwnMessageArrives own total sequenceId channel arrivals →
        ∀ filter : AisMmsiFilter, filter.ownMmsi = own → DropsEveryPart filter arrivals := by
  intro always
  have arrives := interrupted_arrives (ascii "!AIVDM,2,1,7,\x00,11mg=5@ABCDE,0*50")
    (ascii "!AIVDM,2,2,7,,BBBBBB,0*50") (ascii "!AIVDM,2,2,7,\x00,BBBBBB,0*50") 0
    (ascii "11mg=5@ABCDE") (ascii "BBBBBB") ⟨2, 2, ascii "7", [], ascii "BBBBBB"⟩
    (by decide) (by decide) (by decide) (by decide) (by decide) (by decide)
  have dropped := always _ _ _ _ _ arrives (aisMmsiFilterInit 123456789) rfl
  exact absurd dropped (by decide)

end EspNmeaBridge
