/-
# How exact the framing is

The lines of the received stream are its segments at newlines. The reader is
compared with them at every point of a run: the frames handed to the filter
should be the lines that fit the buffer, and the counters should count those and
the lines that outgrew it.

A newline that itself overflows the buffer closes a line, but the reader still
waits for one and discards whatever comes up to the next newline. Lines of one
byte too many are therefore the only ones that cost their successor, and the
framing is exact as long as no such line has a successor.
-/

import EspNmeaBridge.Lib.Delimited
import EspNmeaBridge.Lib.Machine
import EspNmeaBridge.UartNmea

namespace EspNmeaBridge

open Delimited Machine

/-- The received bytes of a run. -/
def receivedBytes (events : List UartRxEvent) : List UInt8 :=
  events.filterMap fun
    | .byte ch => some ch
    | .applyAisConfig _ => none

/-- The reader after a run from its start. -/
def rxAfter (cfg : Kconfig) (events : List UartRxEvent) : UartRx cfg :=
  stateAfter uartRxStep uartRxInit events

/-- The frames handed to the filter in a run, each with its verdict. -/
def handedFrames (cfg : Kconfig) (events : List UartRxEvent) : List (Frame × Bool) :=
  (answers uartRxStep (uartRxInit : UartRx cfg) events).reduceOption

/-- The complete lines that fit the frame buffer. -/
def acceptedLines (cfg : Kconfig) (stream : List UInt8) : List Frame :=
  (segments newline stream).filter fun line => line.length ≤ cfg.nmeaFrameMaxLen

/-- How many lines have exceeded the maximum, the incomplete one included. -/
def overlongCount (cfg : Kconfig) (stream : List UInt8) : ℕ :=
  (segments newline stream).countP (fun line => cfg.nmeaFrameMaxLen < line.length) +
    if cfg.nmeaFrameMaxLen < (remainder newline stream).length then 1 else 0

/-- Frames and counters are what the lines of the stream say. -/
structure FramingExact (cfg : Kconfig) (events : List UartRxEvent) : Prop where
  frames : (handedFrames cfg events).map Prod.fst = acceptedLines cfg (receivedBytes events)
  framesRx : (rxAfter cfg events).stats.framesRx =
    UInt32.ofNat (acceptedLines cfg (receivedBytes events)).length
  overlongFrames : (rxAfter cfg events).stats.overlongFrames =
    UInt32.ofNat (overlongCount cfg (receivedBytes events))

/-- No line of one byte too many is followed by another line, or by more bytes than
a line may have. -/
def NoLineSwallowed (cfg : Kconfig) (stream : List UInt8) : Prop :=
  (∀ line ∈ (segments newline stream).dropLast, line.length ≠ cfg.nmeaFrameMaxLen + 1) ∧
    ∀ line ∈ (segments newline stream).getLast?, line.length = cfg.nmeaFrameMaxLen + 1 →
      (remainder newline stream).length ≤ cfg.nmeaFrameMaxLen

instance (cfg : Kconfig) (stream : List UInt8) : Decidable (NoLineSwallowed cfg stream) :=
  inferInstanceAs (Decidable (_ ∧ _))

/-! ## The stream grows by one byte -/

section Stream

variable {cfg : Kconfig} {stream : List UInt8} {ch : UInt8}

theorem acceptedLines_snoc_newline (cfg : Kconfig) (stream : List UInt8) :
    acceptedLines cfg (stream ++ [newline]) = acceptedLines cfg stream ++
      if (remainder newline stream).length < cfg.nmeaFrameMaxLen then
        [remainder newline stream ++ [newline]] else [] := by
  simp only [acceptedLines, segments_snoc_delimiter, List.filter_append]
  congr 1
  split_ifs with fits
  · simpa [Nat.succ_le_iff] using fits
  · simpa [Nat.lt_succ_iff] using fits

/-- A byte that completes no line, or one that does not fit, adds no accepted line. -/
theorem acceptedLines_snoc_eq
    (unfit : ch = newline → cfg.nmeaFrameMaxLen ≤ (remainder newline stream).length) :
    acceptedLines cfg (stream ++ [ch]) = acceptedLines cfg stream := by
  by_cases closes : ch = newline
  · subst closes
    rw [acceptedLines_snoc_newline, if_neg (unfit rfl).not_gt, List.append_nil]
  · rw [acceptedLines, segments_snoc_of_ne _ closes, acceptedLines]

/-- Whichever byte it is, the one that no longer fits makes its line overlong. -/
theorem overlongCount_snoc (cfg : Kconfig) (stream : List UInt8) (ch : UInt8) :
    overlongCount cfg (stream ++ [ch]) = overlongCount cfg stream +
      if (remainder newline stream).length = cfg.nmeaFrameMaxLen then 1 else 0 := by
  by_cases closes : ch = newline
  · subst closes
    simp only [overlongCount, segments_snoc_delimiter, remainder_snoc_delimiter,
      List.countP_append, List.countP_singleton, List.length_append, List.length_singleton,
      List.length_nil, decide_eq_true_eq]
    split_ifs <;> omega
  · simp only [overlongCount, segments_snoc_of_ne _ closes, remainder_snoc_of_ne _ closes,
      List.length_append, List.length_singleton]
    split_ifs <;> omega

theorem noLineSwallowed_snoc_newline :
    NoLineSwallowed cfg (stream ++ [newline]) ↔
      ∀ line ∈ segments newline stream, line.length ≠ cfg.nmeaFrameMaxLen + 1 := by
  simp [NoLineSwallowed]

theorem noLineSwallowed_snoc_of_ne (other : ch ≠ newline) :
    NoLineSwallowed cfg (stream ++ [ch]) ↔
      (∀ line ∈ (segments newline stream).dropLast, line.length ≠ cfg.nmeaFrameMaxLen + 1) ∧
        ∀ line ∈ (segments newline stream).getLast?, line.length = cfg.nmeaFrameMaxLen + 1 →
          (remainder newline stream).length < cfg.nmeaFrameMaxLen := by
  simp [NoLineSwallowed, segments_snoc_of_ne _ other, remainder_snoc_of_ne _ other]

/-- A swallowed line stays swallowed. -/
theorem NoLineSwallowed.of_snoc (kept : NoLineSwallowed cfg (stream ++ [ch])) :
    NoLineSwallowed cfg stream := by
  by_cases closes : ch = newline
  · subst closes
    rw [noLineSwallowed_snoc_newline] at kept
    exact ⟨fun line member => kept line (List.mem_of_mem_dropLast member),
      fun line last tooLong => absurd tooLong (kept line (List.mem_of_getLast? last))⟩
  · obtain ⟨inner, last⟩ := (noLineSwallowed_snoc_of_ne closes).mp kept
    exact ⟨inner, fun line member tooLong => (last line member tooLong).le⟩

/-- After a line of any other length the next byte cannot belong to a swallowed line. -/
theorem NoLineSwallowed.snoc (kept : NoLineSwallowed cfg stream)
    (last : ∀ line ∈ (segments newline stream).getLast?,
      line.length ≠ cfg.nmeaFrameMaxLen + 1) :
    NoLineSwallowed cfg (stream ++ [ch]) := by
  by_cases closes : ch = newline
  · subst closes
    rw [noLineSwallowed_snoc_newline]
    intro line member
    -- The line that was last so far gets a successor; the others had one before.
    rcases List.eq_nil_or_concat (segments newline stream) with none_yet | ⟨front, final, split⟩
    · simp [none_yet] at member
    · obtain ⟨inner, -⟩ := kept
      simp only [split, List.concat_eq_append] at member inner last
      rcases List.mem_append.mp member with earlier | latest
      · exact inner line (by simpa using earlier)
      · exact last line (by simpa [eq_comm] using latest)
  · exact (noLineSwallowed_snoc_of_ne closes).mpr
      ⟨kept.1, fun line member tooLong => absurd tooLong (last line member)⟩

end Stream

/-! ## The reader follows the stream -/

section Tracks

variable {cfg : Kconfig} {stream : List UInt8}

/-- What the reader's mode says about the stream, while no line was swallowed. -/
inductive RxMode (stream : List UInt8) (rx : UartRx cfg) : Prop where
  /-- The buffer holds the bytes of the incomplete line. -/
  | collecting (collecting : rx.droppingOverlong = false)
      (frame : rx.frame = remainder newline stream)
      (last : ∀ line ∈ (segments newline stream).getLast?,
        line.length ≠ cfg.nmeaFrameMaxLen + 1)
  /-- The incomplete line has outgrown the buffer and was counted. -/
  | overlong (dropping : rx.droppingOverlong = true)
      (exceeds : cfg.nmeaFrameMaxLen < (remainder newline stream).length)
      (last : ∀ line ∈ (segments newline stream).getLast?,
        line.length ≠ cfg.nmeaFrameMaxLen + 1)
  /-- The line that outgrew the buffer is complete; the bytes since are discarded. -/
  | swallowing (dropping : rx.droppingOverlong = true)
      (fits : (remainder newline stream).length ≤ cfg.nmeaFrameMaxLen) (line : Frame)
      (last : (segments newline stream).getLast? = some line)
      (tooLong : line.length = cfg.nmeaFrameMaxLen + 1)

/-- The reader is where the stream says, with exact frames and counters. -/
structure Tracks (stream : List UInt8) (handed : List Frame) (rx : UartRx cfg) : Prop where
  frames : handed = acceptedLines cfg stream
  framesRx : rx.stats.framesRx = UInt32.ofNat (acceptedLines cfg stream).length
  overlongFrames : rx.stats.overlongFrames = UInt32.ofNat (overlongCount cfg stream)
  mode : RxMode stream rx

/-- The frame an answer hands to the filter, if any. -/
def handedFrame (answer : Option (Frame × Bool)) : List Frame := (answer.map Prod.fst).toList

variable {handed : List Frame} {rx : UartRx cfg}

private theorem ofNat_succ (n : ℕ) : UInt32.ofNat (n + 1) = UInt32.ofNat n + 1 := by
  simp [UInt32.ofNat_add]

/-- A byte that hands over no frame keeps the reader right when the stream gains no
accepted line, the overflow is counted and the mode fits. -/
theorem Tracks.unanswered {ch : UInt8} (tracks : Tracks stream handed rx)
    (answer : (uartRxByte rx ch).2 = none)
    (framesRx : (uartRxByte rx ch).1.stats.framesRx = rx.stats.framesRx)
    (unfit : ch = newline → cfg.nmeaFrameMaxLen ≤ (remainder newline stream).length)
    (overlongFrames : (uartRxByte rx ch).1.stats.overlongFrames = rx.stats.overlongFrames +
      if (remainder newline stream).length = cfg.nmeaFrameMaxLen then 1 else 0)
    (mode : RxMode (stream ++ [ch]) (uartRxByte rx ch).1) :
    Tracks (stream ++ [ch]) (handed ++ handedFrame (uartRxByte rx ch).2)
      (uartRxByte rx ch).1 := by
  have sameAccepted := acceptedLines_snoc_eq unfit
  refine ⟨?_, ?_, ?_, mode⟩
  · rw [sameAccepted, answer, tracks.frames]
    exact List.append_nil _
  · rw [sameAccepted, framesRx, tracks.framesRx]
  · rw [overlongCount_snoc, overlongFrames, tracks.overlongFrames]
    split_ifs
    · rw [ofNat_succ]
    · simp

/-- A newline that finds room completes an accepted line. -/
theorem Tracks.byte_newline (tracks : Tracks stream handed rx)
    (collecting : rx.droppingOverlong = false) (frame : rx.frame = remainder newline stream)
    (room : rx.frame.length < cfg.nmeaFrameMaxLen) :
    Tracks (stream ++ [newline]) (handed ++ handedFrame (uartRxByte rx newline).2)
      (uartRxByte rx newline).1 := by
  have shorter : (remainder newline stream).length < cfg.nmeaFrameMaxLen := frame ▸ room
  obtain ⟨answer, framesRx, overlongFrames, dropping, emptied⟩ :=
    uartRxByte_newline rx collecting room
  have oneMore := acceptedLines_snoc_newline cfg stream
  rw [if_pos shorter] at oneMore
  refine ⟨?_, ?_, ?_, .collecting dropping ?_ ?_⟩
  · rw [oneMore, answer, frame, tracks.frames]
    rfl
  · rw [oneMore, framesRx, tracks.framesRx, List.length_append, List.length_singleton, ofNat_succ]
  · rw [overlongCount_snoc, if_neg shorter.ne, Nat.add_zero, overlongFrames,
      tracks.overlongFrames]
  · rw [emptied, remainder_snoc_delimiter]
  · rw [segments_snoc_delimiter]
    simp [shorter.ne]

/-- Any other byte that finds room extends the incomplete line. -/
theorem Tracks.byte_store (tracks : Tracks stream handed rx)
    (collecting : rx.droppingOverlong = false) (frame : rx.frame = remainder newline stream)
    (last : ∀ line ∈ (segments newline stream).getLast?, line.length ≠ cfg.nmeaFrameMaxLen + 1)
    (room : rx.frame.length < cfg.nmeaFrameMaxLen) {ch : UInt8} (other : ch ≠ newline) :
    Tracks (stream ++ [ch]) (handed ++ handedFrame (uartRxByte rx ch).2)
      (uartRxByte rx ch).1 := by
  have shorter : (remainder newline stream).length < cfg.nmeaFrameMaxLen := frame ▸ room
  obtain ⟨answer, framesRx, overlongFrames, dropping, stored⟩ :=
    uartRxByte_store rx collecting room other
  refine tracks.unanswered answer framesRx (absurd · other) ?_ (.collecting dropping ?_ ?_)
  · rw [if_neg shorter.ne, overlongFrames, UInt32.add_zero]
  · rw [stored, frame, remainder_snoc_of_ne _ other]
  · rwa [segments_snoc_of_ne _ other]

/-- The byte that outgrows the buffer is counted. If it is a newline its line is
complete, and the reader starts discarding the next one. -/
theorem Tracks.byte_full (tracks : Tracks stream handed rx)
    (collecting : rx.droppingOverlong = false) (frame : rx.frame = remainder newline stream)
    (last : ∀ line ∈ (segments newline stream).getLast?, line.length ≠ cfg.nmeaFrameMaxLen + 1)
    (full : rx.frame.length = cfg.nmeaFrameMaxLen) (ch : UInt8) :
    Tracks (stream ++ [ch]) (handed ++ handedFrame (uartRxByte rx ch).2)
      (uartRxByte rx ch).1 := by
  have asLong : (remainder newline stream).length = cfg.nmeaFrameMaxLen := frame ▸ full
  obtain ⟨answer, framesRx, overlongFrames, dropping, -⟩ := uartRxByte_full rx collecting full ch
  refine tracks.unanswered answer framesRx (fun _ => asLong.ge) ?_ ?_
  · rw [if_pos asLong, overlongFrames]
  · by_cases closes : ch = newline
    · subst closes
      exact .swallowing dropping (by simp) (remainder newline stream ++ [newline]) (by simp)
        (by simp [asLong])
    · refine .overlong dropping ?_ ?_
      · simp [remainder_snoc_of_ne _ closes, asLong]
      · rwa [segments_snoc_of_ne _ closes]

/-- The bytes of an overlong line are discarded up to its newline. -/
theorem Tracks.byte_overlong (tracks : Tracks stream handed rx)
    (dropping : rx.droppingOverlong = true)
    (exceeds : cfg.nmeaFrameMaxLen < (remainder newline stream).length)
    (last : ∀ line ∈ (segments newline stream).getLast?, line.length ≠ cfg.nmeaFrameMaxLen + 1)
    (ch : UInt8) :
    Tracks (stream ++ [ch]) (handed ++ handedFrame (uartRxByte rx ch).2)
      (uartRxByte rx ch).1 := by
  obtain ⟨answer, framesRx, overlongFrames, stillDropping, frame⟩ :=
    uartRxByte_dropping rx dropping ch
  refine tracks.unanswered answer framesRx (fun _ => exceeds.le) ?_ ?_
  · rw [if_neg exceeds.ne', overlongFrames, UInt32.add_zero]
  · by_cases closes : ch = newline
    · subst closes
      refine .collecting (by simpa using stillDropping) (by simpa using frame) ?_
      simp [exceeds.ne']
    · refine .overlong (by simpa [closes] using stillDropping) ?_ ?_
      · rw [remainder_snoc_of_ne _ closes, List.length_append]
        omega
      · rwa [segments_snoc_of_ne _ closes]

/-- While a line that would have fitted is discarded, nothing is missing yet. -/
theorem Tracks.byte_swallowing (tracks : Tracks stream handed rx)
    (dropping : rx.droppingOverlong = true) {line : Frame}
    (last : (segments newline stream).getLast? = some line)
    (tooLong : line.length = cfg.nmeaFrameMaxLen + 1) {ch : UInt8} (other : ch ≠ newline)
    (fits : (remainder newline stream).length < cfg.nmeaFrameMaxLen) :
    Tracks (stream ++ [ch]) (handed ++ handedFrame (uartRxByte rx ch).2)
      (uartRxByte rx ch).1 := by
  obtain ⟨answer, framesRx, overlongFrames, stillDropping, -⟩ :=
    uartRxByte_dropping rx dropping ch
  refine tracks.unanswered answer framesRx (absurd · other) ?_
    (.swallowing (by simpa [other] using stillDropping) ?_ line ?_ tooLong)
  · rw [if_neg fits.ne, overlongFrames, UInt32.add_zero]
  · rw [remainder_snoc_of_ne _ other, List.length_append, List.length_singleton]
    exact fits
  · rwa [segments_snoc_of_ne _ other]

/-- One byte later the reader is still right, unless the byte belongs to a line the
reader cannot keep. -/
theorem Tracks.byte {ch : UInt8} (tracks : Tracks stream handed rx)
    (kept : NoLineSwallowed cfg (stream ++ [ch])) :
    Tracks (stream ++ [ch]) (handed ++ handedFrame (uartRxByte rx ch).2)
      (uartRxByte rx ch).1 := by
  cases tracks.mode with
  | collecting collecting frame last =>
    rcases rx.frame_fits.lt_or_eq with room | full
    · by_cases closes : ch = newline
      · subst closes
        exact tracks.byte_newline collecting frame room
      · exact tracks.byte_store collecting frame last room closes
    · exact tracks.byte_full collecting frame last full ch
  | overlong dropping exceeds last => exact tracks.byte_overlong dropping exceeds last ch
  | swallowing dropping fits line last tooLong =>
    have other : ch ≠ newline := by
      rintro rfl
      exact noLineSwallowed_snoc_newline.mp kept line (List.mem_of_getLast? last) tooLong
    have room := ((noLineSwallowed_snoc_of_ne other).mp kept).2 line last tooLong
    exact tracks.byte_swallowing dropping last tooLong other room

/-- On the byte with which a line is swallowed, a frame or a count goes missing. -/
theorem Tracks.byte_lost {ch : UInt8} (tracks : Tracks stream handed rx)
    (kept : NoLineSwallowed cfg stream) (lost : ¬ NoLineSwallowed cfg (stream ++ [ch])) :
    handed ++ handedFrame (uartRxByte rx ch).2 ≠ acceptedLines cfg (stream ++ [ch]) ∨
      (uartRxByte rx ch).1.stats.overlongFrames ≠
        UInt32.ofNat (overlongCount cfg (stream ++ [ch])) := by
  have swallowed : rx.droppingOverlong = true ∧
      (remainder newline stream).length ≤ cfg.nmeaFrameMaxLen := by
    cases tracks.mode with
    | collecting _ _ last => exact absurd (kept.snoc last) lost
    | overlong _ _ last => exact absurd (kept.snoc last) lost
    | swallowing dropping fits => exact ⟨dropping, fits⟩
  obtain ⟨dropping, fits⟩ := swallowed
  obtain ⟨answer, -, overlongFrames, -⟩ := uartRxByte_dropping rx dropping ch
  rcases fits.lt_or_eq with shorter | asLong
  · -- the line ends here, or it could still be kept
    have closes : ch = newline := by
      by_contra other
      exact lost ((noLineSwallowed_snoc_of_ne other).mpr ⟨kept.1, fun _ _ _ => shorter⟩)
    subst closes
    left
    rw [answer, acceptedLines_snoc_newline, if_pos shorter, tracks.frames]
    intro same
    simpa [handedFrame] using congrArg List.length same
  · right
    rw [overlongFrames, tracks.overlongFrames, overlongCount_snoc, if_pos asLong, ofNat_succ]
    simp

/-- Reading the AIS setting is invisible to the framing. -/
theorem Tracks.applyAisConfig (tracks : Tracks stream handed rx) (mmsi : UInt32) :
    Tracks stream handed (applyAisConfigIfChanged rx mmsi) := by
  refine ⟨tracks.frames, ?_, ?_, ?_⟩
  · rw [stats_applyAisConfigIfChanged, tracks.framesRx]
  · rw [stats_applyAisConfigIfChanged, tracks.overlongFrames]
  · cases tracks.mode with
    | collecting collecting frame last =>
      exact .collecting (by simpa using collecting) (by simpa using frame) last
    | overlong dropping exceeds last => exact .overlong (by simpa using dropping) exceeds last
    | swallowing dropping fits line last tooLong =>
      exact .swallowing (by simpa using dropping) fits line last tooLong

end Tracks

/-! ## Runs -/

section Runs

variable {cfg : Kconfig} {events : List UartRxEvent}

@[simp] theorem receivedBytes_snoc_byte (ch : UInt8) :
    receivedBytes (events ++ [.byte ch]) = receivedBytes events ++ [ch] := by
  simp [receivedBytes]

@[simp] theorem receivedBytes_snoc_applyAisConfig (mmsi : UInt32) :
    receivedBytes (events ++ [.applyAisConfig mmsi]) = receivedBytes events := by
  simp [receivedBytes]

@[simp] theorem rxAfter_snoc (event : UartRxEvent) :
    rxAfter cfg (events ++ [event]) = (uartRxStep (rxAfter cfg events) event).1 :=
  stateAfter_snoc _ _ _ _

theorem handedFrames_snoc (event : UartRxEvent) :
    (handedFrames cfg (events ++ [event])).map Prod.fst =
      (handedFrames cfg events).map Prod.fst ++
        handedFrame (uartRxStep (rxAfter cfg events) event).2 := by
  rw [handedFrames, answers_snoc, List.reduceOption_append, List.map_append]
  change _ ++ ([(uartRxStep (rxAfter cfg events) event).2].reduceOption).map Prod.fst = _
  cases (uartRxStep (rxAfter cfg events) event).2 <;> rfl

/-- As long as no line is swallowed, the reader tracks the stream. -/
theorem tracks_rxAfter (kept : NoLineSwallowed cfg (receivedBytes events)) :
    Tracks (receivedBytes events) ((handedFrames cfg events).map Prod.fst)
      (rxAfter cfg events) := by
  induction events using List.reverseRecOn with
  | nil => exact ⟨rfl, rfl, rfl, .collecting rfl rfl (by simp [receivedBytes])⟩
  | append_singleton events event ih =>
    rw [handedFrames_snoc, rxAfter_snoc]
    cases event with
    | applyAisConfig mmsi =>
      rw [receivedBytes_snoc_applyAisConfig] at kept ⊢
      simpa [uartRxStep, handedFrame] using (ih kept).applyAisConfig mmsi
    | byte ch =>
      rw [receivedBytes_snoc_byte] at kept ⊢
      -- What the whole stream has not swallowed, its beginning has not.
      exact (ih kept.of_snoc).byte kept

theorem Tracks.framingExact
    (tracks : Tracks (receivedBytes events) ((handedFrames cfg events).map Prod.fst)
      (rxAfter cfg events)) : FramingExact cfg events :=
  ⟨tracks.frames, tracks.framesRx, tracks.overlongFrames⟩

/-- A run whose every moment is exact has swallowed no line. -/
theorem noLineSwallowed_of_exact
    (exact : ∀ earlier, earlier <+: events → FramingExact cfg earlier) :
    NoLineSwallowed cfg (receivedBytes events) := by
  induction events using List.reverseRecOn with
  | nil => simp [NoLineSwallowed, receivedBytes]
  | append_singleton events event ih =>
    have kept := ih fun earlier before => exact earlier (before.trans (List.prefix_append _ _))
    have now := exact _ (List.prefix_refl _)
    cases event with
    | applyAisConfig mmsi => rwa [receivedBytes_snoc_applyAisConfig]
    | byte ch =>
      rw [receivedBytes_snoc_byte]
      -- The first byte that swallows a line shows in the frames or in the counter.
      by_contra lost
      obtain ⟨frames, -, overlongFrames⟩ := now
      rw [handedFrames_snoc, receivedBytes_snoc_byte] at frames
      rw [rxAfter_snoc, receivedBytes_snoc_byte] at overlongFrames
      exact ((tracks_rxAfter kept).byte_lost kept lost).elim (· frames) (· overlongFrames)

end Runs

/-- The framing is exact at every moment of a run if and only if no line of one byte
too many is followed by another line, or by more bytes than a line may have. -/
theorem framingExact_iff (cfg : Kconfig) (events : List UartRxEvent) :
    (∀ earlier, earlier <+: events → FramingExact cfg earlier) ↔
      NoLineSwallowed cfg (receivedBytes events) := by
  refine ⟨noLineSwallowed_of_exact, fun kept earlier before => ?_⟩
  refine (tracks_rxAfter ?_).framingExact
  obtain ⟨later, rfl⟩ := before
  induction later using List.reverseRecOn with
  | nil => rwa [List.append_nil] at kept
  | append_singleton later event ih =>
    rw [← List.append_assoc] at kept
    cases event with
    | applyAisConfig mmsi =>
      exact ih (by rwa [receivedBytes_snoc_applyAisConfig] at kept)
    | byte ch =>
      rw [receivedBytes_snoc_byte] at kept
      exact ih kept.of_snoc

/-- With the buffer of `prj.conf`, the good line after a line of 129 bytes is lost. -/
theorem framing_inexact :
    ¬ ∀ events : List UartRxEvent, FramingExact prjConf events := by
  intro exact
  have lost := (exact ((List.replicate 128 0x41 ++ [newline, 0x42, newline]).map .byte)).frames
  exact absurd lost (by decide +kernel)

end EspNmeaBridge
