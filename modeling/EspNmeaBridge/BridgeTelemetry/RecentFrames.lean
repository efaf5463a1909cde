/-
# Active input and recent frames

Input should be reported active only if a frame was accepted within the window before. The
telemetry does not see the frames: at a poll it sees that their number has changed, and it
takes the time of the poll for that of the frame. What it reports is the time since a change
was noticed, so frames noticed late look recent, and after a long pause the first poll finds
input active.

A report is wrong exactly when the poll comes after the window of the newest frame, but not
after the window of the poll that noticed it.
-/

import EspNmeaBridge.BridgeTelemetry
import EspNmeaBridge.Lib.History
import EspNmeaBridge.Lib.Machine

namespace EspNmeaBridge

open CString History

/-! ## Runs -/

/-- Times are in milliseconds since boot. -/
inductive TelemetryEvent where
  /-- The bridge accepts a frame. -/
  | frame (timeMs : ℕ)
  /-- A snapshot is built; the inputs come with the bridge's own count of frames. -/
  | poll (timeMs : ℕ) (inputs : BridgeTelemetryInputs)
  deriving DecidableEq

def TelemetryEvent.timeMs : TelemetryEvent → ℕ
  | .frame timeMs => timeMs
  | .poll timeMs _ => timeMs

def TimesOrdered (events : List TelemetryEvent) : Prop :=
  events.Pairwise fun earlier later => earlier.timeMs ≤ later.timeMs

/-- Frames and polls in any order, at times that do not decrease. -/
structure TelemetryTimeline where
  events : List TelemetryEvent
  ordered : TimesOrdered events

/-- The frame count of the bridge, and what the telemetry notes. -/
structure TelemetryWorld where
  framesIn : UInt32
  telemetry : BridgeTelemetryState
  deriving DecidableEq

def telemetryStep (world : TelemetryWorld) :
    TelemetryEvent → TelemetryWorld × Option BridgeTelemetrySnapshot
  | .frame _ => ({ world with framesIn := world.framesIn + 1 }, none)
  | .poll timeMs inputs =>
    let counters := { inputs.counters with bridgeFramesIn := world.framesIn }
    let (telemetry, snapshot) :=
      bridgeTelemetryBuildSnapshot world.telemetry { inputs with counters := counters } timeMs
    ({ world with telemetry := telemetry }, some snapshot)

/-- After boot and these events. -/
def telemetryAfter (events : List TelemetryEvent) : TelemetryWorld :=
  Machine.stateAfter telemetryStep ⟨0, ⟨0, 0, false⟩⟩ events

/-- A frame was accepted within the window that ends at this time. -/
def AcceptedRecently (events : List TelemetryEvent) (nowMs : ℕ) : Prop :=
  ∃ timeMs, .frame timeMs ∈ events ∧ timeMs ≤ nowMs ∧
    (nowMs : ℤ) - timeMs ≤ bridgeTelemetryNmeaInputWindowMs

/-- A snapshot that reports active input has a recent frame. -/
def ActiveIsRecent (earlier : List TelemetryEvent) (event : TelemetryEvent) : Prop :=
  ∀ snapshot, (telemetryStep (telemetryAfter earlier) event).2 = some snapshot →
    snapshot.inputState = .active → AcceptedRecently earlier event.timeMs

/-! ## What the polls notice -/

def frameTime : TelemetryEvent → Option ℕ
  | .frame timeMs => some timeMs
  | .poll _ _ => none

def pollTime : TelemetryEvent → Option ℕ
  | .frame _ => none
  | .poll timeMs _ => some timeMs

def newestFrame (events : List TelemetryEvent) : Option ℕ := (since frameTime events).map Prod.fst

/-- How many frames no poll has seen yet. -/
def framesSincePoll (events : List TelemetryEvent) : ℕ :=
  match since pollTime events with
  | none => events.length
  | some (_, frames) => frames.length

/-- The time of the latest poll at which the count had changed: new frames, and not a
multiple of `2 ^ 32` of them. The newest event comes first. -/
def noticedAtFrom : List TelemetryEvent → Option ℕ
  | [] => none
  | .frame _ :: earlier => noticedAtFrom earlier
  | .poll timeMs _ :: earlier =>
    if framesSincePoll earlier.reverse % 2 ^ 32 = 0 then noticedAtFrom earlier else some timeMs

def noticedAt (events : List TelemetryEvent) : Option ℕ := noticedAtFrom events.reverse

/-- The poll does not come after the window of the newest frame but within that of the poll
that noticed it. -/
def NotTooLate (earlier : List TelemetryEvent) (event : TelemetryEvent) : Prop :=
  pollTime event ≠ none → ∀ frameMs noticedMs, newestFrame earlier = some frameMs →
    noticedAt (earlier ++ [event]) = some noticedMs →
    ¬ ((frameMs : ℤ) + bridgeTelemetryNmeaInputWindowMs < event.timeMs ∧
      event.timeMs ≤ noticedMs + bridgeTelemetryNmeaInputWindowMs)

section OneMore

variable {events : List TelemetryEvent} {timeMs : ℕ} {inputs : BridgeTelemetryInputs}

@[simp] theorem framesSincePoll_frame :
    framesSincePoll (events ++ [.frame timeMs]) = framesSincePoll events + 1 := by
  rw [framesSincePoll, framesSincePoll, since_snoc_of_none rfl]
  cases since pollTime events <;> simp

@[simp] theorem framesSincePoll_poll : framesSincePoll (events ++ [.poll timeMs inputs]) = 0 := by
  have polled : pollTime (.poll timeMs inputs) = some timeMs := rfl
  rw [framesSincePoll, since_snoc_of_some polled]
  rfl

@[simp] theorem noticedAt_frame : noticedAt (events ++ [.frame timeMs]) = noticedAt events := by
  simp [noticedAt, noticedAtFrom]

@[simp] theorem noticedAt_poll : noticedAt (events ++ [.poll timeMs inputs]) =
    if framesSincePoll events % 2 ^ 32 = 0 then noticedAt events else some timeMs := by
  simp [noticedAt, noticedAtFrom]

end OneMore

/-! ## What the telemetry notes -/

/-- The telemetry knows of which frames the last poll has seen, and when one noticed new ones. -/
structure NotesFrames (events : List TelemetryEvent) (world : TelemetryWorld) : Prop where
  unseen : world.framesIn =
    world.telemetry.lastBridgeFramesIn + UInt32.ofNat (framesSincePoll events)
  unpolled : world.telemetry.initialized = false →
    world.telemetry.lastBridgeFramesIn = 0 ∧ noticedAt events = none
  stamp : world.telemetry.initialized = true →
    world.telemetry.lastBridgeFrameMs = (noticedAt events).elim int64Min fun timeMs => (timeMs : ℤ)

section NotesFrames

variable {events : List TelemetryEvent} {world : TelemetryWorld} {timeMs : ℕ}
  {inputs : BridgeTelemetryInputs}

/-- The counts differ if frames came, unless whole turns of the counter did. -/
theorem NotesFrames.changed_iff (notes : NotesFrames events world) :
    world.framesIn ≠ world.telemetry.lastBridgeFramesIn ↔
      framesSincePoll events % 2 ^ 32 ≠ 0 := by
  rw [not_iff_not, notes.unseen, ← UInt32.toNat_inj, UInt32.toNat_add, UInt32.toNat_ofNat']
  have bound := world.telemetry.lastBridgeFramesIn.toNat_lt
  omega

/-- What a poll makes of the remembered time. -/
theorem NotesFrames.noteBridgeFrames (notes : NotesFrames events world) (timeMs : ℕ)
    (inputs : BridgeTelemetryInputs) :
    noteBridgeFrames world.telemetry world.framesIn timeMs =
      ⟨world.framesIn, (noticedAt (events ++ [.poll timeMs inputs])).elim int64Min
        fun timeMs => (timeMs : ℤ), true⟩ := by
  have changed := notes.changed_iff
  rw [noticedAt_poll]
  cases polled : world.telemetry.initialized with
  | false =>
    obtain ⟨zero, never⟩ := notes.unpolled polled
    have positive : 0 < world.framesIn ↔ world.framesIn ≠ world.telemetry.lastBridgeFramesIn := by
      rw [zero]
      exact UInt32.pos_iff_ne_zero
    simp only [EspNmeaBridge.noteBridgeFrames, polled, Bool.not_false, if_true, positive, changed,
      never]
    by_cases nothing : framesSincePoll events % 2 ^ 32 = 0
    · rw [if_neg (not_not.mpr nothing), if_pos nothing]
      rfl
    · rw [if_pos nothing, if_neg nothing]
      rfl
  | true =>
    have stamp := notes.stamp polled
    simp only [EspNmeaBridge.noteBridgeFrames, polled, Bool.not_true, Bool.false_eq_true, if_false]
    by_cases nothing : framesSincePoll events % 2 ^ 32 = 0
    · have same := not_not.mp (mt changed.mp (not_not.mpr nothing))
      rw [if_neg (not_not.mpr same), if_pos nothing, same, ← stamp, ← polled]
    · rw [if_pos (changed.mpr nothing), if_neg nothing]
      rfl

theorem NotesFrames.step (notes : NotesFrames events world) (event : TelemetryEvent) :
    NotesFrames (events ++ [event]) (telemetryStep world event).1 := by
  cases event with
  | frame timeMs =>
    refine ⟨?_, ?_, ?_⟩
    · rw [framesSincePoll_frame, UInt32.ofNat_add, ← add_assoc]
      exact congrArg (· + 1) notes.unseen
    · rw [noticedAt_frame]
      exact notes.unpolled
    · rw [noticedAt_frame]
      exact notes.stamp
  | poll timeMs inputs =>
    simp only [telemetryStep, bridgeTelemetryBuildSnapshot, notes.noteBridgeFrames timeMs inputs]
    refine ⟨?_, ?_, fun _ => rfl⟩
    · rw [framesSincePoll_poll]
      exact (add_zero world.framesIn).symm
    · rintro ⟨⟩

theorem notesFrames_telemetryAfter (events : List TelemetryEvent) :
    NotesFrames events (telemetryAfter events) := by
  induction events using List.reverseRecOn with
  | nil => exact ⟨rfl, fun _ => ⟨rfl, rfl⟩, by rintro ⟨⟩⟩
  | append_singleton events event ih =>
    rw [telemetryAfter, Machine.stateAfter_snoc]
    exact ih.step event

/-- When a poll reports active input. -/
theorem active_iff (events : List TelemetryEvent) (timeMs : ℕ) (inputs : BridgeTelemetryInputs) :
    (∃ snapshot, (telemetryStep (telemetryAfter events) (.poll timeMs inputs)).2 = some snapshot ∧
      snapshot.inputState = .active) ↔
    ∃ noticedMs, noticedAt (events ++ [.poll timeMs inputs]) = some noticedMs ∧
      (timeMs : ℤ) ≤ noticedMs + bridgeTelemetryNmeaInputWindowMs := by
  have notes := (notesFrames_telemetryAfter events).noteBridgeFrames timeMs inputs
  simp only [telemetryStep, bridgeTelemetryBuildSnapshot, notes, Option.some.injEq,
    exists_eq_left']
  cases noticedAt (events ++ [.poll timeMs inputs]) with
  | none => simp
  | some noticedMs =>
    have real : (noticedMs : ℤ) ≠ int64Min := by
      rw [int64Min]
      omega
    simp only [Option.elim_some, Option.some.injEq, exists_eq_left', if_neg real,
      sub_le_iff_le_add']
    split_ifs with within <;> simp [within]

end NotesFrames

/-! ## Reports that are right -/

section Reports

variable {events : List TelemetryEvent} {event : TelemetryEvent} {timeMs : ℕ}
  {inputs : BridgeTelemetryInputs}

/-- The newest frame decides. -/
theorem acceptedRecently_iff (ordered : TimesOrdered (events ++ [event])) :
    AcceptedRecently events event.timeMs ↔ ∃ frameMs, newestFrame events = some frameMs ∧
      (event.timeMs : ℤ) ≤ frameMs + bridgeTelemetryNmeaInputWindowMs := by
  obtain ⟨earlier, -, past⟩ := List.pairwise_append.mp ordered
  cases found : since frameTime events with
  | none =>
    have noFrame := unmarked_of_since_eq_none found
    simp only [newestFrame, found, Option.map_none]
    constructor
    · rintro ⟨frameMs, member, -⟩
      cases noFrame _ member
    · rintro ⟨frameMs, ⟨⟩, -⟩
  | some newest =>
    obtain ⟨newestMs, rest⟩ := newest
    obtain ⟨before, newest, rfl, marked, noFrame⟩ := exists_of_since_eq_some found
    obtain rfl : newest = .frame newestMs := by
      cases newest with
      | frame timeMs => rw [Option.some.inj marked]
      | poll timeMs inputs => cases marked
    simp only [newestFrame, found, Option.map_some, Option.some.injEq, exists_eq_left']
    constructor
    · rintro ⟨frameMs, member, -, recent⟩
      -- No frame is newer than the newest one.
      have older : frameMs ≤ newestMs := by
        rcases List.mem_append.mp member with front | back
        · exact (List.pairwise_append.mp earlier).2.2 _ front _ (List.mem_cons_self ..)
        · rcases List.mem_cons.mp back with same | later
          · rw [TelemetryEvent.frame.inj same]
          · cases noFrame _ later
      omega
    · intro recent
      have member : TelemetryEvent.frame newestMs ∈ before ++ .frame newestMs :: rest := by simp
      exact ⟨newestMs, member, past _ member _ (List.mem_singleton_self _), by omega⟩

theorem newestFrame_isSome (member : .frame timeMs ∈ events) : (newestFrame events).isSome := by
  cases found : since frameTime events with
  | none => cases unmarked_of_since_eq_none found _ member
  | some newest => simp [newestFrame, found]

/-- Unseen frames are among the events. -/
theorem exists_frame_of_framesSincePoll (unseen : framesSincePoll events ≠ 0) :
    ∃ timeMs, .frame timeMs ∈ events := by
  induction events using List.reverseRecOn with
  | nil => exact absurd rfl unseen
  | append_singleton events event ih =>
    cases event with
    | frame timeMs => exact ⟨timeMs, by simp⟩
    | poll timeMs inputs => exact absurd framesSincePoll_poll unseen

/-- Where something was noticed, a frame was accepted. -/
theorem exists_frame_of_noticedAt {noticedMs : ℕ} (noticed : noticedAt events = some noticedMs) :
    ∃ timeMs, .frame timeMs ∈ events := by
  induction events using List.reverseRecOn with
  | nil => cases noticed
  | append_singleton events event ih =>
    cases event with
    | frame timeMs => exact ⟨timeMs, by simp⟩
    | poll timeMs inputs =>
      rw [noticedAt_poll] at noticed
      split_ifs at noticed with nothing
      · obtain ⟨frameMs, member⟩ := ih noticed
        exact ⟨frameMs, List.mem_append_left _ member⟩
      · obtain ⟨frameMs, member⟩ := exists_frame_of_framesSincePoll fun none =>
          nothing (by rw [none, Nat.zero_mod])
        exact ⟨frameMs, List.mem_append_left _ member⟩

theorem activeIsRecent_iff (ordered : TimesOrdered (events ++ [event])) :
    ActiveIsRecent events event ↔ NotTooLate events event := by
  cases event with
  | frame timeMs =>
    constructor
    · intro _ polled
      exact absurd rfl polled
    · rintro - snapshot ⟨⟩
  | poll timeMs inputs =>
    have active := active_iff events timeMs inputs
    have recent := acceptedRecently_iff ordered
    constructor
    · intro isRecent _ frameMs noticedMs newest noticed ⟨late, within⟩
      obtain ⟨snapshot, built, isActive⟩ := active.mpr ⟨noticedMs, noticed, within⟩
      obtain ⟨newestMs, same, inWindow⟩ := recent.mp (isRecent snapshot built isActive)
      obtain rfl : newestMs = frameMs := Option.some.inj (same.symm.trans newest)
      exact absurd inWindow (not_le.mpr late)
    · intro inTime snapshot built isActive
      obtain ⟨noticedMs, noticed, within⟩ := active.mp ⟨snapshot, built, isActive⟩
      obtain ⟨acceptedMs, member⟩ := exists_frame_of_noticedAt noticed
      have accepted : .frame acceptedMs ∈ events := by simpa using member
      obtain ⟨frameMs, newest⟩ := Option.isSome_iff_exists.mp (newestFrame_isSome accepted)
      refine recent.mpr ⟨frameMs, newest, ?_⟩
      by_contra late
      exact inTime (by simp [pollTime]) frameMs noticedMs newest noticed
        ⟨not_le.mp late, within⟩

end Reports

/-- In every run, at any times, all snapshots that report active input have a frame within the
window before if and only if no poll comes after the window of the newest frame but within
that of the poll which noticed it. -/
theorem active_input_is_recent_iff (timeline : TelemetryTimeline) :
    EveryStep ActiveIsRecent timeline.events ↔ EveryStep NotTooLate timeline.events := by
  obtain ⟨events, ordered⟩ := timeline
  induction events using List.reverseRecOn with
  | nil => exact ⟨fun _ => everyStep_nil, fun _ => everyStep_nil⟩
  | append_singleton events event ih =>
    rw [everyStep_snoc, everyStep_snoc, activeIsRecent_iff ordered]
    exact and_congr_left' (ih (List.pairwise_append.mp ordered).1)

/-- Nothing but counts of zero. -/
def quietInputs : BridgeTelemetryInputs where
  counters := ⟨0, 0, 0, 0, 0, 0, 0, 0, 0, 0, 0, 0, 0⟩
  staReady := false
  staIpv4 := .zeroed _
  staRssiValid := false
  staRssiDbm := 0

/-- One frame after boot, and an hour later the first poll. -/
def pollAfterAnHour : TelemetryTimeline where
  events := [.frame 0, .poll 3600000 quietInputs]
  ordered := by
    unfold TimesOrdered
    decide

theorem stale_input_reported_active :
    ¬ ∀ timeline : TelemetryTimeline, EveryStep ActiveIsRecent timeline.events := by
  intro always
  have reported : ActiveIsRecent [.frame 0] (.poll 3600000 quietInputs) :=
    (@everyStep_snoc TelemetryEvent _ [.frame 0] _).mp (always pollAfterAnHour) |>.2
  have inTime := (@activeIsRecent_iff [.frame 0] _ pollAfterAnHour.ordered).mp reported
  exact inTime (by decide) 0 3600000 (by decide) (by decide) (by decide)

end EspNmeaBridge
