/-
# Input is never reported idle while frames arrive

The other direction: a frame within the window makes a snapshot report active input. Either
this poll is the first to see the frame, or an earlier one was, which came no earlier than
the frame itself. A poll misses frames only when whole turns of the 32-bit count came since
the poll before.
-/

import EspNmeaBridge.BridgeTelemetry.RecentFrames

namespace EspNmeaBridge

open History

/-- No poll, or one that comes before the frame count has made a whole turn. -/
def FewFrames (earlier : List TelemetryEvent) (event : TelemetryEvent) : Prop :=
  pollTime event = none ∨ framesSincePoll earlier < 2 ^ 32

instance (earlier : List TelemetryEvent) (event : TelemetryEvent) :
    Decidable (FewFrames earlier event) :=
  inferInstanceAs (Decidable (_ ∨ _))

/-- A snapshot with a frame in its window reports active input. -/
def RecentIsActive (earlier : List TelemetryEvent) (event : TelemetryEvent) : Prop :=
  ∀ snapshot, (telemetryStep (telemetryAfter earlier) event).2 = some snapshot →
    AcceptedRecently earlier event.timeMs → snapshot.inputState = .active

/-- Behind a poll, the time that is remembered is no earlier than any frame. -/
theorem le_noticedAt {events : List TelemetryEvent} {frameMs : ℕ} (ordered : TimesOrdered events)
    (few : EveryStep FewFrames events) (seen : framesSincePoll events = 0)
    (accepted : .frame frameMs ∈ events) :
    ∃ noticedMs, noticedAt events = some noticedMs ∧ frameMs ≤ noticedMs := by
  induction events using List.reverseRecOn with
  | nil => cases accepted
  | append_singleton events event ih =>
    obtain ⟨earlier, -, past⟩ := List.pairwise_append.mp ordered
    obtain ⟨fewBefore, fewNow⟩ := everyStep_snoc.mp few
    cases event with
    | frame timeMs =>
      rw [framesSincePoll_frame] at seen
      cases seen
    | poll timeMs inputs =>
      have before : .frame frameMs ∈ events := by simpa using accepted
      have fewSince : framesSincePoll events < 2 ^ 32 := fewNow.resolve_left (by simp [pollTime])
      rw [noticedAt_poll]
      split_ifs with nothing
      · -- The poll before has seen all frames.
        rw [Nat.mod_eq_of_lt fewSince] at nothing
        exact ih earlier fewBefore nothing before
      · exact ⟨timeMs, rfl, past _ before _ (List.mem_singleton_self _)⟩

/-- In every run in which fewer than 2^32 frames come between two polls and before the first,
each snapshot with a frame in its window reports active input. -/
theorem recent_input_is_active (timeline : TelemetryTimeline)
    (few : EveryStep FewFrames timeline.events) : EveryStep RecentIsActive timeline.events := by
  obtain ⟨events, ordered⟩ := timeline
  induction events using List.reverseRecOn with
  | nil => exact everyStep_nil
  | append_singleton events event ih =>
    have earlier := (List.pairwise_append.mp ordered).1
    refine everyStep_snoc.mpr ⟨ih earlier (everyStep_snoc.mp few).1, ?_⟩
    rintro snapshot built ⟨frameMs, accepted, -, recent⟩
    cases event with
    | frame timeMs => cases built
    | poll timeMs inputs =>
      obtain ⟨noticedMs, noticed, later⟩ := le_noticedAt ordered few framesSincePoll_poll
        (List.mem_append_left _ accepted)
      have inWindow : (timeMs : ℤ) ≤ noticedMs + bridgeTelemetryNmeaInputWindowMs := by
        simp only [TelemetryEvent.timeMs] at recent
        omega
      obtain ⟨snapshot', built', active⟩ :=
        (active_iff events timeMs inputs).mpr ⟨noticedMs, noticed, inWindow⟩
      obtain rfl := Option.some.inj (built.symm.trans built')
      exact active

/-- A frame noticed by an early poll, and a second poll at the end of its window. -/
def pollAtWindowEnd : TelemetryTimeline where
  events := [.frame 0, .poll 100 quietInputs, .poll 5000 quietInputs]
  ordered := by
    unfold TimesOrdered
    decide

theorem recent_input_is_active_windowEnd : EveryStep RecentIsActive pollAtWindowEnd.events :=
  recent_input_is_active pollAtWindowEnd (by decide)

end EspNmeaBridge
