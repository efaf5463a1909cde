/-
# The LED and the recent history

The LED should show the recent history: a flash for 100 ms after its event, the
more important flash first, and otherwise the connection state. The policy only
remembers 32-bit deadlines, and nothing clears a flash that is over, so a
deadline far enough in the past looks ahead again and the flash comes back.

The law holds exactly when every flash that comes back is hidden under a more
important one that is really due. Within half a turn of the millisecond counter
after each event, about 24 days, none comes back.
-/

import EspNmeaBridge.Lib.History
import EspNmeaBridge.StatusLedPolicy

namespace EspNmeaBridge

open History WrappingClock

inductive StatusLedEvent where
  | nmeaFrameReceived
  | nmeaFrameForwarded
  | nmeaSendFailed
  | tcpNmeaSessionStarted
  | tcpNmeaSessionEnded
  | tcpNmeaClientConnecting (connecting : Bool)
  deriving DecidableEq, Repr

/-- An event and the full 64-bit time at which it was reported. -/
structure StatusLedReport where
  event : StatusLedEvent
  timeMs : UInt64
  deriving DecidableEq, Repr

/-- One report, its time truncated to 32 bits. -/
def statusLedPolicyReport (state : StatusLedPolicyState) (report : StatusLedReport) :
    StatusLedPolicyState :=
  match report.event with
  | .nmeaFrameReceived => statusLedPolicyNmeaFrameReceived state report.timeMs.toUInt32
  | .nmeaFrameForwarded => statusLedPolicyNmeaFrameForwarded state report.timeMs.toUInt32
  | .nmeaSendFailed => statusLedPolicyNmeaSendFailed state report.timeMs.toUInt32
  | .tcpNmeaSessionStarted => statusLedPolicyTcpNmeaSessionStarted state
  | .tcpNmeaSessionEnded => statusLedPolicyTcpNmeaSessionEnded state
  | .tcpNmeaClientConnecting connecting => statusLedPolicyTcpNmeaClientConnecting state connecting

/-- The policy's state after the reports since boot. -/
def statusLedPolicyAfter (reports : List StatusLedReport) : StatusLedPolicyState :=
  reports.foldl statusLedPolicyReport statusLedPolicyZero

/-! ## The history behind the state -/

/-- The three flashes, the most important one first. -/
inductive FlashKind where
  | error
  | forwarded
  | activity
  deriving DecidableEq, Repr

namespace FlashKind

def event : FlashKind → StatusLedEvent
  | .error => .nmeaSendFailed
  | .forwarded => .nmeaFrameForwarded
  | .activity => .nmeaFrameReceived

def colour : FlashKind → StatusLedRgb
  | .error => ⟨statusLedNmeaErrorRed, 0, 0⟩
  | .forwarded =>
    ⟨statusLedNmeaForwardedWhite, statusLedNmeaForwardedWhite, statusLedNmeaForwardedWhite⟩
  | .activity => ⟨0, 0, statusLedNmeaActivityBlue⟩

def rank : FlashKind → ℕ
  | .error => 0
  | .forwarded => 1
  | .activity => 2

end FlashKind

def sessionsStarted (reports : List StatusLedReport) : ℕ :=
  reports.countP (·.event = .tcpNmeaSessionStarted)

def sessionsEnded (reports : List StatusLedReport) : ℕ :=
  reports.countP (·.event = .tcpNmeaSessionEnded)

/-- At every moment no more sessions ended than started, and fewer than `2 ^ 16` run. -/
def SessionsFit (reports : List StatusLedReport) : Prop :=
  ∀ front, front <+: reports →
    sessionsEnded front ≤ sessionsStarted front ∧
      sessionsStarted front < sessionsEnded front + 2 ^ 16

instance (reports : List StatusLedReport) : Decidable (SessionsFit reports) :=
  decidable_of_iff (∀ front ∈ reports.inits, sessionsEnded front ≤ sessionsStarted front ∧
    sessionsStarted front < sessionsEnded front + 2 ^ 16) (by simp [SessionsFit])

/-- Reports in the order they were made, and a later time at which the LED is
rendered. -/
structure StatusLedTimeline where
  reports : List StatusLedReport
  nowMs : UInt64
  ordered : reports.Pairwise fun earlier later => earlier.timeMs ≤ later.timeMs
  past : ∀ report ∈ reports, report.timeMs ≤ nowMs
  sessions : SessionsFit reports

def connectingReported (report : StatusLedReport) : Option Bool :=
  match report.event with
  | .tcpNmeaClientConnecting connecting => some connecting
  | _ => none

/-- What the latest report of the outbound client said. -/
def lastConnecting (reports : List StatusLedReport) : Option Bool :=
  (since connectingReported reports).map Prod.fst

def flashReported (kind : FlashKind) (report : StatusLedReport) : Option UInt64 :=
  if report.event = kind.event then some report.timeMs else none

/-- When the latest event of a kind happened. -/
def lastFlash (kind : FlashKind) (reports : List StatusLedReport) : Option UInt64 :=
  (since (flashReported kind) reports).map Prod.fst

/-- An event of this kind happened less than 100 ms ago. -/
def HappenedRecently (kind : FlashKind) (reports : List StatusLedReport) (nowMs : UInt64) :
    Prop :=
  ∃ report ∈ reports, report.event = kind.event ∧ nowMs.toNat < report.timeMs.toNat + 100

instance (kind : FlashKind) (reports : List StatusLedReport) (nowMs : UInt64) :
    Decidable (HappenedRecently kind reports nowMs) :=
  inferInstanceAs (Decidable (∃ report ∈ reports, _))

def historyBaseState (reports : List StatusLedReport) : StatusLedBaseState :=
  if 0 < sessionsStarted reports - sessionsEnded reports then .connected
  else if lastConnecting reports = some true then .connecting
  else .disconnected

/-- The colour that tells the recent history. -/
def historyColour (reports : List StatusLedReport) (nowMs : UInt64) : StatusLedRgb :=
  if HappenedRecently .error reports nowMs then FlashKind.error.colour
  else if HappenedRecently .forwarded reports nowMs then FlashKind.forwarded.colour
  else if HappenedRecently .activity reports nowMs then FlashKind.activity.colour
  else statusLedPolicyRenderBase (historyBaseState reports) nowMs.toUInt32

/-- The latest event of this kind is at least 100 ms old, and by so much that its
32-bit deadline looks ahead again. -/
def Resurfaces (kind : FlashKind) (reports : List StatusLedReport) (nowMs : UInt64) : Prop :=
  ∃ timeMs ∈ lastFlash kind reports,
    timeMs.toNat + 100 ≤ nowMs.toNat ∧ LooksAhead (nowMs.toNat - (timeMs.toNat + 100))

/-- Every flash that comes back is hidden under a more important one that is due. -/
def ResurfacingHidden (timeline : StatusLedTimeline) : Prop :=
  ∀ kind, Resurfaces kind timeline.reports timeline.nowMs →
    ∃ higher : FlashKind, higher.rank < kind.rank ∧
      HappenedRecently higher timeline.reports timeline.nowMs

/-! ## The state tracks the history -/

/-- The flag and the deadline of a flash. -/
def StatusLedPolicyState.flash (state : StatusLedPolicyState) : FlashKind → Bool × UInt32
  | .error => (state.nmeaErrorFlashActive, state.nmeaErrorFlashUntilMs)
  | .forwarded => (state.nmeaForwardedFlashActive, state.nmeaForwardedFlashUntilMs)
  | .activity => (state.nmeaActivityFlashActive, state.nmeaActivityFlashUntilMs)

/-- The flag and the deadline the latest event of a kind leaves behind. -/
def flashAfter (latest : Option UInt64) : Bool × UInt32 :=
  match latest with
  | none => (false, 0)
  | some timeMs => (true, timeMs.toUInt32 + statusLedNmeaActivityFlashMs)

structure TracksHistory (state : StatusLedPolicyState) (reports : List StatusLedReport) :
    Prop where
  sessions : state.activeTcpNmeaSessions.toNat + sessionsEnded reports = sessionsStarted reports
  connecting : state.outboundTcpNmeaClientConnecting = (lastConnecting reports).getD false
  flash : ∀ kind, state.flash kind = flashAfter (lastFlash kind reports)

theorem lastFlash_snoc (kind : FlashKind) (reports : List StatusLedReport)
    (report : StatusLedReport) :
    lastFlash kind (reports ++ [report]) =
      if report.event = kind.event then some report.timeMs else lastFlash kind reports := by
  by_cases same : report.event = kind.event
  · have marked : flashReported kind report = some report.timeMs := if_pos same
    rw [if_pos same, lastFlash, since_snoc_of_some marked, Option.map_some]
  · have unmarked : flashReported kind report = none := if_neg same
    rw [if_neg same, lastFlash, since_snoc_of_none unmarked, Option.map_map]
    rfl

theorem lastConnecting_snoc (reports : List StatusLedReport) (report : StatusLedReport) :
    lastConnecting (reports ++ [report]) =
      (connectingReported report).or (lastConnecting reports) := by
  cases marked : connectingReported report with
  | some connecting =>
    rw [lastConnecting, since_snoc_of_some marked, Option.map_some, Option.some_or]
  | none =>
    rw [lastConnecting, since_snoc_of_none marked, Option.map_map, Option.none_or]
    rfl

theorem sessionEnded_flash (state : StatusLedPolicyState) (kind : FlashKind) :
    (statusLedPolicyTcpNmeaSessionEnded state).flash kind = state.flash kind := by
  rw [statusLedPolicyTcpNmeaSessionEnded]
  split_ifs <;> rfl

/-- A report of a flash's own event starts it; every other report leaves it alone. -/
theorem statusLedPolicyReport_flash (state : StatusLedPolicyState) (report : StatusLedReport)
    (kind : FlashKind) :
    (statusLedPolicyReport state report).flash kind =
      if report.event = kind.event then flashAfter (some report.timeMs)
      else state.flash kind := by
  obtain ⟨event, timeMs⟩ := report
  cases event with
  | tcpNmeaSessionEnded => cases kind <;> exact sessionEnded_flash state _
  | nmeaFrameReceived => cases kind <;> rfl
  | nmeaFrameForwarded => cases kind <;> rfl
  | nmeaSendFailed => cases kind <;> rfl
  | tcpNmeaSessionStarted => cases kind <;> rfl
  | tcpNmeaClientConnecting connecting => cases kind <;> rfl

theorem statusLedPolicyReport_connecting (state : StatusLedPolicyState)
    (report : StatusLedReport) :
    (statusLedPolicyReport state report).outboundTcpNmeaClientConnecting =
      (connectingReported report).getD state.outboundTcpNmeaClientConnecting := by
  obtain ⟨event, timeMs⟩ := report
  cases event with
  | tcpNmeaSessionEnded =>
    change (statusLedPolicyTcpNmeaSessionEnded state).outboundTcpNmeaClientConnecting = _
    rw [statusLedPolicyTcpNmeaSessionEnded]
    split_ifs <;> rfl
  | nmeaFrameReceived => rfl
  | nmeaFrameForwarded => rfl
  | nmeaSendFailed => rfl
  | tcpNmeaSessionStarted => rfl
  | tcpNmeaClientConnecting connecting => rfl

/-- The counter follows the sessions as long as their number fits it. -/
theorem statusLedPolicyReport_sessions {state : StatusLedPolicyState}
    {reports : List StatusLedReport} {report : StatusLedReport}
    (fit : SessionsFit (reports ++ [report]))
    (tracked : state.activeTcpNmeaSessions.toNat + sessionsEnded reports =
      sessionsStarted reports) :
    (statusLedPolicyReport state report).activeTcpNmeaSessions.toNat +
        sessionsEnded (reports ++ [report]) = sessionsStarted (reports ++ [report]) := by
  have bounds := fit (reports ++ [report]) (List.prefix_refl _)
  simp only [sessionsEnded, sessionsStarted, List.countP_append, List.countP_singleton]
    at bounds tracked ⊢
  obtain ⟨event, timeMs⟩ := report
  cases event with
  | tcpNmeaSessionStarted =>
    -- The number of sessions stays below 2^16, so the increment does not wrap.
    have small : state.activeTcpNmeaSessions.toNat + 1 < 2 ^ 16 := by simp at bounds; omega
    have counted : (state.activeTcpNmeaSessions + 1).toNat =
        state.activeTcpNmeaSessions.toNat + 1 := by
      rw [UInt16.toNat_add]
      exact Nat.mod_eq_of_lt small
    simp [statusLedPolicyReport, statusLedPolicyTcpNmeaSessionStarted, counted]
    omega
  | tcpNmeaSessionEnded =>
    -- Fewer have ended than started, so the guard of the decrement holds.
    have running : 0 < state.activeTcpNmeaSessions.toNat := by simp at bounds; omega
    have guard : 0 < state.activeTcpNmeaSessions := UInt16.lt_iff_toNat_lt.mpr running
    have counted : (state.activeTcpNmeaSessions - 1).toNat =
        state.activeTcpNmeaSessions.toNat - 1 :=
      UInt16.toNat_sub_of_le _ _ (UInt16.le_iff_toNat_le.mpr running)
    simp [statusLedPolicyReport, statusLedPolicyTcpNmeaSessionEnded, guard, counted]
    omega
  | nmeaFrameReceived =>
    simpa [statusLedPolicyReport, statusLedPolicyNmeaFrameReceived] using tracked
  | nmeaFrameForwarded =>
    simpa [statusLedPolicyReport, statusLedPolicyNmeaFrameForwarded] using tracked
  | nmeaSendFailed =>
    simpa [statusLedPolicyReport, statusLedPolicyNmeaSendFailed] using tracked
  | tcpNmeaClientConnecting connecting =>
    simpa [statusLedPolicyReport, statusLedPolicyTcpNmeaClientConnecting] using tracked

theorem SessionsFit.front {front back : List StatusLedReport}
    (fit : SessionsFit (front ++ back)) : SessionsFit front :=
  fun earlier initial => fit earlier (initial.trans (List.prefix_append front back))

theorem statusLedPolicyAfter_snoc (reports : List StatusLedReport) (report : StatusLedReport) :
    statusLedPolicyAfter (reports ++ [report]) =
      statusLedPolicyReport (statusLedPolicyAfter reports) report := by
  rw [statusLedPolicyAfter, List.foldl_append]
  rfl

theorem tracksHistory_after {reports : List StatusLedReport} (fit : SessionsFit reports) :
    TracksHistory (statusLedPolicyAfter reports) reports := by
  induction reports using List.reverseRecOn with
  | nil => exact ⟨rfl, rfl, fun kind => by cases kind <;> rfl⟩
  | append_singleton reports report ih =>
    have tracked := ih fit.front
    rw [statusLedPolicyAfter_snoc]
    constructor
    · exact statusLedPolicyReport_sessions fit tracked.sessions
    · rw [statusLedPolicyReport_connecting, lastConnecting_snoc, tracked.connecting]
      cases connectingReported report <;> rfl
    · intro kind
      rw [statusLedPolicyReport_flash, lastFlash_snoc, tracked.flash]
      split_ifs <;> rfl

theorem baseState_after (timeline : StatusLedTimeline) :
    statusLedPolicyBaseState (statusLedPolicyAfter timeline.reports) =
      historyBaseState timeline.reports := by
  have tracked := tracksHistory_after timeline.sessions
  have running : 0 < (statusLedPolicyAfter timeline.reports).activeTcpNmeaSessions ↔
      0 < sessionsStarted timeline.reports - sessionsEnded timeline.reports := by
    rw [← tracked.sessions, Nat.add_sub_cancel, UInt16.lt_iff_toNat_lt]
    rfl
  have connecting : (statusLedPolicyAfter timeline.reports).outboundTcpNmeaClientConnecting =
      true ↔ lastConnecting timeline.reports = some true := by
    rw [tracked.connecting]
    cases lastConnecting timeline.reports <;> simp
  simp only [statusLedPolicyBaseState, historyBaseState, running, connecting]

/-! ## Which flashes are shown -/

/-- With its reports in order, a flash is due when the latest event of its kind is recent. -/
theorem happenedRecently_iff (timeline : StatusLedTimeline) (kind : FlashKind) :
    HappenedRecently kind timeline.reports timeline.nowMs ↔
      ∃ timeMs ∈ lastFlash kind timeline.reports, timeline.nowMs.toNat < timeMs.toNat + 100 := by
  have ordered := timeline.ordered
  generalize timeline.reports = reports at *
  cases found : since (flashReported kind) reports with
  | none =>
    have absent := unmarked_of_since_eq_none found
    simp only [lastFlash, found, Option.map_none, Option.mem_def, reduceCtorEq, false_and,
      exists_false, iff_false]
    rintro ⟨report, member, same, -⟩
    simpa [flashReported, same] using absent report member
  | some latest =>
    obtain ⟨timeMs, rest⟩ := latest
    obtain ⟨before, report, rfl, marked, quiet⟩ := exists_of_since_eq_some found
    have isKind : report.event = kind.event := by
      by_contra other
      simp [flashReported, other] at marked
    obtain rfl : report.timeMs = timeMs := by simpa [flashReported, isKind] using marked
    simp only [lastFlash, found, Option.map_some, Option.mem_some_iff, exists_eq_left']
    constructor
    · rintro ⟨other, member, same, recent⟩
      rcases List.mem_append.mp member with earlier | last
      · -- An earlier event is no later than the latest one.
        have order : other.timeMs ≤ report.timeMs :=
          (List.pairwise_append.mp ordered).2.2 other earlier report List.mem_cons_self
        have := UInt64.le_iff_toNat_le.mp order
        omega
      · rcases List.mem_cons.mp last with rfl | after
        · exact recent
        · simpa [flashReported, same] using quiet other after
    · intro recent
      exact ⟨report, by simp, isKind, recent⟩

theorem lastFlash_reported {kind : FlashKind} {reports : List StatusLedReport} {timeMs : UInt64}
    (latest : lastFlash kind reports = some timeMs) :
    ∃ report ∈ reports, report.timeMs = timeMs := by
  obtain ⟨⟨timeMs', rest⟩, found, rfl⟩ := Option.map_eq_some_iff.mp latest
  obtain ⟨before, report, rfl, marked, -⟩ := exists_of_since_eq_some found
  rw [flashReported] at marked
  split_ifs at marked
  exact ⟨report, by simp, Option.some.inj marked⟩

theorem lastFlash_past {timeline : StatusLedTimeline} {kind : FlashKind} {timeMs : UInt64}
    (latest : lastFlash kind timeline.reports = some timeMs) : timeMs ≤ timeline.nowMs := by
  obtain ⟨report, member, rfl⟩ := lastFlash_reported latest
  exact timeline.past report member

/-- A flash is on while it is due, and again when its deadline resurfaces. -/
theorem flashActive_iff (timeline : StatusLedTimeline) (kind : FlashKind) :
    flashActiveUntil ((statusLedPolicyAfter timeline.reports).flash kind).1
        timeline.nowMs.toUInt32 ((statusLedPolicyAfter timeline.reports).flash kind).2 = true ↔
      HappenedRecently kind timeline.reports timeline.nowMs ∨
        Resurfaces kind timeline.reports timeline.nowMs := by
  rw [(tracksHistory_after timeline.sessions).flash, happenedRecently_iff, Resurfaces]
  cases latest : lastFlash kind timeline.reports with
  | none => simp [flashAfter, flashActiveUntil]
  | some timeMs =>
    have window : statusLedNmeaActivityFlashMs.toNat = 100 := rfl
    have short : statusLedNmeaActivityFlashMs.toNat < 2 ^ 31 := by decide
    -- The deadline is compared by the sign of a 32-bit difference.
    have signed := stillAhead_iff (lastFlash_past latest) short
    simp only [flashAfter, flashActiveUntil, Bool.true_and, signed, window, Option.mem_some_iff,
      exists_eq_left']
    constructor
    · rintro (due | ahead)
      · exact .inl due
      · refine (Nat.lt_or_ge timeline.nowMs.toNat (timeMs.toNat + 100)).imp id fun passed => ?_
        exact ⟨passed, ahead⟩
    · rintro (due | ⟨-, ahead⟩)
      · exact .inl due
      · exact .inr ahead

/-- What is shown when these flashes are on. -/
def shownColour (on : FlashKind → Prop) [DecidablePred on] (base : StatusLedRgb) : StatusLedRgb :=
  if on .error then FlashKind.error.colour
  else if on .forwarded then FlashKind.forwarded.colour
  else if on .activity then FlashKind.activity.colour
  else base

theorem render_eq_shownColour (state : StatusLedPolicyState) (elapsedMs : UInt32) :
    statusLedPolicyRender state elapsedMs =
      shownColour (fun kind => flashActiveUntil (state.flash kind).1 elapsedMs
          (state.flash kind).2 = true)
        (statusLedPolicyRenderBase (statusLedPolicyBaseState state) elapsedMs) := rfl

theorem historyColour_eq_shownColour (reports : List StatusLedReport) (nowMs : UInt64) :
    historyColour reports nowMs =
      shownColour (fun kind => HappenedRecently kind reports nowMs)
        (statusLedPolicyRenderBase (historyBaseState reports) nowMs.toUInt32) := rfl

theorem renderBase_ne_colour (state : StatusLedBaseState) (elapsedMs : UInt32)
    (kind : FlashKind) : statusLedPolicyRenderBase state elapsedMs ≠ kind.colour := by
  obtain ⟨noBlue, dimRed⟩ := renderBase_dim state elapsedMs
  intro same
  rw [same] at noBlue dimRed
  cases kind with
  | error => exact absurd dimRed (by decide)
  | forwarded => exact absurd noBlue (by decide)
  | activity => exact absurd noBlue (by decide)

theorem rank_injective : Function.Injective FlashKind.rank := by
  intro kind other same
  cases kind <;> cases other <;> first | rfl | exact absurd same (by decide)

theorem colour_injective : Function.Injective FlashKind.colour := by
  intro kind other same
  cases kind <;> cases other <;> first | rfl | exact absurd same (by decide)

/-- The most important of the due flashes, or the base colour. -/
theorem shownColour_cases (due : FlashKind → Prop) [DecidablePred due] (base : StatusLedRgb) :
    (∃ kind, due kind ∧ (∀ higher : FlashKind, higher.rank < kind.rank → ¬ due higher) ∧
        shownColour due base = kind.colour) ∨
      ((∀ kind, ¬ due kind) ∧ shownColour due base = base) := by
  -- In the order of the render function, most important first.
  by_cases error : due .error
  · refine .inl ⟨.error, error, ?_, if_pos error⟩
    intro higher above
    exact absurd above (Nat.not_lt_zero _)
  by_cases forwarded : due .forwarded
  · refine .inl ⟨.forwarded, forwarded, ?_, by simp [shownColour, error, forwarded]⟩
    intro higher above
    cases higher with
    | error => exact error
    | forwarded => exact absurd above (lt_irrefl _)
    | activity => exact absurd above (by decide)
  by_cases activity : due .activity
  · refine .inl ⟨.activity, activity, ?_, by simp [shownColour, error, forwarded, activity]⟩
    intro higher above
    cases higher with
    | error => exact error
    | forwarded => exact forwarded
    | activity => exact absurd above (lt_irrefl _)
  · refine .inr ⟨fun kind => ?_, by simp [shownColour, error, forwarded, activity]⟩
    cases kind <;> assumption

theorem shownColour_of_first {due : FlashKind → Prop} [DecidablePred due] {base : StatusLedRgb}
    {kind : FlashKind} (isDue : due kind)
    (first : ∀ higher : FlashKind, higher.rank < kind.rank → ¬ due higher) :
    shownColour due base = kind.colour := by
  cases kind with
  | error => exact if_pos isDue
  | forwarded => simp [shownColour, first .error (by decide), isDue]
  | activity =>
    simp [shownColour, first .error (by decide), first .forwarded (by decide), isDue]

/-- Extra flashes change nothing exactly when each is hidden under a due one. -/
theorem shownColour_eq_iff {on due extra : FlashKind → Prop} [DecidablePred on]
    [DecidablePred due] {base : StatusLedRgb} (onIff : ∀ kind, on kind ↔ due kind ∨ extra kind)
    (exclusive : ∀ kind, extra kind → ¬ due kind)
    (distinct : ∀ kind : FlashKind, base ≠ kind.colour) :
    shownColour on base = shownColour due base ↔
      ∀ kind, extra kind → ∃ higher : FlashKind, higher.rank < kind.rank ∧ due higher := by
  rcases shownColour_cases on base with ⟨kind, isOn, first, shown⟩ | ⟨quiet, shown⟩
  · have noneDue : ∀ higher : FlashKind, higher.rank < kind.rank → ¬ due higher :=
      fun higher above isDue => first higher above ((onIff higher).mpr (.inl isDue))
    rcases (onIff kind).mp isOn with isDue | isExtra
    · -- The first flash that is on is due: every extra one ranks below it.
      refine iff_of_true (shown.trans (shownColour_of_first isDue noneDue).symm) ?_
      intro other isExtra
      refine ⟨kind, ?_, isDue⟩
      rcases lt_trichotomy other.rank kind.rank with above | same | below
      · exact absurd ((onIff other).mpr (.inr isExtra)) (first other above)
      · exact absurd (rank_injective same ▸ isDue) (exclusive other isExtra)
      · exact below
    · -- The first flash that is on is extra: without it another colour is due.
      apply iff_of_false
      · rw [shown]
        rcases shownColour_cases due base with ⟨other, otherDue, -, shown'⟩ | ⟨-, shown'⟩
        · intro same
          obtain rfl := colour_injective (same.trans shown')
          exact exclusive kind isExtra otherDue
        · exact fun same => distinct kind (same.trans shown').symm
      · intro hidden
        obtain ⟨higher, above, isDue⟩ := hidden kind isExtra
        exact noneDue higher above isDue
  · rcases shownColour_cases due base with ⟨other, otherDue, -, -⟩ | ⟨-, shown'⟩
    · exact absurd ((onIff other).mpr (.inl otherDue)) (quiet other)
    · refine iff_of_true (shown.trans shown'.symm) fun kind isExtra => ?_
      exact absurd ((onIff kind).mpr (.inr isExtra)) (quiet kind)

theorem not_happenedRecently_of_resurfaces {timeline : StatusLedTimeline} {kind : FlashKind}
    (resurfaces : Resurfaces kind timeline.reports timeline.nowMs) :
    ¬ HappenedRecently kind timeline.reports timeline.nowMs := by
  rw [happenedRecently_iff]
  rintro ⟨timeMs, latest, recent⟩
  obtain ⟨timeMs', latest', passed, -⟩ := resurfaces
  obtain rfl := Option.some.inj (latest.symm.trans latest')
  omega

/-- Within half a turn of the counter after every report no flash comes back. -/
theorem resurfacingHidden_of_within_half_turn {timeline : StatusLedTimeline}
    (within : ∀ report ∈ timeline.reports,
      timeline.nowMs.toNat < report.timeMs.toNat + 100 + 2 ^ 31) :
    ResurfacingHidden timeline := by
  rintro kind ⟨timeMs, latest, passed, ahead⟩
  obtain ⟨report, member, rfl⟩ := lastFlash_reported latest
  have bound := within report member
  rw [LooksAhead, Nat.mod_eq_of_lt (by omega)] at ahead
  omega

/-- The rendered colour tells the recent history exactly when every flash whose
deadline resurfaces is hidden under a more important one that is due. -/
theorem render_tells_history_iff (timeline : StatusLedTimeline) :
    statusLedPolicyRender (statusLedPolicyAfter timeline.reports) timeline.nowMs.toUInt32 =
        historyColour timeline.reports timeline.nowMs ↔
      ResurfacingHidden timeline := by
  rw [render_eq_shownColour, historyColour_eq_shownColour, baseState_after]
  exact shownColour_eq_iff (flashActive_iff timeline)
    (fun kind => not_happenedRecently_of_resurfaces) (renderBase_ne_colour _ _)

/-- One received frame, and the LED half a turn of the counter after its flash. -/
def flashResurfacing : StatusLedTimeline where
  reports := [⟨.nmeaFrameReceived, 0⟩]
  nowMs := 2147483748
  ordered := List.pairwise_singleton _ _
  past := by decide
  sessions := by decide

/-- The LED flashes blue 24 days after the only frame. -/
theorem flash_comes_back :
    statusLedPolicyRender (statusLedPolicyAfter flashResurfacing.reports)
        flashResurfacing.nowMs.toUInt32 = FlashKind.activity.colour ∧
      historyColour flashResurfacing.reports flashResurfacing.nowMs ≠
        FlashKind.activity.colour := by
  decide

end EspNmeaBridge
