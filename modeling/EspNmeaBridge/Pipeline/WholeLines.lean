/-
# What a TCP client receives

The bytes a session's socket accepted are the frames the session took, the last one
possibly cut; the frames it took are some of the frames that passed the filter, in
order; and those are lines of the UART stream. All three hold in every state the
threads can reach, so a client sees nothing but whole lines and, after a failed
send, the beginning of one more.
-/

import EspNmeaBridge.Pipeline.SinkCustody
import EspNmeaBridge.UartNmea.Lines

namespace EspNmeaBridge

open Delimited Transitions

variable {cfg : Kconfig}

/-- What holds in every reachable state. -/
structure WholeLines (sys : Pipeline cfg) : Prop where
  order : InOrder sys
  bytes : ∀ s, SessionBytes (sys.sessions s)
  lines : FollowsLines sys.stream sys.handed sys.rx

theorem wholeLines_init : WholeLines (pipelineInit : Pipeline cfg) where
  order :=
    { underway := fun i => List.Sublist.refl []
      received := fun s => List.Sublist.refl []
      owned := fun s i owner => by
        simp only [pipelineInit, sessionIdle] at owner
        omega
      distinct := fun s s' i owner => by
        simp only [pipelineInit, sessionIdle] at owner
        omega
      slots := fun s => Or.inl rfl
      taking := fun s i phase => by simp [pipelineInit, sessionIdle] at phase }
  bytes _ := by simp [SessionBytes, pipelineInit, sessionIdle]
  lines := ⟨fun _ => rfl, [], rfl, rfl⟩

/-! ## What a step leaves alone -/

section Steps

variable {sys next : Pipeline cfg} {s : ℕ}

/-- The step was not the reader's. -/
structure SameReader (sys next : Pipeline cfg) : Prop where
  rx : next.rx = sys.rx
  stream : next.stream = sys.stream
  handed : next.handed = sys.handed

theorem SameReader.lines (same : SameReader sys next)
    (lines : FollowsLines sys.stream sys.handed sys.rx) :
    FollowsLines next.stream next.handed next.rx := by
  rw [same.rx, same.stream, same.handed]
  exact lines

theorem sameReader_setSession (bridge : NmeaBridge cfg) (session : Session cfg) :
    SameReader sys ({ sys with bridge }.setSession s session) :=
  ⟨rfl, rfl, rfl⟩

/-- The frame's way through the queues is no business of reader or sessions. -/
theorem sameReader_rxPut (step : sys.rxPut = some next) :
    SameReader sys next ∧ next.sessions = sys.sessions := by
  obtain ⟨frame, phase, ingest, dropped, goesOn, -, -, rfl⟩ := Pipeline.rxPut_cases step
  exact ⟨⟨rfl, rfl, rfl⟩, rfl⟩

theorem sameReader_dispatcherGet (step : sys.dispatcherGet = some next) :
    SameReader sys next ∧ next.sessions = sys.sessions := by
  obtain ⟨ingest, frame, -, -, rfl⟩ := Pipeline.dispatcherGet_cases step
  exact ⟨⟨rfl, rfl, rfl⟩, rfl⟩

theorem sameReader_dispatcherLock (step : sys.dispatcherLock = some next) :
    SameReader sys next ∧ next.sessions = sys.sessions := by
  obtain ⟨frame, -, rfl⟩ := Pipeline.dispatcherLock_cases step
  exact ⟨⟨rfl, rfl, rfl⟩, rfl⟩

theorem sameReader_dispatcherScan (step : sys.dispatcherScan = some next) :
    SameReader sys next ∧ next.sessions = sys.sessions := by
  obtain ⟨frame, slot, any, phase, before, -, ⟨_, -, -, rfl⟩ | ⟨inside, -, rfl⟩ | ⟨-, _, -, rfl⟩⟩ :=
    Pipeline.dispatcherScan_cases step
  · exact ⟨⟨rfl, rfl, rfl⟩, rfl⟩
  · obtain ⟨_, _, _, _, _, _, shape, -⟩ :=
      scanSlot_shape sys frame ⟨slot, inside⟩ any phase before
    rw [shape]
    exact ⟨⟨rfl, rfl, rfl⟩, rfl⟩
  · exact ⟨⟨rfl, rfl, rfl⟩, rfl⟩

/-! ## Every step keeps the lines whole -/

/-- A step of the queues. -/
theorem WholeLines.of_queues (whole : WholeLines sys) (order : InOrder next)
    (others : SameReader sys next ∧ next.sessions = sys.sessions) : WholeLines next where
  order := order
  bytes s := by
    rw [others.2]
    exact whole.bytes s
  lines := others.1.lines whole.lines

theorem WholeLines.rxLoopHead (whole : WholeLines sys) (step : sys.rxLoopHead = some next) :
    WholeLines next := by
  have order := whole.order.rxLoopHead step
  obtain ⟨-, rfl⟩ := Pipeline.rxLoopHead_cases step
  exact ⟨order, whole.bytes, whole.lines.applyAisConfig _⟩

theorem WholeLines.rxByte (whole : WholeLines sys) {ch : UInt8}
    (step : sys.rxByte ch = some next) : WholeLines next := by
  have order := whole.order.rxByte step
  have lines := whole.lines.byte ch
  obtain ⟨-, rx, handed, received, result, rfl, moved⟩ := Pipeline.rxByte_cases step
  rw [result] at lines
  rcases moved with ⟨-, rfl⟩ | ⟨_, _, _, -, -, rfl⟩ | ⟨_, _, _, -, -, rfl⟩
  · exact ⟨order, whole.bytes, lines⟩
  · exact ⟨order, whole.bytes, lines⟩
  · exact ⟨order, whole.bytes, lines⟩

/-- A step of one session, perhaps on its queue. -/
theorem WholeLines.of_session (whole : WholeLines sys) {bridge : NmeaBridge cfg}
    {session : Session cfg} (order : InOrder ({ sys with bridge }.setSession s session))
    (kept : SessionBytes session) : WholeLines ({ sys with bridge }.setSession s session) where
  order := order
  bytes t := by
    by_cases here : t = s
    · subst here
      simpa [Pipeline.setSession] using kept
    · simpa [Pipeline.setSession, Function.update_of_ne here] using whole.bytes t
  lines := (sameReader_setSession bridge session).lines whole.lines

theorem WholeLines.sessionOpen (whole : WholeLines sys) (step : sys.sessionOpen s = some next) :
    WholeLines next := by
  have order := whole.order.sessionOpen (whole.bytes s) step
  obtain ⟨idle, -, opened⟩ := Pipeline.sessionOpen_cases step
  have nothing : (sys.sessions s).received = [] ∧ (sys.sessions s).accepted = [] := by
    simpa [SessionBytes, idle] using whole.bytes s
  rcases opened with ⟨i, -, rfl⟩ | ⟨-, rfl⟩
  · exact whole.of_session order (by simp [SessionBytes, nothing])
  · exact whole.of_session order (by simp [SessionBytes, nothing])

theorem WholeLines.sessionRecv (whole : WholeLines sys) {result : RecvResult}
    (step : sys.sessionRecv s result = some next) : WholeLines next := by
  obtain ⟨session, received, rfl⟩ := Option.map_eq_some_iff.mp step
  obtain ⟨kept, sameReceived, sameSinkId, -⟩ := (whole.bytes s).recv received
  refine whole.of_session (whole.order.setSession sameReceived (Or.inl sameSinkId) ?_) kept
  exact fun i taking => absurd taking (not_taking_recv received i)

theorem WholeLines.sessionCheck (whole : WholeLines sys)
    (step : sys.sessionCheck s = some next) : WholeLines next := by
  obtain ⟨-, session, checked, rfl⟩ := Pipeline.sessionCheck_cases step
  obtain ⟨kept, sameReceived, sameSinkId, -⟩ := (whole.bytes s).checked checked
  refine whole.of_session (whole.order.setSession sameReceived (Or.inl sameSinkId) ?_) kept
  intro i taking
  rw [sameSinkId]
  exact eq_of_checkSink_ok _ (eq_of_taking_checked checked taking)

theorem WholeLines.sessionGet (whole : WholeLines sys) (step : sys.sessionGet s = some next) :
    WholeLines next := by
  have order := whole.order.sessionGet step
  obtain ⟨i, bridge, frame, taking, -, rfl⟩ := Pipeline.sessionGet_cases step
  exact whole.of_session order ((whole.bytes s).took taking _)

theorem WholeLines.sessionSend (whole : WholeLines sys) {result : SendResult}
    (step : sys.sessionSend s result = some next) : WholeLines next := by
  obtain ⟨session, sent, rfl⟩ := Option.map_eq_some_iff.mp step
  obtain ⟨kept, sameReceived, sameSinkId⟩ := (whole.bytes s).send sent
  refine whole.of_session (whole.order.setSession sameReceived (Or.inl sameSinkId) ?_) kept
  exact fun i taking => absurd taking (not_taking_send sent i)

theorem WholeLines.sessionClose (whole : WholeLines sys) (step : sys.sessionClose s = some next) :
    WholeLines next := by
  have order := whole.order.sessionClose step
  obtain ⟨result, bridge, sinkId, closing, -, -, rfl⟩ := Pipeline.sessionClose_cases step
  refine whole.of_session order ?_
  have bytes := whole.bytes s
  cases result <;> simpa [SessionBytes, closing] using bytes

/-- Whichever thread steps next. -/
theorem WholeLines.step (whole : WholeLines sys) {label : PipelineLabel}
    (step : pipelineStep sys label = some next) : WholeLines next := by
  cases label with
  | setAisConfig filterEnabled ownMmsi =>
    obtain rfl := Option.some.inj step
    exact ⟨whole.order.of_unmoved rfl rfl rfl rfl (fun _ => rfl) (List.Sublist.refl _),
      whole.bytes, whole.lines⟩
  | rxLoopHead => exact whole.rxLoopHead step
  | rxByte ch => exact whole.rxByte step
  | rxPut => exact whole.of_queues (whole.order.rxPut step) (sameReader_rxPut step)
  | dispatcherGet =>
    exact whole.of_queues (whole.order.dispatcherGet step) (sameReader_dispatcherGet step)
  | dispatcherLock =>
    exact whole.of_queues (whole.order.dispatcherLock step) (sameReader_dispatcherLock step)
  | dispatcherScan =>
    exact whole.of_queues (whole.order.dispatcherScan step) (sameReader_dispatcherScan step)
  | sessionOpen t => exact whole.sessionOpen step
  | sessionRecv t result => exact whole.sessionRecv step
  | sessionCheck t => exact whole.sessionCheck step
  | sessionGet t => exact whole.sessionGet step
  | sessionSend t result => exact whole.sessionSend step
  | sessionClose t => exact whole.sessionClose step

/-- The last call of a session that is over closes its sink. -/
theorem over_own_step (ended : (sys.sessions s).phase.over = true) {label : PipelineLabel}
    (acts : label.session = some s) (step : pipelineStep sys label = some next) :
    (next.sessions s).phase.over = true ∧
      (next.sessions s).accepted = (sys.sessions s).accepted := by
  obtain ⟨noRecv, noCheck, noSend, noTaking, notIdle⟩ := no_call_of_over ended
  cases label with
  | sessionOpen t =>
    obtain rfl := Option.some.inj acts
    exact absurd (Pipeline.sessionOpen_cases step).1 notIdle
  | sessionRecv t result =>
    obtain rfl := Option.some.inj acts
    obtain ⟨session, received, -⟩ := Option.map_eq_some_iff.mp step
    simp [noRecv] at received
  | sessionCheck t =>
    obtain rfl := Option.some.inj acts
    obtain ⟨-, session, checked, -⟩ := Pipeline.sessionCheck_cases step
    simp [noCheck] at checked
  | sessionGet t =>
    obtain rfl : t = s := Option.some.inj acts
    obtain ⟨i, _, _, taking, -⟩ := Pipeline.sessionGet_cases step
    exact absurd taking (noTaking i)
  | sessionSend t result =>
    obtain rfl := Option.some.inj acts
    obtain ⟨session, sent, -⟩ := Option.map_eq_some_iff.mp step
    simp [noSend] at sent
  | sessionClose t =>
    obtain rfl := Option.some.inj acts
    obtain ⟨result, _, _, -, -, -, rfl⟩ := Pipeline.sessionClose_cases step
    simp [Pipeline.setSession, SessionPhase.over]
  | _ => cases acts

/-- A session that is over stays over and delivers nothing more. -/
theorem over_step (ended : (sys.sessions s).phase.over = true) {label : PipelineLabel}
    (step : pipelineStep sys label = some next) :
    (next.sessions s).phase.over = true ∧
      (next.sessions s).accepted = (sys.sessions s).accepted := by
  by_cases acts : label.session = some s
  · exact over_own_step ended acts step
  · -- Whoever steps instead leaves the session as it is.
    rw [(pipelineStep_effect step).sessions_of_others acts]
    exact ⟨ended, rfl⟩

end Steps

/-- A session that is over stays over and delivers nothing more, however long the
others run on. -/
theorem over_run {sys later : Pipeline cfg} {s : ℕ} (ended : (sys.sessions s).phase.over = true)
    {labels : List PipelineLabel} (ran : run pipelineStep sys labels = some later) :
    (later.sessions s).accepted = (sys.sessions s).accepted := by
  have kept := Transitions.invariant
    (P := fun now : Pipeline cfg => (now.sessions s).phase.over = true ∧
      (now.sessions s).accepted = (sys.sessions s).accepted)
    (fun now label next ⟨stillOver, same⟩ step =>
      ⟨(over_step stillOver step).1, (over_step stillOver step).2.trans same⟩)
    ⟨ended, rfl⟩ ran
  exact kept.2

/-- Every reachable state has whole lines. -/
theorem wholeLines_run {labels : List PipelineLabel} {sys : Pipeline cfg}
    (ran : run pipelineStep pipelineInit labels = some sys) : WholeLines sys :=
  Transitions.invariant (fun _ _ _ whole step => whole.step step) wholeLines_init ran

/-- Some of the lines in order and whole, then at most the beginning of a further one. -/
def IsLineStream (lines : List Frame) (bytes : List UInt8) : Prop :=
  ∃ whole cut, bytes = whole.flatten ++ cut ∧
    (cut = [] ∧ whole.Sublist lines ∨
      ∃ next, cut <+: next ∧ cut ≠ next ∧ (whole ++ [next]).Sublist lines)

/-- In every reachable state the bytes a session's socket accepted are such a stream
of lines the filter passed; and from a failed send on they stay as they are. -/
theorem session_receives_whole_lines (cfg : Kconfig) (labels : List PipelineLabel)
    (sys : Pipeline cfg) (ran : run pipelineStep pipelineInit labels = some sys) (s : ℕ) :
    (∃ fates : LineFates, fates.map Prod.fst = segments newline sys.stream ∧
      fates.handed = sys.handed ∧ IsLineStream fates.passed (sys.sessions s).accepted) ∧
    ∀ earlier failure later, failure.fails = true →
      labels = earlier ++ .sessionSend s failure :: later →
      ∀ before : Pipeline cfg, run pipelineStep pipelineInit earlier = some before →
        (sys.sessions s).accepted = (before.sessions s).accepted := by
  constructor
  · have whole := wholeLines_run ran
    obtain ⟨fates, lines, handed⟩ := whole.lines.fates
    refine ⟨fates, lines, handed, ?_⟩
    have received := whole.order.received s
    have passed : sys.passed = fates.passed := by
      rw [LineFates.passed_eq, handed, Pipeline.passed]
    rw [passed] at received
    -- All lines received are whole, but for the one being sent.
    rcases (whole.bytes s).wholeThenCut with accepted | ⟨front, next, cut, split, accepted, part⟩
    · exact ⟨_, [], by rw [List.append_nil, accepted], Or.inl ⟨rfl, received⟩⟩
    · exact ⟨front, cut, accepted, Or.inr ⟨next, part.1, part.2, split ▸ received⟩⟩
  · rintro earlier failure later fails rfl before ranEarlier
    obtain ⟨before', ranEarlier', ranLater⟩ := run_append.mp ran
    obtain rfl : before = before' := Option.some.inj (ranEarlier.symm.trans ranEarlier')
    obtain ⟨after, stepped, ranLater⟩ := run_cons.mp ranLater
    obtain ⟨session, sent, rfl⟩ := Option.map_eq_some_iff.mp stepped
    -- The failed send leaves the loop, and from there on nothing is sent.
    obtain ⟨ended, accepted⟩ := over_of_send_fails fails sent
    have here : (before.setSession s session).sessions s = session := Function.update_self _ _ _
    rw [over_run (here.symm ▸ ended) ranLater, here, accepted]

/-- A line is received, dispatched and sent in part; then the connection breaks. -/
def brokenConnection : List PipelineLabel :=
  [.sessionOpen 0, .rxByte 0x41, .rxByte newline, .rxPut, .dispatcherGet, .dispatcherLock,
    .dispatcherScan, .dispatcherScan, .dispatcherScan, .dispatcherScan, .dispatcherScan,
    .sessionRecv 0 (.error .eagain), .sessionCheck 0, .sessionGet 0, .sessionSend 0 (.sent 1),
    .sessionSend 0 (.error (.other 104)), .sessionClose 0]

theorem session_receives_whole_lines_broken :
    ∃ fates : LineFates, IsLineStream fates.passed
      (((run pipelineStep (pipelineInit : Pipeline prjConf) brokenConnection).get
        (by decide)).sessions 0).accepted :=
  have ⟨fates, _, _, lines⟩ := (session_receives_whole_lines prjConf brokenConnection _
    (Option.some_get _).symm 0).1
  ⟨fates, lines⟩

end EspNmeaBridge
