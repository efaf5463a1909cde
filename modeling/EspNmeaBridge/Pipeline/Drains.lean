/-
# The queues drain

A frame on its way from the reader to the sinks keeps the threads busy for a bounded number
of steps: each operation of a put, each slot the dispatcher visits, brings it nearer to its
end, whatever the sessions do meanwhile. And as long as a frame is on its way, one of the
two threads can take its next step. So the queues never get stuck and the threads never
spin: left to themselves, they come to rest with every frame at its sinks.
-/

import EspNmeaBridge.NmeaBridge.Accounting
import EspNmeaBridge.Pipeline.InOrder

namespace EspNmeaBridge

open Transitions

variable {cfg : Kconfig}

/-- A step that moves a frame on: of the reader's put, or of the dispatcher. -/
def PipelineLabel.movesFrame : PipelineLabel → Bool
  | .rxPut | .dispatcherGet | .dispatcherLock | .dispatcherScan => true
  | _ => false

/-! ## The work that is left -/

/-- The steps the dispatcher needs for one frame, at most. -/
def stepsPerFrame (cfg : Kconfig) : ℕ := 3 * cfg.nmeaSinksMax + 3

/-- The operations of a put that may still come, this one included. -/
def PutPhase.left : PutPhase → ℕ
  | .put => 3
  | .evict => 2
  | .retry => 1

@[simp] theorem PutPhase.left_put : PutPhase.put.left = 3 := rfl

def DispatcherPhase.left : DispatcherPhase cfg → ℕ
  | .waiting => 0
  | .locking _ => 3 * cfg.nmeaSinksMax + 2
  | .scanning _ next _ phase _ =>
    if next < cfg.nmeaSinksMax then 3 * (cfg.nmeaSinksMax - next - 1) + phase.left + 1 else 1

/-- The steps left until every frame has come to its sinks, at most. -/
def Pipeline.backlog (sys : Pipeline cfg) : ℕ :=
  ((sys.publishing.map fun put => put.2.left + stepsPerFrame cfg).getD 0) +
    stepsPerFrame cfg * sys.bridge.ingest.elements.length + sys.dispatcher.left

section Steps

variable {sys next : Pipeline cfg} {label : PipelineLabel}

/-- An operation of a put is the last one, or leaves fewer. -/
theorem putDropOldestStep_left {depth : ℕ} (msgq : BoundedFifo (NmeaFrame cfg) depth)
    (frame : NmeaFrame cfg) (dropCounter : UInt32) (phase : PutPhase) :
    let result := putDropOldestStep msgq frame dropCounter phase
    (∃ phase', result.2.2 = some phase' ∧ phase'.left < phase.left ∧
        result.1.elements.length ≤ msgq.elements.length) ∨
      (result.2.2 = none ∧ result.1.elements.length ≤ msgq.elements.length + 1) := by
  cases phase with
  | put =>
    cases put : msgq.put frame with
    | some queue =>
      obtain ⟨-, elements⟩ := BoundedFifo.put_eq_some.mp put
      exact .inr (by simp [putDropOldestStep, put, elements])
    | none => exact .inl ⟨.evict, by simp [putDropOldestStep, put, PutPhase.left]⟩
  | evict => exact .inl ⟨.retry, by simp [putDropOldestStep, PutPhase.left]⟩
  | retry =>
    cases put : msgq.put frame with
    | some queue =>
      obtain ⟨-, elements⟩ := BoundedFifo.put_eq_some.mp put
      exact .inr (by simp [putDropOldestStep, put, elements])
    | none => exact .inr (by simp [putDropOldestStep, put])

theorem PutPhase.left_pos (phase : PutPhase) : 0 < phase.left := by
  cases phase <;> decide

theorem backlog_rxPut (step : sys.rxPut = some next) : next.backlog < sys.backlog := by
  obtain ⟨frame, phase, ingest, dropped, goesOn, publishing, result, rfl⟩ :=
    Pipeline.rxPut_cases step
  have progress := putDropOldestStep_left sys.bridge.ingest frame
    sys.bridge.stats.ingestDroppedOldest phase
  have positive := phase.left_pos
  simp only [result] at progress
  simp only [Pipeline.backlog, publishing, Option.map_some, Option.getD_some]
  rcases progress with ⟨phase', rfl, fewer, length⟩ | ⟨rfl, length⟩
  · have := Nat.mul_le_mul_left (stepsPerFrame cfg) length
    simp only [Option.map_some, Option.getD_some]
    omega
  · have := Nat.mul_le_mul_left (stepsPerFrame cfg) length
    rw [Nat.mul_add] at this
    simp only [Option.map_none, Option.getD_none]
    omega

theorem backlog_dispatcherGet (step : sys.dispatcherGet = some next) :
    next.backlog < sys.backlog := by
  obtain ⟨ingest, frame, waiting, got, rfl⟩ := Pipeline.dispatcherGet_cases step
  obtain ⟨sameIngest, oldest⟩ := Prod.mk.inj got
  obtain ⟨rest, elements⟩ := List.head?_eq_some_iff.mp oldest
  have left : ingest.elements = rest :=
    (congrArg BoundedFifo.elements sameIngest).symm.trans (congrArg List.tail elements)
  simp only [Pipeline.backlog, left, elements, waiting, DispatcherPhase.left, List.length_cons,
    Nat.mul_add, stepsPerFrame]
  omega

theorem backlog_dispatcherLock (step : sys.dispatcherLock = some next) :
    next.backlog < sys.backlog := by
  obtain ⟨frame, locking, rfl⟩ := Pipeline.dispatcherLock_cases step
  simp only [Pipeline.backlog, locking, DispatcherPhase.left, PutPhase.left]
  split_ifs <;> omega

/-- Visiting a slot brings its put nearer to the end, or moves on to the next slot. -/
theorem scanSlot_left (sys : Pipeline cfg) (frame : NmeaFrame cfg) (i : Fin cfg.nmeaSinksMax)
    (any : Bool) (phase : PutPhase) (before : UInt32) :
    ∃ slot stats dispatcher, sys.scanSlot frame i any phase before =
        { sys with bridge := { sys.bridge.setSink i slot with stats }, dispatcher } ∧
      ((∃ phase' before', dispatcher = .scanning frame i any phase' before' ∧
          phase'.left < phase.left) ∨
        dispatcher = .scanning frame (i + 1) true .put 0) := by
  have progress := putDropOldestStep_left (sys.bridge.sinks i).msgq frame
    (sys.bridge.sinks i).stats.droppedOldest phase
  rcases result : putDropOldestStep (sys.bridge.sinks i).msgq frame
    (sys.bridge.sinks i).stats.droppedOldest phase with ⟨msgq, dropped, goesOn⟩
  rw [result] at progress
  rcases progress with ⟨phase', rfl, fewer, -⟩ | ⟨rfl, -⟩
  · simp only [Pipeline.scanSlot, result]
    exact ⟨_, sys.bridge.stats, _, rfl, .inl ⟨_, _, rfl, fewer⟩⟩
  · simp only [Pipeline.scanSlot, result]
    exact ⟨_, _, _, rfl, .inr rfl⟩

theorem backlog_dispatcherScan (step : sys.dispatcherScan = some next) :
    next.backlog < sys.backlog := by
  obtain ⟨frame, slot, any, phase, before, scanning, ⟨inside, rfl, -, rfl⟩ | ⟨inside, -, rfl⟩ |
    ⟨through, _, -, rfl⟩⟩ := Pipeline.dispatcherScan_cases step
  · simp only [Pipeline.backlog, scanning, DispatcherPhase.left, inside, if_true, PutPhase.left]
    split_ifs <;> omega
  · obtain ⟨slot', stats, dispatcher, shape, ⟨phase', before', rfl, fewer⟩ | rfl⟩ :=
      scanSlot_left sys frame ⟨slot, inside⟩ any phase before
    · rw [shape]
      simp only [Pipeline.backlog, scanning, DispatcherPhase.left, inside, if_true]
      exact Nat.add_lt_add_left (by omega) _
    · rw [shape]
      have positive := phase.left_pos
      simp only [Pipeline.backlog, scanning, DispatcherPhase.left, inside, if_true,
        PutPhase.left_put]
      refine Nat.add_lt_add_left ?_ _
      split_ifs <;> omega
  · simp only [Pipeline.backlog, scanning, DispatcherPhase.left]
    exact Nat.add_lt_add_left (by split_ifs <;> omega) _

theorem backlog_movesFrame (moves : label.movesFrame) (step : pipelineStep sys label = some next) :
    next.backlog < sys.backlog := by
  cases label with
  | rxPut => exact backlog_rxPut step
  | dispatcherGet => exact backlog_dispatcherGet step
  | dispatcherLock => exact backlog_dispatcherLock step
  | dispatcherScan => exact backlog_dispatcherScan step
  | _ => simp [PipelineLabel.movesFrame] at moves

theorem passed_movesFrame (moves : label.movesFrame)
    (step : pipelineStep sys label = some next) : next.passed = sys.passed := by
  cases label with
  | rxPut =>
    obtain ⟨_, _, _, _, _, -, -, rfl⟩ := Pipeline.rxPut_cases step
    rfl
  | dispatcherGet =>
    obtain ⟨_, _, -, -, rfl⟩ := Pipeline.dispatcherGet_cases step
    rfl
  | dispatcherLock =>
    obtain ⟨_, -, rfl⟩ := Pipeline.dispatcherLock_cases step
    rfl
  | dispatcherScan =>
    obtain ⟨frame, slot, any, phase, before, -, ⟨_, -, -, rfl⟩ | ⟨inside, -, rfl⟩ |
      ⟨-, _, -, rfl⟩⟩ := Pipeline.dispatcherScan_cases step
    · rfl
    · obtain ⟨_, _, _, shape, -⟩ := scanSlot_left sys frame ⟨slot, inside⟩ any phase before
      rw [shape]
      rfl
    · rfl
  | _ => simp [PipelineLabel.movesFrame] at moves

/-- A byte brings work only with the frame it ends, when the filter passes it. -/
theorem backlog_rxByte {ch : UInt8} (step : sys.rxByte ch = some next) :
    next.backlog + (stepsPerFrame cfg + 3) * sys.passed.length ≤
      sys.backlog + (stepsPerFrame cfg + 3) * next.passed.length := by
  obtain ⟨idle, rx, handed, received, -, rfl, ⟨-, rfl⟩ | ⟨frame, bridge, err, rfl, accepted, rfl⟩ |
    ⟨frame, bridge, published, rfl, accepted, rfl⟩⟩ := Pipeline.rxByte_cases step
  · have : sys.passed.length ≤ ({ sys with
        rx, stream := sys.stream ++ [ch], handed := sys.handed ++ handed.toList } :
        Pipeline cfg).passed.length := by
      simp [Pipeline.passed]
    exact Nat.add_le_add_left (Nat.mul_le_mul_left _ this) _
  · have queues : bridge.ingest = sys.bridge.ingest := by
      simpa [accepted] using (acceptFrame_queues sys.bridge frame).1
    simp [Pipeline.backlog, Pipeline.passed, queues, Nat.mul_add]
  · have queues : bridge.ingest = sys.bridge.ingest := by
      simpa [accepted] using (acceptFrame_queues sys.bridge frame).1
    simp [Pipeline.backlog, Pipeline.passed, queues, idle, PutPhase.left, Nat.mul_add]
    omega

/-- The sessions and the setting leave the frames on their way where they are. -/
theorem backlog_apart (notByte : ∀ ch, label ≠ .rxByte ch) (apart : label.movesFrame = false)
    (step : pipelineStep sys label = some next) :
    next.backlog = sys.backlog ∧ next.passed = sys.passed := by
  cases label with
  | setAisConfig filterEnabled ownMmsi =>
    obtain rfl := Option.some.inj step
    exact ⟨rfl, rfl⟩
  | rxLoopHead =>
    obtain ⟨-, rfl⟩ := Pipeline.rxLoopHead_cases step
    exact ⟨rfl, rfl⟩
  | rxByte ch => exact absurd rfl (notByte ch)
  | rxPut | dispatcherGet | dispatcherLock | dispatcherScan => cases apart
  | sessionOpen s =>
    obtain ⟨-, -, ⟨_, -, rfl⟩ | ⟨-, rfl⟩⟩ := Pipeline.sessionOpen_cases step <;> exact ⟨rfl, rfl⟩
  | sessionRecv s result =>
    obtain ⟨_, -, rfl⟩ := Option.map_eq_some_iff.mp step
    exact ⟨rfl, rfl⟩
  | sessionCheck s =>
    obtain ⟨-, _, -, rfl⟩ := Pipeline.sessionCheck_cases step
    exact ⟨rfl, rfl⟩
  | sessionGet s =>
    obtain ⟨i, bridge, frame, -, got, rfl⟩ := Pipeline.sessionGet_cases step
    have same : bridge.ingest = sys.bridge.ingest := by
      simpa [got] using (SameIngest.getFromSink sys.bridge i).ingest
    simp [Pipeline.backlog, Pipeline.passed, Pipeline.setSession, same]
  | sessionSend s result =>
    obtain ⟨_, -, rfl⟩ := Option.map_eq_some_iff.mp step
    exact ⟨rfl, rfl⟩
  | sessionClose s =>
    obtain ⟨_, bridge, _, -, -, closed, rfl⟩ := Pipeline.sessionClose_cases step
    have same : bridge.ingest = sys.bridge.ingest := by
      simpa [closed] using (SameIngest.sinkClose sys.bridge (sys.sessions s).sinkId).ingest
    simp [Pipeline.backlog, Pipeline.passed, Pipeline.setSession, same]

/-- With each step work is done, or brought by a frame that has passed. -/
theorem backlog_step (step : pipelineStep sys label = some next) :
    (if label.movesFrame then 1 else 0) + next.backlog +
        (stepsPerFrame cfg + 3) * sys.passed.length ≤
      sys.backlog + (stepsPerFrame cfg + 3) * next.passed.length := by
  by_cases moves : label.movesFrame
  · have fewer := backlog_movesFrame moves step
    have same : next.passed = sys.passed := passed_movesFrame moves step
    rw [if_pos moves, same]
    omega
  · rw [if_neg moves, Nat.zero_add]
    by_cases byte : ∃ ch, label = .rxByte ch
    · obtain ⟨ch, rfl⟩ := byte
      exact backlog_rxByte step
    · obtain ⟨same, passed⟩ := backlog_apart (by simpa using byte) (by simpa using moves) step
      rw [same, passed]

/-- No frame is on its way any more. -/
structure Pipeline.AtRest (sys : Pipeline cfg) : Prop where
  publishing : sys.publishing = none
  ingest : sys.bridge.ingest.elements = []
  dispatcher : sys.dispatcher = .waiting

/-- Whatever the sessions are at, a frame on its way can be moved on. -/
theorem exists_movesFrame (busy : ¬ sys.AtRest) :
    ∃ label : PipelineLabel, label.movesFrame ∧ (pipelineStep sys label).isSome := by
  cases standing : sys.dispatcher with
  | waiting =>
    cases putting : sys.publishing with
    | some put => exact ⟨.rxPut, rfl, by simp [pipelineStep, Pipeline.rxPut, putting]⟩
    | none =>
      cases queued : sys.bridge.ingest.elements with
      | nil => exact absurd ⟨putting, queued, standing⟩ busy
      | cons frame rest =>
        have got : sys.bridge.ingest.get = (sys.bridge.ingest.get.1, some frame) := by
          simp [BoundedFifo.get, queued]
        exact ⟨.dispatcherGet, rfl, by
          simp only [pipelineStep, Pipeline.dispatcherGet, standing]
          rw [got]
          rfl⟩
  | locking frame =>
    exact ⟨.dispatcherLock, rfl, by simp [pipelineStep, Pipeline.dispatcherLock, standing]⟩
  | scanning frame slot any phase before =>
    refine ⟨.dispatcherScan, rfl, ?_⟩
    simp only [pipelineStep, Pipeline.dispatcherScan, standing]
    split_ifs <;> rfl

end Steps

/-! ## Runs -/

theorem passed_moves {moves : List PipelineLabel} {sys rest : Pipeline cfg}
    (allowed : ∀ label ∈ moves, PipelineLabel.movesFrame label)
    (ran : run pipelineStep sys moves = some rest) : rest.passed = sys.passed :=
  Transitions.invariant_of_forall (P := fun now : Pipeline cfg => now.passed = sys.passed)
    (fun _ _ _ same moves step => (passed_movesFrame moves step).trans same) rfl allowed ran

/-- The operations on frames are no more than the frames that passed the filter call for. -/
theorem movesFrame_run {labels : List PipelineLabel} {sys : Pipeline cfg}
    (ran : run pipelineStep pipelineInit labels = some sys) :
    labels.countP (·.movesFrame) + sys.backlog ≤
      (stepsPerFrame cfg + 3) * sys.passed.length := by
  have paid := Transitions.countP_le_of_potential PipelineLabel.movesFrame Pipeline.backlog
    (fun sys : Pipeline cfg => (stepsPerFrame cfg + 3) * sys.passed.length)
    (fun _ _ _ => backlog_step) ran
  have start : (pipelineInit : Pipeline cfg).backlog = 0 := by
    simp [Pipeline.backlog, pipelineInit, nmeaBridgeInit, DispatcherPhase.left]
  have none : (pipelineInit : Pipeline cfg).passed = [] := rfl
  rw [start, none] at paid
  simpa using paid

/-- The queues neither get stuck nor keep the threads busy without end: the operations on
frames are bounded by the frames that passed the filter; while a frame is on its way some
operation on it can be taken, with the sessions standing wherever they stand; and operations
on frames alone lead to rest. -/
theorem pipeline_drains (cfg : Kconfig) (labels : List PipelineLabel) (sys : Pipeline cfg)
    (ran : run pipelineStep pipelineInit labels = some sys) :
    labels.countP (·.movesFrame) ≤ (3 * cfg.nmeaSinksMax + 6) * sys.passed.length ∧
      (¬ sys.AtRest → ∃ label : PipelineLabel, label.movesFrame ∧ (pipelineStep sys label).isSome) ∧
      ∃ moves rest, (∀ label ∈ moves, PipelineLabel.movesFrame label) ∧
        run pipelineStep sys moves = some rest ∧ rest.AtRest ∧
        (labels ++ moves).countP (·.movesFrame) ≤
          (3 * cfg.nmeaSinksMax + 6) * sys.passed.length := by
  obtain ⟨moves, rest, allowed, drained, atRest⟩ := Transitions.exists_run_to_rest
    Pipeline.AtRest (fun label : PipelineLabel => label.movesFrame) Pipeline.backlog
    (fun sys busy => by
      obtain ⟨label, moves, enabled⟩ := exists_movesFrame busy
      obtain ⟨next, step⟩ := Option.isSome_iff_exists.mp enabled
      exact ⟨label, next, moves, step, backlog_movesFrame moves step⟩) sys
  have price : stepsPerFrame cfg + 3 = 3 * cfg.nmeaSinksMax + 6 := rfl
  have bound := movesFrame_run ran
  have whole := movesFrame_run (run_append.mpr ⟨sys, ran, drained⟩)
  rw [passed_moves allowed drained, price] at whole
  rw [price] at bound
  exact ⟨by omega, exists_movesFrame, moves, rest, allowed, drained, atRest, by omega⟩

/-- A line is being put while another one waits, and a session has a sink. -/
def twoLinesUnderway : List PipelineLabel :=
  [.sessionOpen 0, .rxByte 0x41, .rxByte newline, .rxPut, .rxByte 0x42, .rxByte newline]

theorem pipeline_drains_twoLinesUnderway :
    let sys := (run pipelineStep (pipelineInit : Pipeline prjConf) twoLinesUnderway).get (by decide)
    twoLinesUnderway.countP (·.movesFrame) ≤ (3 * prjConf.nmeaSinksMax + 6) * sys.passed.length ∧
      (¬ sys.AtRest → ∃ label : PipelineLabel, label.movesFrame ∧ (pipelineStep sys label).isSome) ∧
      ∃ moves rest, (∀ label ∈ moves, PipelineLabel.movesFrame label) ∧
        run pipelineStep sys moves = some rest ∧ rest.AtRest ∧
        (twoLinesUnderway ++ moves).countP (·.movesFrame) ≤
          (3 * prjConf.nmeaSinksMax + 6) * sys.passed.length :=
  pipeline_drains prjConf twoLinesUnderway _ (Option.some_get _).symm

end EspNmeaBridge
