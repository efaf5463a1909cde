/-
# Every loss is counted

Between the filter and a client, frames are lost where a queue drops its oldest one. The
consumer of a queue runs while the put does, so a counter may count a frame that was
never lost; but no frame is lost without being counted. A session whose counters did not
move since it opened its sink has got, or will get, every frame that passed since.

The bridge counts the drops of all sinks together, behind the put they happened in. In
between one drop may be missing from that counter.
-/

import EspNmeaBridge.Lib.Lossy
import EspNmeaBridge.NmeaBridge.Accounting
import EspNmeaBridge.Pipeline.WholeLines

namespace EspNmeaBridge

open Lossy Transitions

variable {cfg : Kconfig}

/-! ## Queue operations -/

/-- The frames behind an operation of the put: those in the queue and the one still to be
put. -/
def framesBehind {depth : ℕ} (frame : NmeaFrame cfg)
    (result : BoundedFifo (NmeaFrame cfg) depth × UInt32 × Option PutPhase) :
    List (NmeaFrame cfg) :=
  result.1.elements ++ result.2.2.toList.map fun _ => frame

/-- Which phases can follow, with how many drops counted. -/
inductive PutCounts : PutPhase → ℕ → Option PutPhase → Prop
  | fits : PutCounts .put 0 none
  | full : PutCounts .put 0 (some .evict)
  | evicts : PutCounts .evict 1 (some .retry)
  | fitsNow : PutCounts .retry 0 none
  | stillFull : PutCounts .retry 1 none

/-- An operation of the put loses no more frames than it counts. -/
theorem putDropOldestStep_counts {depth : ℕ} (msgq : BoundedFifo (NmeaFrame cfg) depth)
    (frame : NmeaFrame cfg) (dropCounter : UInt32) (phase : PutPhase) :
    let result := putDropOldestStep msgq frame dropCounter phase
    ∃ drops, PutCounts phase drops result.2.2 ∧
      result.2.1 = dropCounter + .ofNat drops ∧
      KeptBut drops (framesBehind frame result) (msgq.elements ++ [frame]) := by
  cases phase with
  | put =>
    cases put : msgq.put frame with
    | some queue =>
      obtain ⟨-, elements⟩ := BoundedFifo.put_eq_some.mp put
      refine ⟨0, ?_⟩
      simp only [putDropOldestStep, put]
      exact ⟨.fits, by simp, .of_eq (by simp [framesBehind, elements])⟩
    | none =>
      refine ⟨0, ?_⟩
      simp only [putDropOldestStep, put]
      exact ⟨.full, by simp, .of_eq (by simp [framesBehind])⟩
  | evict =>
    refine ⟨1, .evicts, rfl, (List.tail_sublist _).append (List.Sublist.refl _), ?_⟩
    simp only [putDropOldestStep, framesBehind, BoundedFifo.elements_get, List.length_append,
      List.length_tail, Option.toList_some, List.map_singleton, List.length_singleton]
    omega
  | retry =>
    cases put : msgq.put frame with
    | some queue =>
      obtain ⟨-, elements⟩ := BoundedFifo.put_eq_some.mp put
      refine ⟨0, ?_⟩
      simp only [putDropOldestStep, put]
      exact ⟨.fitsNow, by simp, .of_eq (by simp [framesBehind, elements])⟩
    | none =>
      refine ⟨1, ?_⟩
      simp only [putDropOldestStep, put]
      exact ⟨.stillFull, rfl, by simp [framesBehind], by simp [framesBehind]⟩

theorem PutCounts.drops_le {phase : PutPhase} {drops : ℕ} {goesOn : Option PutPhase}
    (counts : PutCounts phase drops goesOn) : drops ≤ 1 := by
  cases counts <;> decide

/-! ## What a step adds to the counters -/

/-- Drops counted for one sink, for the ingest queue, and for all sinks together. -/
structure DropCounts where
  sink : ℕ
  ingest : ℕ
  bridge : ℕ

/-- The step counts as many drops. -/
structure CountsDrops (sys next : Pipeline cfg) (i : Fin cfg.nmeaSinksMax) (drops : DropCounts) :
    Prop where
  sink : (next.bridge.sinks i).stats.droppedOldest =
    (sys.bridge.sinks i).stats.droppedOldest + .ofNat drops.sink
  ingest : next.bridge.stats.ingestDroppedOldest =
    sys.bridge.stats.ingestDroppedOldest + .ofNat drops.ingest
  bridge : next.bridge.stats.sinkDroppedOldest =
    sys.bridge.stats.sinkDroppedOldest + .ofNat drops.bridge

/-- The drops at slot `i` that the bridge has not added to its counter yet. -/
def DispatcherPhase.uncounted (dispatcher : DispatcherPhase cfg) (i : Fin cfg.nmeaSinksMax) : ℕ :=
  match dispatcher with
  | .scanning _ next _ .retry _ => if next = i.val then 1 else 0
  | _ => 0

/-- While a put into a sink goes on, the drops since `before` are the evicted frame. -/
def ScanCounts (sys : Pipeline cfg) : Prop :=
  ∀ frame next any phase before, sys.dispatcher = .scanning frame next any phase before →
    ∀ inside : next < cfg.nmeaSinksMax,
      (phase = .evict → (sys.bridge.sinks ⟨next, inside⟩).stats.droppedOldest = before) ∧
      (phase = .retry → (sys.bridge.sinks ⟨next, inside⟩).stats.droppedOldest = before + 1)

section Dispatcher

variable {sys next : Pipeline cfg}

/-- Visiting slot `i`: its put goes on, or is over and its drops are added up. -/
theorem scanSlot_counts {frame : NmeaFrame cfg} {i : Fin cfg.nmeaSinksMax} {any : Bool}
    {phase : PutPhase} {before : UInt32} (scan : ScanCounts sys)
    (scanning : sys.dispatcher = .scanning frame i.val any phase before) :
    ∃ slot stats dispatcher drops bridgeDrops,
      sys.scanSlot frame i any phase before =
        { sys with bridge := { sys.bridge.setSink i slot with stats }, dispatcher } ∧
      slot.stats.droppedOldest = (sys.bridge.sinks i).stats.droppedOldest + .ofNat drops ∧
      stats = { sys.bridge.stats with
        sinkDroppedOldest := sys.bridge.stats.sinkDroppedOldest + .ofNat bridgeDrops } ∧
      KeptBut drops (slot.msgq.elements.map (·.data) ++ dispatcher.pending i)
        (sys.queued i ++ [frame.data]) ∧
      (∀ j ≠ i, dispatcher.pending j = sys.dispatcher.pending j ∧ dispatcher.uncounted j = 0) ∧
      drops + sys.dispatcher.uncounted i ≤ bridgeDrops + dispatcher.uncounted i ∧
      drops ≤ 1 ∧ bridgeDrops ≤ 2 ∧
      (dispatcher = .scanning frame i any .evict slot.stats.droppedOldest ∨
        (∃ before', dispatcher = .scanning frame i any .retry before' ∧
          slot.stats.droppedOldest = before' + 1) ∨
        dispatcher = .scanning frame (i + 1) true .put 0) := by
  obtain ⟨evicting, retrying⟩ := scan frame i any phase before scanning i.isLt
  obtain ⟨drops, counts, counted, keeps⟩ := putDropOldestStep_counts (sys.bridge.sinks i).msgq
    frame (sys.bridge.sinks i).stats.droppedOldest phase
  rcases result : putDropOldestStep (sys.bridge.sinks i).msgq frame
    (sys.bridge.sinks i).stats.droppedOldest phase with ⟨msgq, dropped, goesOn⟩
  rw [result] at counts counted keeps
  have elsewhere {j : Fin cfg.nmeaSinksMax} (other : j ≠ i) : j.val ≠ i.val :=
    fun same => other (Fin.ext same)
  -- The frames of the queue and the one being put, as the flow looks at them.
  have kept : KeptBut drops (msgq.elements.map (·.data) ++ goesOn.toList.map fun _ => frame.data)
      (sys.queued i ++ [frame.data]) := by
    simpa [framesBehind, Pipeline.queued, Function.comp_def] using keeps.map (·.data)
  have through {j : Fin cfg.nmeaSinksMax} (other : j ≠ i) : i.val + 1 ≤ j.val ↔ i.val ≤ j.val := by
    have := elsewhere other
    omega
  cases counts with
  | fits =>
    obtain rfl : dropped = (sys.bridge.sinks i).stats.droppedOldest := by simpa using counted
    refine ⟨{ sys.bridge.sinks i with
        msgq
        stats := { (sys.bridge.sinks i).stats with
          queued := (sys.bridge.sinks i).stats.queued + 1 } },
      sys.bridge.stats, _, 0, 0, ?_, by simp, by simp,
      by simpa [DispatcherPhase.pending] using kept, fun j other => ?_, ?_, by decide,
      by decide, .inr (.inr rfl)⟩
    · simp [Pipeline.scanSlot, result]
    · simp [DispatcherPhase.pending, DispatcherPhase.uncounted, scanning, through other]
    · simp [DispatcherPhase.uncounted, scanning]
  | full =>
    obtain rfl : dropped = (sys.bridge.sinks i).stats.droppedOldest := by simpa using counted
    refine ⟨{ sys.bridge.sinks i with msgq }, sys.bridge.stats, _, 0, 0, ?_, by simp, by simp,
      by simpa [DispatcherPhase.pending] using kept, fun j other => ?_, ?_, by decide, by decide,
      .inl rfl⟩
    · simp only [Pipeline.scanSlot, result]
      rfl
    · simp [DispatcherPhase.pending, DispatcherPhase.uncounted, scanning]
    · simp [DispatcherPhase.uncounted, scanning]
  | evicts =>
    refine ⟨{ sys.bridge.sinks i with
        msgq
        stats := { (sys.bridge.sinks i).stats with droppedOldest := dropped } },
      sys.bridge.stats, .scanning frame i any .retry before, 1, 0, ?_, counted, by simp,
      by simpa [DispatcherPhase.pending] using kept, fun j other => ?_, ?_, by decide, by decide,
      .inr (.inl ⟨before, rfl, ?_⟩)⟩
    · simp only [Pipeline.scanSlot, result]
      rfl
    · simp [DispatcherPhase.pending, DispatcherPhase.uncounted, scanning, (elsewhere other).symm]
    · simp [DispatcherPhase.uncounted, scanning]
    · exact counted.trans (congrArg (· + 1) (evicting rfl))
  | fitsNow =>
    have dropped_eq : dropped = before + 1 := by simpa [retrying rfl] using counted
    refine ⟨{ sys.bridge.sinks i with
        msgq
        stats := { (sys.bridge.sinks i).stats with
          droppedOldest := dropped
          queued := (sys.bridge.sinks i).stats.queued + 1 } },
      { sys.bridge.stats with sinkDroppedOldest := sys.bridge.stats.sinkDroppedOldest + 1 },
      .scanning frame (i + 1) true .put 0, 0, 1, ?_, counted, rfl,
      by simpa [DispatcherPhase.pending] using kept, fun j other => ?_, ?_, by decide, by decide,
      .inr (.inr rfl)⟩
    · simp [Pipeline.scanSlot, result, dropped_eq]
    · simp [DispatcherPhase.pending, DispatcherPhase.uncounted, scanning, through other]
    · simp [DispatcherPhase.uncounted, scanning]
  | stillFull =>
    have dropped_eq : dropped = before + 2 := by
      simp only [retrying rfl] at counted
      rw [counted, UInt32.add_assoc]
      rfl
    refine ⟨{ sys.bridge.sinks i with
        msgq
        stats := { (sys.bridge.sinks i).stats with
          droppedOldest := dropped
          queued := (sys.bridge.sinks i).stats.queued + 1 } },
      { sys.bridge.stats with sinkDroppedOldest := sys.bridge.stats.sinkDroppedOldest + 2 },
      .scanning frame (i + 1) true .put 0, 1, 2, ?_, counted, rfl,
      by simpa [DispatcherPhase.pending] using kept, fun j other => ?_, ?_, by decide, by decide,
      .inr (.inr rfl)⟩
    · simp [Pipeline.scanSlot, result, dropped_eq]
    · simp [DispatcherPhase.pending, DispatcherPhase.uncounted, scanning, through other]
    · simp [DispatcherPhase.uncounted, scanning]

end Dispatcher

section ScanCounts

variable {sys next : Pipeline cfg} {label : PipelineLabel}

theorem scanCounts_of_put (atPut : ∀ frame next any phase before,
      sys.dispatcher = .scanning frame next any phase before → phase = .put) :
    ScanCounts sys := by
  intro frame next any phase before scanning inside
  obtain rfl := atPut frame next any phase before scanning
  simp

theorem scanCounts_of_unlocked (unlocked : sys.dispatcher.locked = false) : ScanCounts sys :=
  scanCounts_of_put fun _ _ _ _ _ scanning => by
    rw [scanning] at unlocked
    exact absurd unlocked (by simp [DispatcherPhase.locked])

/-- A step that leaves the dispatcher and what the sinks counted as they are. -/
theorem ScanCounts.of_elsewhere (scan : ScanCounts sys)
    (dispatcher : next.dispatcher = sys.dispatcher)
    (counters : ∀ i, (next.bridge.sinks i).stats.droppedOldest =
      (sys.bridge.sinks i).stats.droppedOldest) : ScanCounts next := by
  intro frame slot any phase before scanning inside
  rw [counters]
  exact scan frame slot any phase before (dispatcher.symm.trans scanning) inside

theorem ScanCounts.scanSlot (scan : ScanCounts sys) {frame : NmeaFrame cfg}
    {i : Fin cfg.nmeaSinksMax} {any : Bool} {phase : PutPhase} {before : UInt32}
    (scanning : sys.dispatcher = .scanning frame i.val any phase before) :
    ScanCounts (sys.scanSlot frame i any phase before) := by
  obtain ⟨slot, stats, dispatcher, drops, bridgeDrops, shape, -, -, -, -, -, -, -, phases⟩ :=
    scanSlot_counts scan scanning
  rw [shape]
  intro frame' slot' any' phase' before' scanning' inside
  rcases phases with rfl | ⟨earlier, rfl, counted⟩ | rfl <;>
    obtain ⟨rfl, rfl, rfl, rfl, rfl⟩ := DispatcherPhase.scanning.inj scanning'
  · simp
  · simpa using counted
  · simp

theorem ScanCounts.step (scan : ScanCounts sys) (step : pipelineStep sys label = some next) :
    ScanCounts next := by
  cases label with
  | setAisConfig filterEnabled ownMmsi =>
    obtain rfl := Option.some.inj step
    exact scan
  | rxLoopHead =>
    obtain ⟨-, rfl⟩ := Pipeline.rxLoopHead_cases step
    exact scan
  | rxByte ch =>
    obtain ⟨-, rx, handed, received, -, rfl,
      ⟨-, rfl⟩ | ⟨frame, bridge, _, -, accepted, rfl⟩ | ⟨frame, bridge, _, -, accepted, rfl⟩⟩ :=
        Pipeline.rxByte_cases step
    · exact scan
    all_goals
      have sinks := (acceptFrame_queues sys.bridge frame).2.1
      rw [accepted] at sinks
      exact scan.of_elsewhere rfl fun i => by rw [← sinks]
  | rxPut =>
    obtain ⟨_, _, _, _, _, -, -, rfl⟩ := Pipeline.rxPut_cases step
    exact scan
  | dispatcherGet =>
    obtain ⟨_, _, -, -, rfl⟩ := Pipeline.dispatcherGet_cases step
    exact scanCounts_of_unlocked rfl
  | dispatcherLock =>
    obtain ⟨_, -, rfl⟩ := Pipeline.dispatcherLock_cases step
    exact scanCounts_of_put fun _ _ _ _ _ scanning =>
      (DispatcherPhase.scanning.inj scanning).2.2.2.1.symm
  | dispatcherScan =>
    obtain ⟨frame, slot, any, phase, before, scanning, ⟨_, -, -, rfl⟩ | ⟨inside, -, rfl⟩ |
      ⟨-, _, -, rfl⟩⟩ := Pipeline.dispatcherScan_cases step
    · exact scanCounts_of_put fun _ _ _ _ _ scanning =>
        (DispatcherPhase.scanning.inj scanning).2.2.2.1.symm
    · exact scan.scanSlot (i := ⟨slot, inside⟩) scanning
    · exact scanCounts_of_unlocked rfl
  | sessionOpen s =>
    obtain ⟨-, unlocked, ⟨_, -, rfl⟩ | ⟨-, rfl⟩⟩ := Pipeline.sessionOpen_cases step <;>
      exact scanCounts_of_unlocked unlocked
  | sessionRecv s result =>
    obtain ⟨_, -, rfl⟩ := Option.map_eq_some_iff.mp step
    exact scan
  | sessionCheck s =>
    obtain ⟨-, _, -, rfl⟩ := Pipeline.sessionCheck_cases step
    exact scan
  | sessionGet s =>
    obtain ⟨i, bridge, frame, -, got, rfl⟩ := Pipeline.sessionGet_cases step
    have kept := getFromSink_keeps sys.bridge i
    rw [got] at kept
    exact scan.of_elsewhere rfl fun j => congrArg (·.droppedOldest) (kept j).2
  | sessionSend s result =>
    obtain ⟨_, -, rfl⟩ := Option.map_eq_some_iff.mp step
    exact scan
  | sessionClose s =>
    obtain ⟨_, _, _, -, unlocked, -, rfl⟩ := Pipeline.sessionClose_cases step
    exact scanCounts_of_unlocked unlocked

end ScanCounts

/-! ## The way of the frames to one client -/

/-- What a step does to the frames on their course to a client: fresh ones come in at the
end, and some may be dropped, which is counted. -/
structure Flow (sys next : Pipeline cfg) (i : Fin cfg.nmeaSinksMax) (course after : List Frame)
    (drops : DropCounts) : Prop where
  counted : CountsDrops sys next i drops
  reported : drops.sink + sys.dispatcher.uncounted i ≤
    drops.bridge + next.dispatcher.uncounted i
  few : drops.sink ≤ 1 ∧ drops.ingest ≤ 1 ∧ drops.bridge ≤ 2
  kept : ∃ fresh, next.passed = sys.passed ++ fresh ∧
    KeptBut (drops.sink + drops.ingest) after (course ++ fresh)

section Flow

variable {sys next : Pipeline cfg} {label : PipelineLabel} {i : Fin cfg.nmeaSinksMax}
  {course after : List Frame} {drops : DropCounts}

theorem Flow.append_left (flow : Flow sys next i course after drops) (front : List Frame) :
    Flow sys next i (front ++ course) (front ++ after) drops where
  counted := flow.counted
  reported := flow.reported
  few := flow.few
  kept := by
    obtain ⟨fresh, passed, kept⟩ := flow.kept
    exact ⟨fresh, passed, by simpa using kept.append_left front⟩

/-- A step that counts no drop. -/
theorem Flow.of_lossless (counters : (next.bridge.sinks i).stats.droppedOldest =
      (sys.bridge.sinks i).stats.droppedOldest)
    (ingest : next.bridge.stats.ingestDroppedOldest = sys.bridge.stats.ingestDroppedOldest)
    (bridge : next.bridge.stats.sinkDroppedOldest = sys.bridge.stats.sinkDroppedOldest)
    (uncounted : next.dispatcher.uncounted i = sys.dispatcher.uncounted i) (fresh : List Frame)
    (passed : next.passed = sys.passed ++ fresh) (kept : after = course ++ fresh) :
    Flow sys next i course after ⟨0, 0, 0⟩ where
  counted := ⟨by simp [counters], by simp [ingest], by simp [bridge]⟩
  reported := by simp [uncounted]
  few := by decide
  kept := ⟨fresh, passed, .of_eq kept⟩

/-- A line that passes the filter is published, so it comes in. -/
theorem flow_rxByte {ch : UInt8} (step : sys.rxByte ch = some next) :
    Flow sys next i (sys.queued i ++ sys.underway i) (next.queued i ++ next.underway i)
      ⟨0, 0, 0⟩ := by
  obtain ⟨-, -, fits⟩ := uartRxByte_accounts sys.rx ch
  obtain ⟨idle, rx, handed, received, result, rfl,
    ⟨unpassed, rfl⟩ | ⟨frame, bridge, err, rfl, refused, rfl⟩ |
      ⟨frame, bridge, published, rfl, accepted, rfl⟩⟩ := Pipeline.rxByte_cases step
  · refine .of_lossless rfl rfl rfl rfl [] ?_ (by simp [Pipeline.queued,
      Pipeline.underway, Pipeline.ingested, Pipeline.rxPending])
    rcases handed with _ | ⟨frame, _ | _⟩
    · simp [Pipeline.passed]
    · exact absurd rfl (unpassed frame)
    · simp [Pipeline.passed]
  all_goals
    rw [result] at fits
    obtain ⟨nonempty, fit⟩ := fits (frame, false) rfl
  · rw [acceptFrame_fits sys.bridge nonempty fit] at refused
    cases refused
  · rw [acceptFrame_fits sys.bridge nonempty fit] at accepted
    obtain ⟨rfl, same⟩ := Prod.mk.inj accepted
    obtain rfl := Except.ok.inj same
    refine .of_lossless rfl rfl rfl rfl [frame] (by simp [Pipeline.passed]) ?_
    simp [Pipeline.queued, Pipeline.underway, Pipeline.ingested, Pipeline.rxPending, idle]

theorem flow_rxPut (step : sys.rxPut = some next) :
    ∃ drops, Flow sys next i (sys.queued i ++ sys.underway i) (next.queued i ++ next.underway i)
      drops := by
  obtain ⟨frame, phase, ingest, dropped, goesOn, publishing, result, rfl⟩ :=
    Pipeline.rxPut_cases step
  obtain ⟨drops, counts, counted, keeps⟩ := putDropOldestStep_counts sys.bridge.ingest frame
    sys.bridge.stats.ingestDroppedOldest phase
  rw [result] at counts counted keeps
  refine ⟨⟨0, drops, 0⟩, ⟨by simp, counted, by simp⟩, by simp,
    ⟨Nat.zero_le _, counts.drops_le, Nat.zero_le _⟩, [], by simp [Pipeline.passed], ?_⟩
  have kept : KeptBut drops
      (ingest.elements.map (·.data) ++
        (goesOn.map fun phase => (frame, phase)).toList.map fun put => put.1.data)
      (sys.ingested ++ sys.rxPending) := by
    cases goesOn <;>
      simpa [framesBehind, Pipeline.ingested, Pipeline.rxPending, publishing] using
        keeps.map (·.data)
  rw [List.append_nil, Nat.zero_add]
  exact (kept.append_left _).append_left _

theorem flow_dispatcherGet (step : sys.dispatcherGet = some next) :
    Flow sys next i (sys.queued i ++ sys.underway i) (next.queued i ++ next.underway i)
      ⟨0, 0, 0⟩ := by
  obtain ⟨ingest, frame, waiting, got, rfl⟩ := Pipeline.dispatcherGet_cases step
  obtain ⟨sameIngest, oldest⟩ := Prod.mk.inj got
  obtain ⟨rest, elements⟩ := List.head?_eq_some_iff.mp oldest
  have left : ingest.elements = rest :=
    (congrArg BoundedFifo.elements sameIngest).symm.trans (congrArg List.tail elements)
  refine .of_lossless rfl rfl rfl (by simp [DispatcherPhase.uncounted, waiting]) []
    (by simp [Pipeline.passed]) ?_
  -- The frame leaves the ingest queue and becomes pending.
  simp [Pipeline.queued, Pipeline.underway, Pipeline.ingested, Pipeline.rxPending,
    DispatcherPhase.pending, waiting, elements, left]

theorem flow_dispatcherLock (step : sys.dispatcherLock = some next) :
    Flow sys next i (sys.queued i ++ sys.underway i) (next.queued i ++ next.underway i)
      ⟨0, 0, 0⟩ := by
  obtain ⟨frame, locking, rfl⟩ := Pipeline.dispatcherLock_cases step
  refine .of_lossless rfl rfl rfl (by simp [DispatcherPhase.uncounted, locking]) []
    (by simp [Pipeline.passed]) ?_
  simp [Pipeline.queued, Pipeline.underway, Pipeline.ingested, Pipeline.rxPending,
    DispatcherPhase.pending, locking]

theorem ingest_setSink (bridge : NmeaBridge cfg) (slot : SinkSlot cfg) :
    (bridge.setSink i slot).ingest = bridge.ingest := rfl

/-- The dispatcher does not pass over a sink that is open. -/
theorem flow_dispatcherScan (scan : ScanCounts sys) (active : (sys.bridge.sinks i).active = true)
    (step : sys.dispatcherScan = some next) :
    ∃ drops, Flow sys next i (sys.queued i ++ sys.underway i) (next.queued i ++ next.underway i)
      drops := by
  obtain ⟨frame, slot, any, phase, before, scanning, ⟨inside, rfl, inactive, rfl⟩ |
    ⟨inside, -, rfl⟩ | ⟨through, _, -, rfl⟩⟩ := Pipeline.dispatcherScan_cases step
  · have other : slot ≠ i.val := by
      rintro rfl
      exact Bool.noConfusion (inactive.symm.trans active)
    have beyond : slot + 1 ≤ i.val ↔ slot ≤ i.val := by omega
    refine ⟨_, .of_lossless rfl rfl rfl (by simp [DispatcherPhase.uncounted, scanning])
      [] (by simp [Pipeline.passed]) ?_⟩
    simp [Pipeline.queued, Pipeline.underway, Pipeline.ingested, Pipeline.rxPending,
      DispatcherPhase.pending, scanning, beyond]
  · obtain ⟨slot', stats, dispatcher, drops, bridgeDrops, shape, dropped, rfl, kept, elsewhere,
      reported, few, few', -⟩ := scanSlot_counts (i := ⟨slot, inside⟩) scan scanning
    rw [shape]
    by_cases here : i = ⟨slot, inside⟩
    · subst here
      have pending : sys.dispatcher.pending ⟨slot, inside⟩ = [frame.data] := by
        simp [DispatcherPhase.pending, scanning]
      refine ⟨⟨drops, 0, bridgeDrops⟩, ⟨by simp [dropped], by simp, rfl⟩, reported,
        ⟨few, Nat.zero_le _, few'⟩, [], by simp [Pipeline.passed], ?_⟩
      simpa [Pipeline.queued, Pipeline.underway, pending, Pipeline.ingested, Pipeline.rxPending,
        ingest_setSink] using kept.append_right (sys.ingested ++ sys.rxPending)
    · -- The put is on the queue of another sink.
      obtain ⟨pending, uncounted⟩ := elsewhere i here
      refine ⟨⟨0, 0, bridgeDrops⟩, ⟨by simp [here], by simp, rfl⟩, ?_,
        ⟨Nat.zero_le _, Nat.zero_le _, few'⟩, [], by simp [Pipeline.passed], .of_eq ?_⟩
      · have apart : slot ≠ i.val := fun same => here (Fin.ext same.symm)
        rw [scanning]
        cases phase <;> simp [DispatcherPhase.uncounted, apart]
      · simp [Pipeline.queued, Pipeline.underway, Pipeline.ingested, Pipeline.rxPending, pending,
          ingest_setSink, here]
  · refine ⟨_, .of_lossless rfl rfl rfl ?_ [] (by simp [Pipeline.passed]) ?_⟩
    · have beyond : slot ≠ i.val := by omega
      rw [scanning]
      cases phase <;> simp [DispatcherPhase.uncounted, beyond]
    · have beyond : ¬ slot ≤ i.val := by omega
      simp [Pipeline.queued, Pipeline.underway, Pipeline.ingested, Pipeline.rxPending,
        DispatcherPhase.pending, scanning, beyond]

end Flow

/-! ## Sessions -/

/-- The frames a client got, and those it will get if no queue drops them. -/
def Pipeline.course (sys : Pipeline cfg) (s : ℕ) (i : Fin cfg.nmeaSinksMax) : List Frame :=
  (sys.sessions s).received ++ (sys.queued i ++ sys.underway i)

section Sessions

variable {sys next : Pipeline cfg} {label : PipelineLabel} {s t : ℕ} {i : Fin cfg.nmeaSinksMax}

/-- A session's step that moves no frame at slot `i`. -/
theorem flow_setSession {bridge : NmeaBridge cfg} {session : Session cfg}
    (sink : bridge.sinks i = sys.bridge.sinks i) (ingest : bridge.ingest = sys.bridge.ingest)
    (stats : bridge.stats = sys.bridge.stats)
    (received : t = s → session.received = (sys.sessions t).received) :
    Flow sys ({ sys with bridge }.setSession t session) i (sys.course s i)
      (({ sys with bridge }.setSession t session).course s i) ⟨0, 0, 0⟩ := by
  have same : (({ sys with bridge }.setSession t session).sessions s).received =
      (sys.sessions s).received := by
    by_cases here : t = s
    · subst here
      simpa [Pipeline.setSession] using received rfl
    · simp [Pipeline.setSession, Function.update_of_ne (Ne.symm here)]
  refine .of_lossless (by simp [Pipeline.setSession, sink]) (by simp [Pipeline.setSession, stats])
    (by simp [Pipeline.setSession, stats]) rfl [] (by simp [Pipeline.passed,
    Pipeline.setSession]) ?_
  rw [List.append_nil, Pipeline.course, same]
  simp [Pipeline.course, Pipeline.queued, Pipeline.underway, Pipeline.ingested,
    Pipeline.rxPending, Pipeline.setSession, sink, ingest]

theorem flow_sessionOpen (order : InOrder sys) (owner : (sys.sessions s).sinkId = i.val)
    (step : sys.sessionOpen t = some next) :
    Flow sys next i (sys.course s i) (next.course s i) ⟨0, 0, 0⟩ := by
  obtain ⟨idle, -, ⟨j, inactive, rfl⟩ | ⟨-, rfl⟩⟩ := Pipeline.sessionOpen_cases step
  · -- The slot it gets was free, so it is another one.
    have other : i ≠ j := by
      rintro rfl
      exact Bool.noConfusion (inactive.symm.trans (order.owned s i owner).1)
    exact flow_setSession (by simp [other]) rfl rfl fun _ => rfl
  · exact flow_setSession rfl rfl rfl fun _ => rfl

/-- The oldest frame moves from the front of the queue to what was received. -/
theorem flow_sessionGet (order : InOrder sys) (owner : (sys.sessions s).sinkId = i.val)
    (step : sys.sessionGet t = some next) :
    Flow sys next i (sys.course s i) (next.course s i) ⟨0, 0, 0⟩ := by
  obtain ⟨j, bridge, frame, taking, got, rfl⟩ := Pipeline.sessionGet_cases step
  have taker := order.taking t j taking
  cases waiting : (sys.bridge.sinks j).msgq.elements with
  | nil =>
    obtain ⟨rfl, rfl⟩ := Prod.mk.inj ((getFromSink_empty _ waiting).symm.trans got)
    exact flow_setSession rfl rfl rfl fun _ => rfl
  | cons oldest rest =>
    obtain ⟨rfl, rfl⟩ := Prod.mk.inj ((getFromSink_frame _ waiting).symm.trans got)
    by_cases here : t = s
    · subst here
      obtain rfl : i = j := Fin.ext (by omega)
      refine .of_lossless (by simp [Pipeline.setSession]) rfl rfl rfl []
        (by simp [Pipeline.passed, Pipeline.setSession]) ?_
      simp [Pipeline.course, Pipeline.queued, Pipeline.underway, Pipeline.ingested,
        Pipeline.rxPending, Pipeline.setSession, Session.took, waiting, ingest_setSink]
    · have other : i ≠ j := by
        rintro rfl
        exact here (order.distinct t s i taker owner)
      exact flow_setSession (by simp [other]) rfl rfl fun same => absurd same here

/-- A session that closes its sink is not the one that keeps it. -/
theorem flow_sessionClose (order : InOrder sys) (owner : (sys.sessions s).sinkId = i.val)
    (stays : (next.sessions s).sinkId = i.val) (step : sys.sessionClose t = some next) :
    Flow sys next i (sys.course s i) (next.course s i) ⟨0, 0, 0⟩ := by
  obtain ⟨result, bridge, sinkId, closing, -, closed, rfl⟩ := Pipeline.sessionClose_cases step
  have apart : t ≠ s := by
    rintro rfl
    rw [owner, nmeaBridgeSinkClose_slot] at closed
    obtain ⟨-, rfl⟩ := Prod.mk.inj closed
    simp [Pipeline.setSession] at stays
  rcases order.slots t with unopened | ⟨j, taker⟩
  · rw [unopened, nmeaBridgeSinkClose_unopened] at closed
    obtain ⟨rfl, rfl⟩ := Prod.mk.inj closed
    exact flow_setSession rfl rfl rfl fun same => absurd same apart
  · have other : i ≠ j := by
      rintro rfl
      exact apart (order.distinct t s i taker owner)
    rw [taker, nmeaBridgeSinkClose_slot] at closed
    obtain ⟨rfl, rfl⟩ := Prod.mk.inj closed
    exact flow_setSession (by simp [other]) rfl rfl fun same => absurd same apart

/-- Whichever thread steps next, while the session keeps its sink. -/
theorem flow_step (order : InOrder sys) (scan : ScanCounts sys)
    (owner : (sys.sessions s).sinkId = i.val)
    (stays : (next.sessions s).sinkId = i.val) (step : pipelineStep sys label = some next) :
    ∃ drops, Flow sys next i (sys.course s i) (next.course s i) drops := by
  -- Neither reader nor dispatcher changes what the session received.
  have queues {drops : DropCounts} (sessions : next.sessions = sys.sessions)
      (flow : Flow sys next i (sys.queued i ++ sys.underway i) (next.queued i ++ next.underway i)
        drops) : ∃ drops, Flow sys next i (sys.course s i) (next.course s i) drops := by
    refine ⟨drops, ?_⟩
    rw [Pipeline.course, Pipeline.course, sessions]
    exact flow.append_left _
  cases label with
  | setAisConfig filterEnabled ownMmsi =>
    obtain rfl := Option.some.inj step
    exact ⟨_, .of_lossless rfl rfl rfl rfl [] (by simp [Pipeline.passed])
      (List.append_nil _).symm⟩
  | rxLoopHead =>
    obtain ⟨-, rfl⟩ := Pipeline.rxLoopHead_cases step
    exact ⟨_, .of_lossless rfl rfl rfl rfl [] (by simp [Pipeline.passed])
      (List.append_nil _).symm⟩
  | rxByte ch =>
    refine queues ?_ (flow_rxByte step)
    obtain ⟨-, _, _, _, -, rfl, ⟨-, rfl⟩ | ⟨_, _, _, -, -, rfl⟩ | ⟨_, _, _, -, -, rfl⟩⟩ :=
      Pipeline.rxByte_cases step <;> rfl
  | rxPut =>
    obtain ⟨drops, flow⟩ := flow_rxPut (i := i) step
    exact queues (sameReader_rxPut step).2 flow
  | dispatcherGet => exact queues (sameReader_dispatcherGet step).2 (flow_dispatcherGet step)
  | dispatcherLock => exact queues (sameReader_dispatcherLock step).2 (flow_dispatcherLock step)
  | dispatcherScan =>
    obtain ⟨drops, flow⟩ := flow_dispatcherScan scan (order.owned s i owner).1 step
    exact queues (sameReader_dispatcherScan step).2 flow
  | sessionOpen t => exact ⟨_, flow_sessionOpen order owner step⟩
  | sessionRecv t result =>
    obtain ⟨session, received, rfl⟩ := Option.map_eq_some_iff.mp step
    obtain ⟨afterSend, -, rfl⟩ := Session.recv_cases received
    exact ⟨_, flow_setSession rfl rfl rfl fun _ => rfl⟩
  | sessionCheck t =>
    obtain ⟨-, session, checked, rfl⟩ := Pipeline.sessionCheck_cases step
    obtain ⟨-, ⟨_, -, rfl⟩ | ⟨-, rfl⟩ | ⟨_, -, -, rfl⟩⟩ := Session.checked_cases checked <;>
      exact ⟨_, flow_setSession rfl rfl rfl fun _ => rfl⟩
  | sessionGet t => exact ⟨_, flow_sessionGet order owner step⟩
  | sessionSend t result =>
    obtain ⟨session, sent, rfl⟩ := Option.map_eq_some_iff.mp step
    obtain ⟨frame, sentTotal, accepted, -, rfl, -⟩ := Session.send_cases sent
    exact ⟨_, flow_setSession rfl rfl rfl fun _ => rfl⟩
  | sessionClose t => exact ⟨_, flow_sessionClose order owner stays step⟩

/-- A session that has begun does not come back to its beginning. -/
theorem begun_step (begun : (sys.sessions s).phase ≠ .idle)
    (step : pipelineStep sys label = some next) : (next.sessions s).phase ≠ .idle := by
  by_cases acts : label.session = some s
  · -- One of its own steps leads to a running session, or to its end.
    have runs {session : Session cfg} {bridge : NmeaBridge cfg}
        (running : session.phase.running = true) :
        (({ sys with bridge }.setSession s session).sessions s).phase ≠ .idle := by
      intro idle
      simp [Pipeline.setSession] at idle
      simp [idle, SessionPhase.running] at running
    cases label with
    | sessionOpen t =>
      obtain rfl := Option.some.inj acts
      exact absurd (Pipeline.sessionOpen_cases step).1 begun
    | sessionRecv t result =>
      obtain rfl := Option.some.inj acts
      obtain ⟨session, received, rfl⟩ := Option.map_eq_some_iff.mp step
      exact runs (running_recv received).2.1
    | sessionCheck t =>
      obtain rfl := Option.some.inj acts
      obtain ⟨-, session, checked, rfl⟩ := Pipeline.sessionCheck_cases step
      exact runs (running_checked checked).2.1
    | sessionGet t =>
      obtain rfl := Option.some.inj acts
      obtain ⟨i, bridge, frame, -, -, rfl⟩ := Pipeline.sessionGet_cases step
      exact runs (running_took _ frame).1
    | sessionSend t result =>
      obtain rfl := Option.some.inj acts
      obtain ⟨session, sent, rfl⟩ := Option.map_eq_some_iff.mp step
      exact runs (running_send sent).2.1
    | sessionClose t =>
      obtain rfl := Option.some.inj acts
      obtain ⟨result, bridge, sinkId, -, -, -, rfl⟩ := Pipeline.sessionClose_cases step
      simp [Pipeline.setSession]
    | _ => cases acts
  · rw [(pipelineStep_effect step).sessions_of_others acts]
    exact begun

/-- A session that has begun has its sink from before. -/
theorem sink_of_step (begun : (sys.sessions s).phase ≠ .idle)
    (step : pipelineStep sys label = some next) (has : (next.sessions s).sink = some i) :
    (sys.sessions s).sink = some i := by
  by_cases acts : label.session = some s
  · have here {t : ℕ} {session : Session cfg} (acts' : label.session = some t)
        (sessions : next.sessions = Function.update sys.sessions t session) :
        t = s ∧ session.sink = some i := by
      obtain rfl : t = s := Option.some.inj (acts'.symm.trans acts)
      rw [sessions, Function.update_self] at has
      exact ⟨rfl, has⟩
    cases pipelineStep_effect step with
    | elsewhere sessions => rwa [sessions] at has
    | goesOn t session acts' sessions ran runs sameSink =>
      obtain ⟨rfl, kept⟩ := here acts' sessions
      exact sameSink.symm.trans kept
    | opened t session j acts' sessions idle =>
      obtain ⟨rfl, -⟩ := here (by rw [acts']; rfl) sessions
      exact absurd idle begun
    | refused t session acts' sessions idle =>
      obtain ⟨rfl, -⟩ := here (by rw [acts']; rfl) sessions
      exact absurd idle begun
    | closed t session acts' sessions ran stopped sink =>
      obtain ⟨rfl, kept⟩ := here acts' sessions
      cases sink.symm.trans kept
  · rwa [(pipelineStep_effect step).sessions_of_others acts] at has

end Sessions

/-! ## Since the sink was opened -/

/-- The frames for the client since it opened its sink at slot `i`, after `steps` steps:
those that were on their way and those that passed since. What it did not get and will not
get was counted. -/
structure LossAccount (before opened : Pipeline cfg) (s : ℕ) (i : Fin cfg.nmeaSinksMax)
    (steps : ℕ) (sys : Pipeline cfg) (drops : DropCounts) : Prop where
  counted : CountsDrops opened sys i drops
  reported : drops.sink ≤ drops.bridge + sys.dispatcher.uncounted i
  few : drops.sink ≤ steps ∧ drops.ingest ≤ steps ∧ drops.bridge ≤ 2 * steps
  kept : ∃ since, sys.passed = before.passed ++ since ∧
    KeptBut (drops.sink + drops.ingest) (sys.course s i) (before.underway i ++ since)

section Account

variable {before opened sys next : Pipeline cfg} {label : PipelineLabel} {s steps : ℕ}
  {i : Fin cfg.nmeaSinksMax} {drops : DropCounts}

theorem CountsDrops.trans {middle : Pipeline cfg} {more : DropCounts}
    (first : CountsDrops sys middle i drops) (second : CountsDrops middle next i more) :
    CountsDrops sys next i
      ⟨drops.sink + more.sink, drops.ingest + more.ingest, drops.bridge + more.bridge⟩ where
  sink := by rw [second.sink, first.sink, UInt32.ofNat_add, UInt32.add_assoc]
  ingest := by rw [second.ingest, first.ingest, UInt32.ofNat_add, UInt32.add_assoc]
  bridge := by rw [second.bridge, first.bridge, UInt32.ofNat_add, UInt32.add_assoc]

theorem LossAccount.step (account : LossAccount before opened s i steps sys drops)
    {more : DropCounts} (flow : Flow sys next i (sys.course s i) (next.course s i) more) :
    LossAccount before opened s i (steps + 1) next
      ⟨drops.sink + more.sink, drops.ingest + more.ingest, drops.bridge + more.bridge⟩ where
  counted := account.counted.trans flow.counted
  reported := by
    have := account.reported
    have := flow.reported
    dsimp only
    omega
  few := by
    have := account.few
    have := flow.few
    dsimp only
    omega
  kept := by
    obtain ⟨since, passed, kept⟩ := account.kept
    obtain ⟨fresh, grown, keeps⟩ := flow.kept
    refine ⟨since ++ fresh, by rw [grown, passed, List.append_assoc], ?_⟩
    have both := (kept.append_right fresh).trans keeps
    rw [List.append_assoc] at both
    exact ⟨both.order, by have := both.few; dsimp only; omega⟩

/-- The account of a sink that has just been opened: all frames are on their way. -/
theorem lossAccount_opened (step : pipelineStep before (.sessionOpen s) = some opened)
    (bytes : SessionBytes (before.sessions s)) (has : (opened.sessions s).sink = some i) :
    LossAccount before opened s i 0 opened ⟨0, 0, 0⟩ where
  counted := ⟨by simp, by simp, by simp⟩
  reported := Nat.zero_le _
  few := by decide
  kept := by
    obtain ⟨idle, -, ⟨j, -, rfl⟩ | ⟨-, rfl⟩⟩ := Pipeline.sessionOpen_cases step
    · have nothing : (before.sessions s).received = [] := by
        simp only [SessionBytes, idle] at bytes
        exact bytes.1
      have slot := Session.id_of_sink has
      simp only [Pipeline.setSession, Function.update_self, Nat.cast_inj] at slot
      obtain rfl : j = i := Fin.ext slot
      refine ⟨[], by simp [Pipeline.passed, Pipeline.setSession], .of_eq ?_⟩
      simp [Pipeline.course, Pipeline.queued, Pipeline.underway, Pipeline.ingested,
        Pipeline.rxPending, Pipeline.setSession, nothing, SinkSlot.opened, ingest_setSink]
    · simp [Pipeline.setSession, Session.sink] at has

end Account

section Runs

variable {before opened sys : Pipeline cfg} {s : ℕ} {i : Fin cfg.nmeaSinksMax}

theorem scanCounts_run {labels : List PipelineLabel}
    (ran : run pipelineStep pipelineInit labels = some sys) : ScanCounts sys :=
  Transitions.invariant (fun _ _ _ scan step => scan.step step) (scanCounts_of_unlocked rfl) ran

/-- After `steps` steps from where session `s` opened the sink, its account is kept up if it
still has the sink. -/
structure KeepsAccount (before opened : Pipeline cfg) (s : ℕ) (i : Fin cfg.nmeaSinksMax)
    (steps : ℕ) (now : Pipeline cfg) : Prop where
  whole : WholeLines now
  scan : ScanCounts now
  begun : (now.sessions s).phase ≠ .idle
  account : (now.sessions s).sink = some i → ∃ drops, LossAccount before opened s i steps now drops

theorem KeepsAccount.step {steps : ℕ} {now next : Pipeline cfg} {label : PipelineLabel}
    (kept : KeepsAccount before opened s i steps now) (step : pipelineStep now label = some next) :
    KeepsAccount before opened s i (steps + 1) next := by
  refine ⟨kept.whole.step step, kept.scan.step step, begun_step kept.begun step, fun has => ?_⟩
  have had := sink_of_step kept.begun step has
  obtain ⟨drops, account⟩ := kept.account had
  obtain ⟨more, flow⟩ := flow_step kept.whole.order kept.scan (Session.id_of_sink had)
    (Session.id_of_sink has) step
  exact ⟨_, account.step flow⟩

/-- While a session keeps the sink it opened, its account is kept up. -/
theorem lossAccount_run {earlier later : List PipelineLabel}
    (ranEarlier : run pipelineStep pipelineInit earlier = some before)
    (step : pipelineStep before (.sessionOpen s) = some opened)
    (ran : run pipelineStep opened later = some sys)
    (has : (opened.sessions s).sink = some i) (still : (sys.sessions s).sink = some i) :
    ∃ drops, LossAccount before opened s i later.length sys drops := by
  have whole := wholeLines_run ranEarlier
  have begun : (opened.sessions s).phase ≠ .idle := by
    obtain ⟨-, -, ⟨j, -, rfl⟩ | ⟨-, rfl⟩⟩ := Pipeline.sessionOpen_cases step <;>
      simp [Pipeline.setSession]
  have start : KeepsAccount before opened s i 0 opened :=
    ⟨whole.step step, (scanCounts_run ranEarlier).step step, begun,
      fun _ => ⟨_, lossAccount_opened step (whole.bytes s) has⟩⟩
  have account := Transitions.counted_invariant (fun _ _ _ _ kept => kept.step) start ran
  simpa using account.account still

/-- A counter that is where it was has counted nothing, unless it went all the way round. -/
theorem eq_zero_of_unmoved {before after : UInt32} {count : ℕ}
    (counted : after = before + .ofNat count) (unmoved : after = before)
    (few : count < 2 ^ 32) : count = 0 := by
  have nothing : UInt32.ofNat count = 0 := by
    rw [unmoved] at counted
    exact (add_eq_left (a := before)).mp counted.symm
  have value := congrArg UInt32.toNat nothing
  rwa [UInt32.toNat_ofNat', Nat.mod_eq_of_lt few] at value

end Runs

/-- Whatever the threads do while a session keeps the sink it opened: the frames it got and
will get are, in order, those that were on their way then and those that passed the filter
since, and no more of them are missing than its sink and the ingest queue have dropped. That
is at most one frame a step each, and what their counters have advanced by. -/
theorem every_loss_is_counted (cfg : Kconfig) (earlier later : List PipelineLabel)
    (before opened sys : Pipeline cfg) (s : ℕ) (i : Fin cfg.nmeaSinksMax)
    (ranEarlier : run pipelineStep pipelineInit earlier = some before)
    (step : pipelineStep before (.sessionOpen s) = some opened)
    (ran : run pipelineStep opened later = some sys)
    (has : (opened.sessions s).sink = some i) (still : (sys.sessions s).sink = some i) :
    ∃ since sinkDrops ingestDrops,
      sys.passed = before.passed ++ since ∧
      ((sys.sessions s).received ++ (sys.queued i ++ sys.underway i)).Sublist
        (before.underway i ++ since) ∧
      (before.underway i ++ since).length ≤
        ((sys.sessions s).received ++ (sys.queued i ++ sys.underway i)).length +
          (sinkDrops + ingestDrops) ∧
      sinkDrops ≤ later.length ∧ ingestDrops ≤ later.length ∧
      (sys.bridge.sinks i).stats.droppedOldest =
        (opened.bridge.sinks i).stats.droppedOldest + .ofNat sinkDrops ∧
      sys.bridge.stats.ingestDroppedOldest =
        opened.bridge.stats.ingestDroppedOldest + .ofNat ingestDrops := by
  obtain ⟨drops, account⟩ := lossAccount_run ranEarlier step ran has still
  obtain ⟨since, passed, kept⟩ := account.kept
  obtain ⟨fewSink, fewIngest, -⟩ := account.few
  exact ⟨since, drops.sink, drops.ingest, passed, kept.order, kept.few, fewSink, fewIngest,
    account.counted.sink, account.counted.ingest⟩

/-- A line waits in the ingest queue when the sink is opened; it is dispatched and taken
while the next one comes in. -/
def lineAcrossOpening : List PipelineLabel × List PipelineLabel :=
  ([.rxByte 0x41, .rxByte newline, .rxPut],
    [.dispatcherGet, .dispatcherLock, .rxByte 0x42, .dispatcherScan,
      .sessionRecv 0 (.error .eagain), .dispatcherScan, .dispatcherScan, .dispatcherScan,
      .dispatcherScan, .rxByte newline, .sessionCheck 0, .sessionGet 0])

theorem every_loss_is_counted_acrossOpening :
    let before := (run pipelineStep (pipelineInit : Pipeline prjConf)
      lineAcrossOpening.1).get (by decide)
    let opened := (pipelineStep before (.sessionOpen 0)).get (by decide)
    let sys := (run pipelineStep opened lineAcrossOpening.2).get (by decide)
    let i : Fin prjConf.nmeaSinksMax := ⟨0, by decide⟩
    ∃ since sinkDrops ingestDrops,
      sys.passed = before.passed ++ since ∧
      ((sys.sessions 0).received ++ (sys.queued i ++ sys.underway i)).Sublist
        (before.underway i ++ since) ∧
      (before.underway i ++ since).length ≤
        ((sys.sessions 0).received ++ (sys.queued i ++ sys.underway i)).length +
          (sinkDrops + ingestDrops) ∧
      sinkDrops ≤ lineAcrossOpening.2.length ∧ ingestDrops ≤ lineAcrossOpening.2.length ∧
      (sys.bridge.sinks i).stats.droppedOldest =
        (opened.bridge.sinks i).stats.droppedOldest + .ofNat sinkDrops ∧
      sys.bridge.stats.ingestDroppedOldest =
        opened.bridge.stats.ingestDroppedOldest + .ofNat ingestDrops :=
  every_loss_is_counted prjConf lineAcrossOpening.1 lineAcrossOpening.2 _ _ _ 0 ⟨0, by decide⟩
    (Option.some_get _).symm (Option.some_get _).symm (Option.some_get _).symm (by decide)
    (by decide)

/-- Counters of the bridge that show no drop since the sink was opened, in fewer than
`2 ^ 31` steps and with no put under way: the client has got, or will get, every frame that
was on its way then or passed the filter since. -/
theorem gapless_without_drops (cfg : Kconfig) (earlier later : List PipelineLabel)
    (before opened sys : Pipeline cfg) (s : ℕ) (i : Fin cfg.nmeaSinksMax)
    (ranEarlier : run pipelineStep pipelineInit earlier = some before)
    (step : pipelineStep before (.sessionOpen s) = some opened)
    (ran : run pipelineStep opened later = some sys)
    (has : (opened.sessions s).sink = some i) (still : (sys.sessions s).sink = some i)
    (short : later.length < 2 ^ 31) (unlocked : sys.dispatcher.locked = false)
    (ingest : sys.bridge.stats.ingestDroppedOldest = opened.bridge.stats.ingestDroppedOldest)
    (sinks : sys.bridge.stats.sinkDroppedOldest = opened.bridge.stats.sinkDroppedOldest) :
    ∃ since, sys.passed = before.passed ++ since ∧
      (sys.sessions s).received ++ (sys.queued i ++ sys.underway i) =
        before.underway i ++ since := by
  obtain ⟨drops, account⟩ := lossAccount_run ranEarlier step ran has still
  obtain ⟨-, fewIngest, fewBridge⟩ := account.few
  have noIngest : drops.ingest = 0 := eq_zero_of_unmoved account.counted.ingest ingest (by omega)
  have noBridge : drops.bridge = 0 := eq_zero_of_unmoved account.counted.bridge sinks (by omega)
  have settled : sys.dispatcher.uncounted i = 0 := by
    cases standing : sys.dispatcher <;> simp_all [DispatcherPhase.uncounted, DispatcherPhase.locked]
  have noSink : drops.sink = 0 := by
    have := account.reported
    omega
  obtain ⟨since, passed, kept⟩ := account.kept
  rw [noSink, noIngest] at kept
  exact ⟨since, passed, kept.eq⟩

theorem gapless_without_drops_acrossOpening :
    let before := (run pipelineStep (pipelineInit : Pipeline prjConf)
      lineAcrossOpening.1).get (by decide)
    let opened := (pipelineStep before (.sessionOpen 0)).get (by decide)
    let sys := (run pipelineStep opened lineAcrossOpening.2).get (by decide)
    let i : Fin prjConf.nmeaSinksMax := ⟨0, by decide⟩
    ∃ since, sys.passed = before.passed ++ since ∧
      (sys.sessions 0).received ++ (sys.queued i ++ sys.underway i) =
        before.underway i ++ since :=
  gapless_without_drops prjConf lineAcrossOpening.1 lineAcrossOpening.2 _ _ _ 0 ⟨0, by decide⟩
    (Option.some_get _).symm (Option.some_get _).symm (Option.some_get _).symm (by decide)
    (by decide) (by decide) (by decide) (by decide) (by decide)

end EspNmeaBridge
