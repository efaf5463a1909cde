/-
# Who has which sink

A session opens a sink before anything else and closes it after everything else, and no
other thread opens or closes one. So the open sinks are exactly those in the hands of the
sessions that run, one each.
-/

import EspNmeaBridge.Lib.Custody
import EspNmeaBridge.Pipeline.InOrder

namespace EspNmeaBridge

variable {cfg : Kconfig}

/-- The sink a session's handle names, if it names one. -/
def Session.sink (session : Session cfg) : Option (Fin cfg.nmeaSinksMax) :=
  if inside : 0 ≤ session.sinkId ∧ session.sinkId < cfg.nmeaSinksMax then
    some ⟨session.sinkId.toNat, by omega⟩
  else none

theorem Session.sink_of_id {session : Session cfg} {i : Fin cfg.nmeaSinksMax}
    (id : session.sinkId = i.val) : session.sink = some i := by
  have inside := i.isLt
  rw [Session.sink, dif_pos (by omega)]
  simp [id]

theorem Session.sink_of_unopened {session : Session cfg} (id : session.sinkId = -1) :
    session.sink = none := by
  rw [Session.sink, dif_neg (by omega)]

theorem Session.id_of_sink {session : Session cfg} {i : Fin cfg.nmeaSinksMax}
    (has : session.sink = some i) : session.sinkId = i.val := by
  unfold Session.sink at has
  split_ifs at has
  obtain rfl := Option.some.inj has
  simp
  omega

/-- Between the opening of the sink and its close. -/
def SessionPhase.running : SessionPhase cfg → Bool
  | .idle | .ended _ => false
  | _ => true

/-! ## What a step does to sessions and sinks -/

/-- The effect of a step, as far as sinks are opened and closed by it. -/
inductive SinkEffect (sys : Pipeline cfg) (label : PipelineLabel) (next : Pipeline cfg) : Prop
  /-- A step of another thread. -/
  | elsewhere (sessions : next.sessions = sys.sessions)
      (active : ∀ i, (next.bridge.sinks i).active = (sys.bridge.sinks i).active)
  /-- A running session goes on. -/
  | goesOn (s : ℕ) (session : Session cfg) (acts : label.session = some s)
      (sessions : next.sessions = Function.update sys.sessions s session)
      (ran : (sys.sessions s).phase.running = true) (runs : session.phase.running = true)
      (sameSink : session.sink = (sys.sessions s).sink)
      (active : ∀ i, (next.bridge.sinks i).active = (sys.bridge.sinks i).active)
  /-- A session opens a sink. -/
  | opened (s : ℕ) (session : Session cfg) (i : Fin cfg.nmeaSinksMax)
      (acts : label = .sessionOpen s)
      (sessions : next.sessions = Function.update sys.sessions s session)
      (idle : (sys.sessions s).phase = .idle) (runs : session.phase.running = true)
      (sink : session.sink = some i) (inactive : (sys.bridge.sinks i).active = false)
      (active : ∀ j, (next.bridge.sinks j).active = true ↔
        j = i ∨ (sys.bridge.sinks j).active = true)
  /-- No sink is left. -/
  | refused (s : ℕ) (session : Session cfg) (acts : label = .sessionOpen s)
      (sessions : next.sessions = Function.update sys.sessions s session)
      (idle : (sys.sessions s).phase = .idle) (stopped : session.phase.running = false)
      (sink : session.sink = none) (exhausted : (nmeaBridgeSinkOpen sys.bridge).2 = none)
      (active : ∀ i, (next.bridge.sinks i).active = (sys.bridge.sinks i).active)
  /-- A session closes its sink. -/
  | closed (s : ℕ) (session : Session cfg) (acts : label.session = some s)
      (sessions : next.sessions = Function.update sys.sessions s session)
      (ran : (sys.sessions s).phase.running = true) (stopped : session.phase.running = false)
      (sink : session.sink = none)
      (active : ∀ i, (next.bridge.sinks i).active = true ↔
        (sys.sessions s).sink ≠ some i ∧ (sys.bridge.sinks i).active = true)

section Effects

variable {sys next : Pipeline cfg}

theorem running_drainSocketRx (afterSend : Bool) (result : RecvResult) :
    (drainSocketRx afterSend result : SessionPhase cfg).running = true := by
  unfold drainSocketRx
  split <;> (try split_ifs) <;> rfl

theorem running_sendAll (frame : NmeaFrame cfg) (sentTotal : ℕ) :
    (sendAll frame sentTotal).running = true := by
  unfold sendAll
  split_ifs <;> rfl

theorem running_sendAllResult (frame : NmeaFrame cfg) (sentTotal : ℕ) (result : SendResult) :
    (sendAllResult frame sentTotal result).running = true := by
  unfold sendAllResult
  split <;> split_ifs <;> first | exact running_sendAll _ _ | rfl

/-- Receiving, checking and sending happen in a running session, which runs on. -/
theorem running_recv {session after : Session cfg} {result : RecvResult}
    (step : session.recv result = some after) :
    session.phase.running = true ∧ after.phase.running = true ∧ after.sinkId = session.sinkId := by
  obtain ⟨afterSend, phase, rfl⟩ := Session.recv_cases step
  exact ⟨by rw [phase]; rfl, running_drainSocketRx _ _, rfl⟩

theorem running_checked {session after : Session cfg}
    {result : Except Errno (Fin cfg.nmeaSinksMax)} (step : session.checked result = some after) :
    session.phase.running = true ∧ after.phase.running = true ∧ after.sinkId = session.sinkId := by
  obtain ⟨phase, ⟨_, -, rfl⟩ | ⟨-, rfl⟩ | ⟨_, -, -, rfl⟩⟩ := Session.checked_cases step
  · exact ⟨by rw [phase]; rfl, rfl, rfl⟩
  · exact ⟨by rw [phase]; rfl, rfl, rfl⟩
  · exact ⟨by rw [phase]; rfl, rfl, rfl⟩

theorem running_send {session after : Session cfg} {result : SendResult}
    (step : session.send result = some after) :
    session.phase.running = true ∧ after.phase.running = true ∧ after.sinkId = session.sinkId := by
  obtain ⟨frame, sentTotal, accepted, phase, rfl, -⟩ := Session.send_cases step
  exact ⟨by rw [phase]; rfl, running_sendAllResult frame sentTotal result, rfl⟩

theorem running_took (session : Session cfg) (frame : Option (NmeaFrame cfg)) :
    (session.took frame).phase.running = true ∧
      (session.took frame).sinkId = session.sinkId := by
  cases frame with
  | none => exact ⟨rfl, rfl⟩
  | some frame => exact ⟨running_sendAll frame 0, rfl⟩

theorem Session.sink_congr {session after : Session cfg} (same : after.sinkId = session.sinkId) :
    after.sink = session.sink := by
  simp only [Session.sink, same]

theorem scanSlot_effect (label : PipelineLabel) (frame : NmeaFrame cfg) (i : Fin cfg.nmeaSinksMax)
    (any : Bool) (phase : PutPhase) (before : UInt32) :
    SinkEffect sys label (sys.scanSlot frame i any phase before) := by
  obtain ⟨slot, stats, slotNext, any', phase', before', shape, active, -⟩ :=
    scanSlot_shape sys frame i any phase before
  rw [shape]
  refine .elsewhere rfl fun j => ?_
  by_cases here : j = i
  · subst here
    simpa using active
  · simp [Function.update_of_ne here]

/-- Neither reader nor dispatcher opens or closes a sink. -/
theorem queue_effect {label : PipelineLabel} (others : label.session = none)
    (step : pipelineStep sys label = some next) : SinkEffect sys label next := by
  cases label with
  | setAisConfig filterEnabled ownMmsi =>
    obtain rfl := Option.some.inj step
    exact .elsewhere rfl fun _ => rfl
  | rxLoopHead =>
    obtain ⟨-, rfl⟩ := Pipeline.rxLoopHead_cases step
    exact .elsewhere rfl fun _ => rfl
  | rxByte ch =>
    obtain ⟨-, rx, handed, received, -, rfl,
      ⟨-, rfl⟩ | ⟨frame, bridge, _, -, accepted, rfl⟩ | ⟨frame, bridge, _, -, accepted, rfl⟩⟩ :=
        Pipeline.rxByte_cases step
    · exact .elsewhere rfl fun _ => rfl
    all_goals
      -- the frame is checked for publication, which leaves the sinks as they are
      have sinks := (acceptFrame_queues sys.bridge frame).2.1
      rw [accepted] at sinks
      exact .elsewhere rfl fun i => by rw [← sinks]
  | rxPut =>
    obtain ⟨frame, phase, ingest, dropped, goesOn, -, -, rfl⟩ := Pipeline.rxPut_cases step
    exact .elsewhere rfl fun _ => rfl
  | dispatcherGet =>
    obtain ⟨ingest, frame, -, -, rfl⟩ := Pipeline.dispatcherGet_cases step
    exact .elsewhere rfl fun _ => rfl
  | dispatcherLock =>
    obtain ⟨frame, -, rfl⟩ := Pipeline.dispatcherLock_cases step
    exact .elsewhere rfl fun _ => rfl
  | dispatcherScan =>
    obtain ⟨frame, slot, any, phase, before, -, ⟨_, -, -, rfl⟩ | ⟨_, -, rfl⟩ | ⟨-, _, -, rfl⟩⟩ :=
      Pipeline.dispatcherScan_cases step
    · exact .elsewhere rfl fun _ => rfl
    · exact scanSlot_effect _ _ _ _ _ _
    · exact .elsewhere rfl fun _ => rfl
  | _ => simp [PipelineLabel.session] at others

/-- A step inside a session keeps the session running, with the sink it has. -/
theorem SinkEffect.of_running {label : PipelineLabel} {s : ℕ} {session : Session cfg}
    (acts : label.session = some s) (ran : (sys.sessions s).phase.running = true)
    (runs : session.phase.running = true) (sameId : session.sinkId = (sys.sessions s).sinkId)
    {bridge : NmeaBridge cfg}
    (active : ∀ i, (bridge.sinks i).active = (sys.bridge.sinks i).active) :
    SinkEffect sys label ({ sys with bridge }.setSession s session) :=
  .goesOn s session acts rfl ran runs (Session.sink_congr sameId) active

theorem sessionOpen_effect {s : ℕ} (step : pipelineStep sys (.sessionOpen s) = some next) :
    SinkEffect sys (.sessionOpen s) next := by
  obtain ⟨idle, -, ⟨i, inactive, rfl⟩ | ⟨full, rfl⟩⟩ := Pipeline.sessionOpen_cases step
  · refine .opened s _ i rfl rfl idle rfl (Session.sink_of_id rfl) inactive fun j => ?_
    by_cases here : j = i
    · subst here
      simp [Pipeline.setSession, SinkSlot.opened]
    · simp [Pipeline.setSession, here]
  · exact .refused s _ rfl rfl idle rfl (Session.sink_of_unopened rfl) (by rw [full]) fun _ => rfl

theorem sessionClose_effect {s : ℕ} (step : pipelineStep sys (.sessionClose s) = some next) :
    SinkEffect sys (.sessionClose s) next := by
  obtain ⟨result, bridge, sinkId, closing, -, closed, rfl⟩ := Pipeline.sessionClose_cases step
  have ran : (sys.sessions s).phase.running = true := by
    rw [closing]
    rfl
  cases has : (sys.sessions s).sink with
  | none =>
    -- a handle that names no sink is not closed
    have outside : (sys.sessions s).sinkId < 0 ∨ cfg.nmeaSinksMax ≤ (sys.sessions s).sinkId := by
      unfold Session.sink at has
      split_ifs at has
      omega
    have unchanged : nmeaBridgeSinkClose sys.bridge (sys.sessions s).sinkId =
        (sys.bridge, (sys.sessions s).sinkId) := dif_pos outside
    obtain ⟨rfl, rfl⟩ := Prod.mk.inj (unchanged.symm.trans closed)
    refine .closed s _ rfl rfl ran rfl ((Session.sink_congr rfl).trans has) fun i => ?_
    simp [has, Pipeline.setSession]
  | some i =>
    rw [Session.id_of_sink has, nmeaBridgeSinkClose_slot] at closed
    obtain ⟨rfl, rfl⟩ := Prod.mk.inj closed
    refine .closed s _ rfl rfl ran rfl (Session.sink_of_unopened rfl) fun j => ?_
    by_cases here : j = i
    · subst here
      simp [has, Pipeline.setSession]
    · have other : (sys.sessions s).sink ≠ some j := by
        rw [has]
        exact fun same => here (Option.some.inj same).symm
      simp [other, here, Pipeline.setSession]

theorem pipelineStep_effect {label : PipelineLabel} (step : pipelineStep sys label = some next) :
    SinkEffect sys label next := by
  cases label with
  | sessionOpen s => exact sessionOpen_effect step
  | sessionRecv s result =>
    obtain ⟨session, received, rfl⟩ := Option.map_eq_some_iff.mp step
    obtain ⟨ran, runs, sameId⟩ := running_recv received
    exact .of_running rfl ran runs sameId fun _ => rfl
  | sessionCheck s =>
    obtain ⟨-, session, checked, rfl⟩ := Pipeline.sessionCheck_cases step
    obtain ⟨ran, runs, sameId⟩ := running_checked checked
    exact .of_running rfl ran runs sameId fun _ => rfl
  | sessionGet s =>
    obtain ⟨i, bridge, frame, taking, got, rfl⟩ := Pipeline.sessionGet_cases step
    obtain ⟨runs, sameId⟩ := running_took (sys.sessions s) frame
    have ran : (sys.sessions s).phase.running = true := by
      rw [taking]
      rfl
    have kept := getFromSink_keeps sys.bridge i
    rw [got] at kept
    exact .of_running rfl ran runs sameId fun j => (kept j).1
  | sessionSend s result =>
    obtain ⟨session, sent, rfl⟩ := Option.map_eq_some_iff.mp step
    obtain ⟨ran, runs, sameId⟩ := running_send sent
    exact .of_running rfl ran runs sameId fun _ => rfl
  | sessionClose s => exact sessionClose_effect step
  | _ => exact queue_effect rfl step

/-- A step changes at most the session it belongs to. -/
theorem SinkEffect.sessions_of_others {label : PipelineLabel} {s : ℕ}
    (effect : SinkEffect sys label next) (others : label.session ≠ some s) :
    next.sessions s = sys.sessions s := by
  have apart {t : ℕ} {session : Session cfg} (acts : label.session = some t)
      (sessions : next.sessions = Function.update sys.sessions t session) :
      next.sessions s = sys.sessions s := by
    have other : s ≠ t := fun same => others (same ▸ acts)
    rw [sessions, Function.update_of_ne other]
  cases effect with
  | elsewhere sessions => rw [sessions]
  | goesOn t session acts sessions => exact apart acts sessions
  | opened t session i acts sessions => exact apart (by rw [acts]; rfl) sessions
  | refused t session acts sessions => exact apart (by rw [acts]; rfl) sessions
  | closed t session acts sessions => exact apart acts sessions

end Effects

/-! ## The invariant -/

/-- The open sinks are in the hands of the sessions, and a session that does not run has
none. -/
structure SinkCustody (sys : Pipeline cfg) : Prop where
  exclusive : ExclusiveCustody (fun s => (sys.sessions s).sink)
    fun i => (sys.bridge.sinks i).active = true
  parked : ∀ s, (sys.sessions s).phase.running = false → (sys.sessions s).sink = none

theorem sinkCustody_init : SinkCustody (pipelineInit : Pipeline cfg) where
  exclusive := ExclusiveCustody.nobody.congr (fun _ => Session.sink_of_unopened rfl)
    (by simp [pipelineInit, nmeaBridgeInit])
  parked _ _ := Session.sink_of_unopened rfl

section Invariant

variable {sys next : Pipeline cfg} {label : PipelineLabel}

/-- One session changes; the others keep what they have. -/
theorem sink_update_of_ne {s t : ℕ} {session : Session cfg}
    (sessions : next.sessions = Function.update sys.sessions s session) (other : t ≠ s) :
    (next.sessions t).sink = (sys.sessions t).sink := by
  rw [sessions, Function.update_of_ne other]

theorem parked_update {s : ℕ} {session : Session cfg} (custody : SinkCustody sys)
    (sessions : next.sessions = Function.update sys.sessions s session)
    (here : session.phase.running = false → session.sink = none) (t : ℕ)
    (stopped : (next.sessions t).phase.running = false) : (next.sessions t).sink = none := by
  rw [sessions] at stopped ⊢
  by_cases same : t = s
  · subst same
    rw [Function.update_self] at stopped ⊢
    exact here stopped
  · rw [Function.update_of_ne same] at stopped ⊢
    exact custody.parked t stopped

theorem SinkCustody.effect (custody : SinkCustody sys) (effect : SinkEffect sys label next) :
    SinkCustody next := by
  cases effect with
  | elsewhere sessions active =>
    refine ⟨custody.exclusive.congr (fun s => by rw [sessions]) fun i => by rw [active],
      fun s stopped => ?_⟩
    rw [sessions] at stopped ⊢
    exact custody.parked s stopped
  | goesOn s session acts sessions ran runs sameSink active =>
    refine ⟨custody.exclusive.congr (fun t => ?_) fun i => by rw [active],
      parked_update custody sessions fun stopped => by simp [runs] at stopped⟩
    by_cases same : t = s
    · subst same
      rw [sessions, Function.update_self, sameSink]
    · exact sink_update_of_ne sessions same
  | opened s session i acts sessions idle runs sink inactive active =>
    -- A session that has not begun holds no sink.
    have none_yet : (sys.sessions s).sink = none := custody.parked s (by rw [idle]; rfl)
    refine ⟨custody.exclusive.take (by simp [inactive]) none_yet ?_
      (fun t => sink_update_of_ne sessions) active,
      parked_update custody sessions fun stopped => by simp [runs] at stopped⟩
    rw [sessions, Function.update_self, sink]
  | refused s session acts sessions idle stopped sink exhausted active =>
    have none_yet : (sys.sessions s).sink = none := custody.parked s (by rw [idle]; rfl)
    refine ⟨custody.exclusive.congr (fun t => ?_) fun i => by rw [active],
      parked_update custody sessions fun _ => sink⟩
    by_cases same : t = s
    · subst same
      rw [sessions, Function.update_self, sink, none_yet]
    · exact sink_update_of_ne sessions same
  | closed s session acts sessions ran stopped sink active =>
    refine ⟨?_, parked_update custody sessions fun _ => sink⟩
    have gone : (next.sessions s).sink = none := by rw [sessions, Function.update_self, sink]
    have others (t : ℕ) (other : t ≠ s) : (next.sessions t).sink = (sys.sessions t).sink :=
      sink_update_of_ne sessions other
    cases has : (sys.sessions s).sink with
    | some i =>
      -- The sink it gives back is the one that is no longer active.
      refine custody.exclusive.drop has gone others fun j => ?_
      rw [active j, has, Ne, Option.some.injEq, eq_comm (a := i)]
    | none =>
      refine custody.exclusive.congr (fun t => ?_) fun j => by simp [active j, has]
      by_cases same : t = s
      · subst same
        rw [gone, has]
      · exact others t same

end Invariant

end EspNmeaBridge
