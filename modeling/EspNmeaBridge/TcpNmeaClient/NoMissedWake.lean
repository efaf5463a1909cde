/-
# The client never misses a wake-up

A disabled client sleeps on the semaphore without a time limit. It decided to on a
snapshot, and the token that a change gives may have been taken by another wait before;
still no change is lost, because the thread reads the configuration behind every wait and
every change of value gives a token after it was stored.

So a sleeping thread without a token has read a disabled configuration, and if that is no
longer the effective one, the setter that replaced it is still on its way to the semaphore.
-/

import EspNmeaBridge.TcpNmeaClient.StaleTarget

namespace EspNmeaBridge

/-- What a setter replaced whose listener call is not complete. -/
def WebThread.replaced : WebThread → Option BridgeConfigTcpClient
  | .idle => none
  | .notified before | .read before _ | .bumping before | .shutting before => some before

/-- In the wait without a time limit. -/
def TcpClientWorld.Asleep (world : TcpClientWorld) : Prop := world.thread = .disabled

/-- The listener knows what it has seen, and a sleeping thread has a token, or reason to
sleep, or a token coming. -/
structure WakeInvariant (world : TcpClientWorld) : Prop where
  listening : world.config.listener = true
  seenValid : world.client.seenCfgValid = true
  knows : world.web.Knows world.client.seenCfg world.effective
  awake : world.Asleep → world.client.configChangeSem = true ∨ world.effective.enabled = false ∨
    world.web.bumpComing world.effective

section Steps

variable {build : ConfigBuild} {world next : TcpClientWorld}

theorem WakeInvariant.thread {result : CallResult} (inv : WakeInvariant world)
    (stepped : threadStep world result = some next) : WakeInvariant next := by
  have frame := threadStep_frame stepped
  have effective : next.effective = world.effective := by
    simp only [TcpClientWorld.effective, frame.config]
  refine ⟨frame.config ▸ inv.listening, frame.seenCfgValid.trans inv.seenValid, ?_, fun now => ?_⟩
  · rw [frame.web, frame.seenCfg, effective]
    exact inv.knows
  · rw [effective]
    exact .inr (.inl (frame.disabled now))

/-- A setter that changes the client's value is on its way to the semaphore from then on. -/
theorem WakeInvariant.webCall {called : ConfigWorld × ConfigAnswer} (inv : WakeInvariant world)
    (listening : called.1.listener = true)
    (quiet : called.2.notified = false →
      (called.1.config .tcpClient).value = world.effective.value)
    (stepped : webCall world called = some next) : WakeInvariant next := by
  have knows := inv.knows
  have awake := inv.awake
  obtain ⟨web, rfl⟩ := webCall_cases stepped
  rw [web] at knows awake
  -- With the same value the client stays as enabled or disabled as it was.
  have sameEnabled (same : (called.1.config .tcpClient).value = world.effective.value) :
      (called.1.config .tcpClient).enabled = world.effective.enabled :=
    congrArg Prod.fst same
  have still (asleep : world.Asleep) : world.client.configChangeSem = true ∨
      world.effective.enabled = false :=
    (awake asleep).imp_right fun reason => reason.resolve_right id
  refine ⟨listening, inv.seenValid, ?_, fun asleep => ?_⟩
  · cases notified : called.2.notified with
    | true => exact knows
    | false => exact knows.trans (quiet notified).symm
  · by_cases same : (called.1.config .tcpClient).value = world.effective.value
    · exact (still asleep).imp_right fun off => .inl ((sameEnabled same).trans off)
    · have notified : called.2.notified = true := by
        by_contra silent
        exact same (quiet (by simpa using silent))
      refine .inr (.inr ?_)
      dsimp only
      rw [if_pos notified]
      exact Ne.symm same

/-- The listener gives the token before it is done with a change. -/
theorem WakeInvariant.listen (inv : WakeInvariant world)
    (stepped : listenStep world = some next) : WakeInvariant next := by
  have knows := inv.knows
  have awake := inv.awake
  cases listenStep_effect stepped with
  | reads before web =>
    rw [web] at knows awake
    exact ⟨inv.listening, inv.seenValid, ⟨knows, rfl⟩, awake⟩
  | sees before cfg web changed =>
    rw [web] at knows
    obtain ⟨seen, rfl⟩ := knows
    rw [configDiffers_iff inv.seenValid, seen] at changed
    exact ⟨inv.listening, rfl, ⟨rfl, changed⟩, fun _ => .inr (.inr trivial)⟩
  | ignores before cfg web unchanged =>
    rw [web] at knows awake
    obtain ⟨seen, rfl⟩ := knows
    -- No change was seen because there was none.
    have same : before.value = world.effective.value := by
      by_contra changed
      rw [← seen, ← ne_eq, ← configDiffers_iff inv.seenValid, unchanged] at changed
      cases changed
    refine ⟨inv.listening, rfl, rfl, fun asleep => ?_⟩
    exact (awake asleep).imp_right fun reason =>
      .inl (reason.resolve_right fun coming => coming same)
  | bumps before web =>
    rw [web] at knows
    exact ⟨inv.listening, inv.seenValid, knows, fun _ => .inl rfl⟩
  | returns before web =>
    rw [web] at knows awake
    exact ⟨inv.listening, inv.seenValid, knows.1, fun asleep =>
      (awake asleep).imp_right fun reason => .inl (reason.resolve_right id)⟩
  | shuts before fd web =>
    rw [web] at knows awake
    exact ⟨inv.listening, inv.seenValid, knows.1, fun asleep =>
      (awake asleep).imp_right fun reason => .inl (reason.resolve_right id)⟩

theorem tcpClientStep_wakeInvariant {label : TcpClientLabel} (inv : WakeInvariant world)
    (stepped : tcpClientStep build world label = some next) : WakeInvariant next := by
  cases label with
  | set g v saveRet =>
    refine inv.webCall ?_ (fun quiet => ?_) stepped
    · rw [bridgeConfigSet_listener, inv.listening]
    · exact bridgeConfigSet_quiet inv.listening quiet .tcpClient rfl
  | factoryReset order deleteRet =>
    exact inv.webCall inv.listening (fun _ => rfl) stepped
  | listen => exact inv.listen stepped
  | thread result => exact inv.thread stepped
  | othersOpen fd socket =>
    obtain ⟨-, rfl⟩ := othersOpen_cases stepped
    exact ⟨inv.listening, inv.seenValid, inv.knows, inv.awake⟩
  | othersClose fd =>
    obtain ⟨socket, -, -, rfl⟩ := othersClose_cases stepped
    exact ⟨inv.listening, inv.seenValid, inv.knows, inv.awake⟩

theorem tcpClientStart_wakeInvariant (config : ConfigWorld) (sockets : SocketTable) :
    WakeInvariant (tcpClientStart config sockets) where
  listening := (tcpClientStart_invariant config sockets).listening
  seenValid := (tcpClientStart_invariant config sockets).seenValid
  knows := (tcpClientStart_invariant config sockets).knows
  awake asleep := by cases asleep

end Steps

/-- In every run, while the thread is blocked without a token the effective client is
disabled, or a setter that stored another value has not completed its listener call. -/
theorem client_never_misses_wake_up (build : ConfigBuild) (config : ConfigWorld)
    (sockets : SocketTable) (labels : List TcpClientLabel) (world : TcpClientWorld)
    (ran : Transitions.run (tcpClientStep build) (tcpClientStart config sockets) labels =
      some world)
    (asleep : world.Asleep) (empty : world.client.configChangeSem = false) :
    world.effective.enabled = false ∨
      ∃ before ∈ world.web.replaced, before.value ≠ world.effective.value := by
  have inv : WakeInvariant world :=
    Transitions.invariant (fun _ _ _ inv stepped => tcpClientStep_wakeInvariant inv stepped)
      (tcpClientStart_wakeInvariant config sockets) ran
  have knows := inv.knows
  rcases inv.awake asleep with token | off | coming
  · simp [empty] at token
  · exact .inl off
  · -- The token is still to be given, by the listener's call that is under way.
    right
    cases web : world.web with
    | idle => simp [web, WebThread.bumpComing] at coming
    | notified before =>
      rw [web] at coming
      exact ⟨before, rfl, coming⟩
    | read before cfg =>
      rw [web] at coming
      exact ⟨before, rfl, coming⟩
    | bumping before =>
      rw [web] at knows
      exact ⟨before, rfl, knows.2⟩
    | shutting before => simp [web, WebThread.bumpComing] at coming

/-- A disabled target, the stale token of its own change taken, and then an enabled one
stored while the thread sleeps. -/
def wakeSteps : List TcpClientLabel :=
  changeSteps ⟨false, .ofBytes _ [], 10110⟩ ++ List.replicate 5 (.thread .ok) ++
    [.set .tcpClient (some (turnTarget 1)) none]

theorem client_never_misses_wake_up_stored :
    ∃ world, Transitions.run (tcpClientStep sampleBuild) (tcpClientStart turnWorld fun _ => none)
        wakeSteps = some world ∧
      (world.Asleep ∧ world.client.configChangeSem = false ∧ world.effective.enabled = true) ∧
      (world.effective.enabled = false ∨
        ∃ before ∈ world.web.replaced, before.value ≠ world.effective.value) :=
  ⟨_, rfl, ⟨rfl, rfl, rfl⟩, client_never_misses_wake_up sampleBuild turnWorld (fun _ => none)
    wakeSteps _ rfl rfl rfl⟩

end EspNmeaBridge
