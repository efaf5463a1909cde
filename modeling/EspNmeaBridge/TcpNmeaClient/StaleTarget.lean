/-
# No session stays with a stale target

A change of the configuration can find the client thread anywhere: before its
snapshot, on the way to a connection, or in a session. Every change of value counts
the generation up and shuts the registered socket down. So a snapshot is up to date,
or the generation has moved on since it was taken, or the call that will move it is
under way; and a session with an older snapshot is shut down, or about to be.

The generation is compared in 32 bits. The law therefore asks that never `2 ^ 32`
changes fall between the thread's reading of the generation and its last check.
-/

import EspNmeaBridge.TcpNmeaClient

namespace EspNmeaBridge

/-! ## Where the threads stand -/

namespace ClientThread

/-- The generation read for the current attempt. -/
@[simp] def gen : ClientThread → Option ℕ
  | .haveGen gen | .resolving gen _ | .waiting gen _ | .rechecking gen _ | .creating gen _
  | .opened gen _ _ | .registered gen _ _ | .connecting gen _ _ | .connected gen _ _ => some gen
  | _ => none

/-- The snapshot of the current attempt, up to its last check. -/
@[simp] def snapshot : ClientThread → Option (ℕ × BridgeConfigTcpClient)
  | .resolving gen cfg | .waiting gen cfg | .rechecking gen cfg | .creating gen cfg
  | .opened gen cfg _ | .registered gen cfg _ | .connecting gen cfg _
  | .connected gen cfg _ => some (gen, cfg)
  | _ => none

/-- The descriptor the thread has open. -/
@[simp] def openFd : ClientThread → Option ℕ
  | .opened _ _ fd | .registered _ _ fd | .connecting _ _ fd | .connected _ _ fd
  | .shuttingDown _ fd | .session _ fd | .closing fd _ => some fd
  | _ => none

/-- The descriptor the thread has registered in `session_fd`. -/
@[simp] def registeredFd : ClientThread → Option ℕ
  | .opened _ _ _ => none
  | thread => thread.openFd

@[simp] def isConnected : ClientThread → Bool
  | .connected _ _ _ | .shuttingDown _ _ | .session _ _ => true
  | _ => false

end ClientThread

namespace WebThread

/-- The listener is under way with a change that has not reached the generation. -/
def bumpComing (effective : BridgeConfigTcpClient) : WebThread → Prop
  | .notified before | .read before _ => before.value ≠ effective.value
  | .bumping _ => True
  | _ => False

/-- The listener is under way with a change that has not reached the socket. -/
def shutdownComing (effective : BridgeConfigTcpClient) : WebThread → Prop
  | .shutting _ => True
  | web => web.bumpComing effective

theorem shutdownComing_of_bumpComing {effective : BridgeConfigTcpClient} {web : WebThread}
    (coming : web.bumpComing effective) : web.shutdownComing effective := by
  cases web with
  | shutting before => trivial
  | _ => exact coming

/-- What the listener knows at each of its steps. -/
def Knows (seen effective : BridgeConfigTcpClient) : WebThread → Prop
  | .idle => seen.value = effective.value
  | .notified before => seen.value = before.value
  | .read before cfg => seen.value = before.value ∧ cfg = effective
  | .bumping before | .shutting before =>
    seen.value = effective.value ∧ before.value ≠ effective.value

end WebThread

/-- The call hit an open socket of the client thread, and a listener made it only for a
change of value. -/
def ShutdownCall.Proper (call : ShutdownCall) : Prop :=
  (∃ socket, call.target = some socket ∧ socket.ours = true) ∧
    ∀ before after, call.cause = .configChanged before after → before.value ≠ after.value

structure ClientInvariant (world : TcpClientWorld) : Prop where
  listening : world.config.listener = true
  seenValid : world.client.seenCfgValid = true
  knows : world.web.Knows world.client.seenCfg world.effective
  registered : world.client.sessionFd = world.thread.registeredFd
  socket : ∀ fd, world.thread.openFd = some fd → ∃ socket, world.sockets fd = some socket ∧
    socket.ours = true ∧ (world.thread.isConnected = true → socket.connected = true)
  gen : ∀ gen, world.thread.gen = some gen → gen ≤ world.client.configGen
  snapshot : ∀ gen cfg, world.thread.snapshot = some (gen, cfg) →
    cfg.value ≠ world.effective.value →
      gen < world.client.configGen ∨ world.web.bumpComing world.effective
  session : ∀ cfg fd, world.thread = .session cfg fd → cfg.value ≠ world.effective.value →
    (∃ socket, world.sockets fd = some socket ∧ socket.eof = true) ∨
      world.web.shutdownComing world.effective
  proper : ∀ call ∈ world.shutdowns, call.Proper

/-- Fewer than `2 ^ 32` changes since the thread read the generation. -/
def WithinTurn (world : TcpClientWorld) : Prop :=
  ∀ gen, world.thread.gen = some gen → world.client.configGen < gen + 2 ^ 32

/-- A step to `next` that opens, registers and reads nothing. -/
structure ClientThread.Moves (thread next : ClientThread) : Prop where
  registered : next.registeredFd = thread.registeredFd
  opened : ∀ fd, next.openFd = some fd → thread.openFd = some fd
  connected : next.isConnected = true → thread.isConnected = true
  gen : ∀ gen, next.gen = some gen → thread.gen = some gen
  snapshot : ∀ taken, next.snapshot = some taken → thread.snapshot = some taken
  session : ∀ cfg fd, next ≠ .session cfg fd

/-! ## The steps of the client thread -/

section Thread

variable {world next : TcpClientWorld}

/-- The thread moves on and leaves the shared data alone. -/
theorem ClientInvariant.move (inv : ClientInvariant world) {thread : ClientThread}
    (moves : world.thread.Moves thread) : ClientInvariant { world with thread } where
  listening := inv.listening
  seenValid := inv.seenValid
  knows := inv.knows
  registered := inv.registered.trans moves.registered.symm
  socket fd held := by
    obtain ⟨socket, stored, ours, isConnected⟩ := inv.socket fd (moves.opened fd held)
    exact ⟨socket, stored, ours, fun now => isConnected (moves.connected now)⟩
  gen g held := inv.gen g (moves.gen g held)
  snapshot g cfg held := inv.snapshot g cfg (moves.snapshot _ held)
  session cfg fd inside := absurd inside (moves.session cfg fd)
  proper := inv.proper

theorem ClientInvariant.takeSem (inv : ClientInvariant world) :
    ClientInvariant { world with client := { world.client with configChangeSem := false } } :=
  ⟨inv.listening, inv.seenValid, inv.knows, inv.registered, inv.socket, inv.gen, inv.snapshot,
    inv.session, inv.proper⟩

theorem ClientInvariant.wait {limited : Bool} {result : CallResult} {thread : ClientThread}
    (inv : ClientInvariant world) (ended : waitEnds world limited result thread = some next)
    (moves : world.thread.Moves thread) : ClientInvariant next := by
  rcases waitEnds_cases ended with rfl | rfl
  · exact inv.move moves
  · exact inv.takeSem.move moves

/-- Two generations of one turn compare as their low halves do. -/
theorem gen_eq_iff {current gen : ℕ} (grown : gen ≤ current) (within : current < gen + 2 ^ 32) :
    UInt32.ofNat current = UInt32.ofNat gen ↔ current = gen := by
  rw [← UInt32.toNat_inj, UInt32.toNat_ofNat', UInt32.toNat_ofNat']
  omega

/-- A shutdown leaves a socket what it is, and marks a connected one. -/
theorem shutRd_self {sockets : SocketTable} {fd : ℕ} {socket : Socket}
    (stored : sockets fd = some socket) :
    ∃ after, sockets.shutRd fd fd = some after ∧ after.ours = socket.ours ∧
      after.connected = socket.connected ∧ (socket.connected = true → after.eof = true) := by
  refine ⟨if socket.connected then { socket with eof := true } else socket, ?_⟩
  cases isConnected : socket.connected <;> simp [SocketTable.shutRd, stored, isConnected]

theorem threadStep_invariant {result : CallResult} (inv : ClientInvariant world)
    (within : WithinTurn world) (stepped : threadStep world result = some next) :
    ClientInvariant next := by
  obtain ⟨config, client, sockets, web, thread, shutdowns⟩ := world
  cases thread with
  | loopHead =>
    obtain rfl := Option.some.inj stepped
    exact ⟨inv.listening, inv.seenValid, inv.knows, inv.registered, by simp, by simp, by simp,
      by simp, inv.proper⟩
  | haveGen gen =>
    obtain rfl := Option.some.inj stepped
    dsimp only
    split_ifs with enabled
    · -- The snapshot is the effective configuration.
      refine ⟨inv.listening, inv.seenValid, inv.knows, inv.registered, by simp, inv.gen, ?_,
        by simp, inv.proper⟩
      intro g cfg taken stale
      obtain ⟨rfl, rfl⟩ := Prod.mk.inj (Option.some.inj taken)
      exact absurd rfl stale
    · exact inv.move (by constructor <;> simp)
  | disabled => exact inv.wait stepped (by constructor <;> simp)
  | resolving gen cfg =>
    cases result with
    | ok =>
      obtain rfl := Option.some.inj stepped
      exact inv.move (by constructor <;> simp)
    | failed =>
      obtain rfl := Option.some.inj stepped
      exact inv.move (by constructor <;> simp)
    | fd fd => cases stepped
  | waiting gen cfg => exact inv.wait stepped (by constructor <;> simp)
  | rechecking gen cfg =>
    obtain rfl := Option.some.inj stepped
    dsimp only
    split_ifs with changed
    · exact inv.move (by constructor <;> simp)
    · exact inv.move (by constructor <;> simp)
  | creating gen cfg =>
    cases result with
    | ok => cases stepped
    | failed =>
      obtain rfl := Option.some.inj stepped
      exact inv.move (by constructor <;> simp)
    | fd fd =>
      simp only [threadStep, Option.ite_none_right_eq_some, Option.some.injEq] at stepped
      obtain ⟨-, rfl⟩ := stepped
      refine ⟨inv.listening, inv.seenValid, inv.knows, inv.registered, ?_, inv.gen, inv.snapshot,
        by simp, inv.proper⟩
      rintro fd' ⟨⟩
      exact ⟨⟨true, false, false⟩, Function.update_self .., rfl, by simp⟩
  | opened gen cfg fd =>
    simp only [threadStep, Option.ite_none_left_eq_some, Option.some.injEq] at stepped
    obtain ⟨-, rfl⟩ := stepped
    exact ⟨inv.listening, inv.seenValid, inv.knows, rfl, inv.socket, inv.gen, inv.snapshot,
      by simp, inv.proper⟩
  | registered gen cfg fd =>
    obtain rfl := Option.some.inj stepped
    dsimp only
    split_ifs with changed
    · exact inv.move (by constructor <;> simp)
    · exact inv.move (by constructor <;> simp)
  | connecting gen cfg fd =>
    cases result with
    | ok =>
      obtain rfl := Option.some.inj stepped
      refine ⟨inv.listening, inv.seenValid, inv.knows, inv.registered, ?_, inv.gen, inv.snapshot,
        by simp, inv.proper⟩
      rintro fd' ⟨⟩
      obtain ⟨socket, stored, ours, -⟩ := inv.socket fd rfl
      dsimp only at stored
      exact ⟨{ socket with connected := true }, by simp [stored], ours, fun _ => rfl⟩
    | failed =>
      obtain rfl := Option.some.inj stepped
      exact inv.move (by constructor <;> simp)
    | fd fd => cases stepped
  | connected gen cfg fd =>
    obtain rfl := Option.some.inj stepped
    dsimp only
    split_ifs with changed
    · exact inv.move (by constructor <;> simp)
    · -- The generation is the one of the snapshot, so a newer change is still to be counted.
      refine ⟨inv.listening, inv.seenValid, inv.knows, inv.registered, inv.socket, by simp,
        by simp, ?_, inv.proper⟩
      rintro cfg' fd' ⟨⟩ stale
      have same := (gen_eq_iff (inv.gen gen rfl) (within gen rfl)).mp (not_not.mp changed)
      rcases inv.snapshot gen cfg rfl stale with counted | coming
      · exact absurd same counted.ne'
      · exact .inr (WebThread.shutdownComing_of_bumpComing coming)
  | shuttingDown cfg fd =>
    obtain rfl := Option.some.inj stepped
    obtain ⟨socket, stored, ours, isConnected⟩ := inv.socket fd rfl
    dsimp only at stored
    obtain ⟨after, shut, owner, still, marked⟩ := shutRd_self stored
    refine ⟨inv.listening, inv.seenValid, inv.knows, inv.registered, ?_, by simp, by simp, ?_, ?_⟩
    · rintro fd' ⟨⟩
      exact ⟨after, shut, owner.trans ours, fun _ => still.trans (isConnected rfl)⟩
    · rintro cfg' fd' ⟨⟩ -
      exact .inl ⟨after, shut, marked (isConnected rfl)⟩
    · intro call member
      rcases List.mem_append.mp member with earlier | last
      · exact inv.proper call earlier
      · rw [List.mem_singleton.mp last]
        exact ⟨⟨socket, stored, ours⟩, by simp⟩
  | session cfg fd =>
    obtain rfl := Option.some.inj stepped
    exact inv.move (by constructor <;> simp)
  | closing fd backOff =>
    simp only [threadStep, Option.ite_none_left_eq_some, Option.some.injEq] at stepped
    obtain ⟨-, rfl⟩ := stepped
    cases backOff <;>
      exact ⟨inv.listening, inv.seenValid, inv.knows, rfl, by simp, by simp, by simp, by simp,
        inv.proper⟩
  | backingOff => exact inv.wait stepped (by constructor <;> simp)

end Thread

/-! ## The steps of the web server's thread -/

section Web

variable {world next : TcpClientWorld}

theorem ClientThread.gen_of_snapshot {thread : ClientThread} {gen : ℕ}
    {cfg : BridgeConfigTcpClient} (taken : thread.snapshot = some (gen, cfg)) :
    thread.gen = some gen := by
  cases thread <;> simp_all

theorem ClientThread.openFd_of_registeredFd {thread : ClientThread} {fd : ℕ}
    (registered : thread.registeredFd = some fd) : thread.openFd = some fd := by
  cases thread <;> simp_all

/-- A call between requests: the value changes only together with a call of the listener. -/
theorem webCall_invariant {called : ConfigWorld × ConfigAnswer} (inv : ClientInvariant world)
    (listening : called.1.listener = true)
    (quiet : called.2.notified = false →
      (called.1.config .tcpClient).value = world.effective.value)
    (stepped : webCall world called = some next) : ClientInvariant next := by
  have knows := inv.knows
  have snapshot := inv.snapshot
  have session := inv.session
  obtain ⟨web, rfl⟩ := webCall_cases stepped
  rw [web] at knows snapshot session
  -- A snapshot that got old with this call has the listener's call ahead of it.
  have older : ∀ cfg : BridgeConfigTcpClient,
      cfg.value ≠ (called.1.config .tcpClient).value → cfg.value ≠ world.effective.value ∨
        (if called.2.notified then WebThread.notified world.effective
          else .idle).bumpComing (called.1.config .tcpClient) := by
    intro cfg stale
    cases notified : called.2.notified with
    | false => exact .inl (quiet notified ▸ stale)
    | true =>
      by_cases same : world.effective.value = (called.1.config .tcpClient).value
      · exact .inl (same ▸ stale)
      · exact .inr same
  refine ⟨listening, inv.seenValid, ?_, inv.registered, inv.socket, inv.gen, ?_, ?_, inv.proper⟩
  · cases notified : called.2.notified with
    | true => exact knows
    | false => exact knows.trans (quiet notified).symm
  · intro gen cfg taken stale
    rcases older cfg stale with before | coming
    · exact .inl ((snapshot gen cfg taken before).resolve_right id)
    · exact .inr coming
  · intro cfg fd inside stale
    rcases older cfg stale with before | coming
    · exact .inl ((session cfg fd inside before).resolve_right id)
    · exact .inr (WebThread.shutdownComing_of_bumpComing coming)

theorem listenStep_invariant (inv : ClientInvariant world)
    (stepped : listenStep world = some next) : ClientInvariant next := by
  have knows := inv.knows
  have snapshot := inv.snapshot
  have session := inv.session
  -- What the client saw last is what the setter replaced.
  have differs {before : BridgeConfigTcpClient}
      (seen : world.client.seenCfg.value = before.value) :
      configDiffers world.client world.effective = true ↔
        before.value ≠ world.effective.value := by
    rw [configDiffers_iff inv.seenValid, seen]
  cases listenStep_effect stepped with
  | reads before web =>
    rw [web] at knows snapshot session
    exact ⟨inv.listening, inv.seenValid, ⟨knows, rfl⟩, inv.registered, inv.socket, inv.gen,
      snapshot, session, inv.proper⟩
  | sees before cfg web changed =>
    rw [web] at knows
    obtain ⟨seen, rfl⟩ := knows
    exact ⟨inv.listening, rfl, ⟨rfl, (differs seen).mp changed⟩, inv.registered, inv.socket,
      inv.gen, fun _ _ _ _ => .inr trivial, fun _ _ _ _ => .inr trivial, inv.proper⟩
  | ignores before cfg web unchanged =>
    rw [web] at knows snapshot session
    obtain ⟨seen, rfl⟩ := knows
    -- Nothing changed, so no snapshot became stale by this setter.
    have same : before.value = world.effective.value := by
      by_contra changed
      rw [(differs seen).mpr changed] at unchanged
      cases unchanged
    refine ⟨inv.listening, rfl, rfl, inv.registered, inv.socket, inv.gen, ?_, ?_, inv.proper⟩
    · intro gen cfg taken stale
      exact (snapshot gen cfg taken stale).imp_right fun coming => coming same
    · -- A session's descriptor is registered, and none is.
      intro cfg fd inside stale
      exact (session cfg fd inside stale).imp_right fun coming => coming same
  | bumps before web =>
    rw [web] at knows
    refine ⟨inv.listening, inv.seenValid, knows, inv.registered, inv.socket, ?_, ?_,
      fun _ _ _ _ => .inr trivial, inv.proper⟩
    · -- The generation passes every snapshot taken so far.
      exact fun gen held => (inv.gen gen held).trans (Nat.le_succ _)
    · intro gen cfg taken _
      exact .inl (Nat.lt_succ_of_le (inv.gen gen (ClientThread.gen_of_snapshot taken)))
  | returns before web unregistered =>
    rw [web] at knows snapshot
    refine ⟨inv.listening, inv.seenValid, knows.1, inv.registered, inv.socket, inv.gen,
      fun gen cfg taken stale => .inl ((snapshot gen cfg taken stale).resolve_right id), ?_,
      inv.proper⟩
    intro cfg fd inside
    have held := inv.registered
    rw [unregistered, show world.thread = .session cfg fd from inside] at held
    cases held
  | shuts before fd web registered =>
    rw [web] at knows snapshot
    have held : world.thread.openFd = some fd :=
      ClientThread.openFd_of_registeredFd (inv.registered.symm.trans registered)
    obtain ⟨socket, stored, ours, isConnected⟩ := inv.socket fd held
    -- The registered descriptor is the thread's own, and a connected one is marked.
    obtain ⟨after, shut, owner, still, marked⟩ := shutRd_self stored
    -- The generation was raised, so every stale snapshot is behind it.
    refine ⟨inv.listening, inv.seenValid, knows.1, inv.registered, ?_, inv.gen,
      fun gen cfg taken stale => .inl ((snapshot gen cfg taken stale).resolve_right id), ?_, ?_⟩
    · intro fd' held'
      obtain rfl := Option.some.inj (held.symm.trans held')
      exact ⟨after, shut, owner.trans ours, fun now => still.trans (isConnected now)⟩
    · intro cfg fd' inside _
      rw [show world.thread = .session cfg fd' from inside] at held isConnected
      obtain rfl := Option.some.inj held
      exact .inl ⟨after, shut, marked (isConnected rfl)⟩
    · intro call member
      rcases List.mem_append.mp member with earlier | last
      · exact inv.proper call earlier
      · rw [List.mem_singleton.mp last]
        refine ⟨⟨socket, stored, ours⟩, ?_⟩
        rintro _ _ ⟨⟩
        exact knows.2

end Web

/-! ## Runs -/

section Runs

variable {build : ConfigBuild} {world next : TcpClientWorld}

/-- Other threads touch none of the thread's descriptors. -/
theorem ClientInvariant.others (inv : ClientInvariant world) {fd : ℕ}
    (foreign : world.thread.openFd ≠ some fd) (socket : Option Socket) :
    ClientInvariant { world with sockets := Function.update world.sockets fd socket } := by
  have kept : ∀ fd', world.thread.openFd = some fd' →
      Function.update world.sockets fd socket fd' = world.sockets fd' := by
    intro fd' held
    apply Function.update_of_ne
    rintro rfl
    exact foreign held
  refine ⟨inv.listening, inv.seenValid, inv.knows, inv.registered, ?_, inv.gen, inv.snapshot, ?_,
    inv.proper⟩
  · intro fd' held
    obtain ⟨own, stored, rest⟩ := inv.socket fd' held
    exact ⟨own, (kept fd' held).trans stored, rest⟩
  · intro cfg fd' inside stale
    have held : world.thread.openFd = some fd' := by
      rw [show world.thread = .session cfg fd' from inside]
      rfl
    refine (inv.session cfg fd' inside stale).imp_left ?_
    rintro ⟨own, stored, eof⟩
    exact ⟨own, (kept fd' held).trans stored, eof⟩

theorem tcpClientStep_invariant {label : TcpClientLabel} (inv : ClientInvariant world)
    (within : WithinTurn world) (stepped : tcpClientStep build world label = some next) :
    ClientInvariant next := by
  cases label with
  | set g v saveRet =>
    refine webCall_invariant inv ?_ (fun quiet => ?_) stepped
    · rw [bridgeConfigSet_listener, inv.listening]
    · exact bridgeConfigSet_quiet inv.listening quiet .tcpClient rfl
  | factoryReset order deleteRet =>
    exact webCall_invariant inv inv.listening (fun _ => rfl) stepped
  | listen => exact listenStep_invariant inv stepped
  | thread result => exact threadStep_invariant inv within stepped
  | othersOpen fd socket =>
    obtain ⟨free, rfl⟩ := othersOpen_cases stepped
    -- A new descriptor of another thread is none that the client thread has open.
    apply inv.others
    intro held
    obtain ⟨own, stored, -⟩ := inv.socket fd held
    simp [free] at stored
  | othersClose fd =>
    obtain ⟨socket, stored, foreign, rfl⟩ := othersClose_cases stepped
    apply inv.others
    intro held
    obtain ⟨own, stored', ours, -⟩ := inv.socket fd held
    obtain rfl := Option.some.inj (stored.symm.trans stored')
    simp [ours] at foreign

theorem tcpClientStart_invariant (config : ConfigWorld) (sockets : SocketTable) :
    ClientInvariant (tcpClientStart config sockets) := by
  -- The first call has seen nothing before, so it takes the configuration as a change.
  have first : configDiffers tcpNmeaClientZero (config.config .tcpClient) = true := rfl
  have client : (tcpClientStart config sockets).client =
      (tcpNmeaClientZero.see (config.config .tcpClient)).bump := by
    simp only [tcpClientStart, tcpNmeaClientConfigChanged, first, if_true]
  refine ⟨rfl, ?_, ?_, ?_, by simp [tcpClientStart], by simp [tcpClientStart],
    by simp [tcpClientStart], by simp [tcpClientStart], by simp [tcpClientStart]⟩
  · rw [client]
    rfl
  · rw [client]
    rfl
  · rw [client]
    rfl

end Runs

/-! ## Short runs

Each step counts the generation up by one at most, so a run of fewer than `2 ^ 32` steps has
too few changes to fill a turn. -/

section ShortRuns

variable {build : ConfigBuild} {world next : TcpClientWorld}

theorem tcpClientStep_configGen {label : TcpClientLabel}
    (stepped : tcpClientStep build world label = some next) :
    next.client.configGen ≤ world.client.configGen + 1 := by
  cases label with
  | set g v saveRet =>
    obtain ⟨-, rfl⟩ := webCall_cases stepped
    exact Nat.le_succ _
  | factoryReset order deleteRet =>
    obtain ⟨-, rfl⟩ := webCall_cases stepped
    exact Nat.le_succ _
  | listen =>
    cases listenStep_effect stepped with
    | bumps => exact le_rfl
    | _ => exact Nat.le_succ _
  | thread result => exact (threadStep_frame stepped).configGen.le.trans (Nat.le_succ _)
  | othersOpen fd socket =>
    obtain ⟨-, rfl⟩ := othersOpen_cases stepped
    exact Nat.le_succ _
  | othersClose fd =>
    obtain ⟨socket, -, -, rfl⟩ := othersClose_cases stepped
    exact Nat.le_succ _

theorem run_configGen {labels : List TcpClientLabel}
    (ran : Transitions.run (tcpClientStep build) world labels = some next) :
    next.client.configGen ≤ world.client.configGen + labels.length := by
  induction labels generalizing world with
  | nil =>
    obtain rfl := Option.some.inj ran
    exact le_rfl
  | cons label rest ih =>
    obtain ⟨middle, stepped, ran⟩ := Transitions.run_cons.mp ran
    have first := tcpClientStep_configGen stepped
    have others := ih ran
    simp only [List.length_cons]
    omega

theorem withinTurn_of_short {config : ConfigWorld} {sockets : SocketTable}
    {labels : List TcpClientLabel} (short : labels.length < 2 ^ 32 - 1)
    (ran : Transitions.run (tcpClientStep build) (tcpClientStart config sockets) labels =
      some world) : WithinTurn world := by
  intro gen _
  have counted := run_configGen ran
  have start : (tcpClientStart config sockets).client.configGen = 1 := rfl
  omega

end ShortRuns

/-! ## The law -/

/-- As long as never `2 ^ 32` changes fall into one attempt of the client thread: whenever
no setter is on its way to its listener, a session that serves an older configuration than
the effective one has been shut down for reading. Every shutdown hits an open socket of the
client thread, and a listener's call makes one only when its setter changed the value. -/
theorem session_never_stays_stale (build : ConfigBuild) (config : ConfigWorld)
    (sockets : SocketTable) (labels : List TcpClientLabel) (world : TcpClientWorld)
    (ran : Transitions.run (tcpClientStep build) (tcpClientStart config sockets) labels =
      some world)
    (within : ∀ front, front <+: labels → ∀ middle,
      Transitions.run (tcpClientStep build) (tcpClientStart config sockets) front = some middle →
        WithinTurn middle) :
    (world.web = .idle → ∀ cfg fd, world.thread = .session cfg fd →
      cfg.value ≠ world.effective.value →
        ∃ socket, world.sockets fd = some socket ∧ socket.connected = true ∧ socket.eof = true) ∧
      ∀ call ∈ world.shutdowns, (∃ socket, call.target = some socket ∧ socket.ours = true) ∧
        ∀ before after, call.cause = .configChanged before after → before.value ≠ after.value := by
  have inv : ClientInvariant world :=
    Transitions.guarded_invariant
      (fun _ _ _ inv within stepped => tcpClientStep_invariant inv within stepped)
      (tcpClientStart_invariant config sockets) within ran
  refine ⟨fun idle cfg fd inside stale => ?_, inv.proper⟩
  obtain ⟨socket, stored, -, connected⟩ := inv.socket fd (by rw [inside]; rfl)
  rcases inv.session cfg fd inside stale with ⟨shut, stored', eof⟩ | coming
  · obtain rfl := Option.some.inj (stored.symm.trans stored')
    exact ⟨socket, stored, connected (by rw [inside]; rfl), eof⟩
  · -- No shutdown is to come while the web server's thread is idle.
    rw [idle] at coming
    exact coming.elim

/-- A setter's store of a new target, and its listener to the end. -/
def changeSteps (cfg : BridgeConfigTcpClient) : List TcpClientLabel :=
  [.set .tcpClient (some cfg) none, .listen, .listen, .listen, .listen]

/-- From the start of an attempt to the call of `connect`. -/
def connectSteps : List TcpClientLabel :=
  [.thread .ok, .thread .ok, .thread .ok, .thread (.fd 0), .thread .ok, .thread .ok]

/-- The successful connect and the check behind it. -/
def checkSteps : List TcpClientLabel := [.thread .ok, .thread .ok]

/-- The targets of a row of changes: all accepted, and each differs from the one before. -/
def turnPort : ℕ → UInt16
  | 0 => 10110
  | n + 1 => if n % 2 = 0 then 2 else 3

def turnTarget (n : ℕ) : BridgeConfigTcpClient := ⟨true, .ofBytes _ [], turnPort n⟩

def turnWorld : ConfigWorld := boot sampleBuild.defaults storageOrder ∅

/-- A change that meets a session shuts it down. -/
theorem session_never_stays_stale_liveChange :
    ∃ world, Transitions.run (tcpClientStep sampleBuild) (tcpClientStart turnWorld fun _ => none)
        (connectSteps ++ checkSteps ++ changeSteps (turnTarget 1)) = some world ∧
      (world.web = .idle ∧ world.thread = .session (turnTarget 0) 0 ∧
        (turnTarget 0).value ≠ world.effective.value) ∧
      (world.web = .idle → ∀ cfg fd, world.thread = .session cfg fd →
        cfg.value ≠ world.effective.value → ∃ socket, world.sockets fd = some socket ∧
          socket.connected = true ∧ socket.eof = true) ∧
      ∀ call ∈ world.shutdowns, (∃ socket, call.target = some socket ∧ socket.ours = true) ∧
        ∀ before after, call.cause = .configChanged before after →
          before.value ≠ after.value :=
  ⟨_, rfl, ⟨rfl, rfl, by decide⟩, session_never_stays_stale sampleBuild turnWorld (fun _ => none)
    (connectSteps ++ checkSteps ++ changeSteps (turnTarget 1)) _ rfl
    fun front initial middle reached =>
      withinTurn_of_short (initial.length_le.trans_lt (by decide)) reached⟩

/-! ## A full turn

A connect that outlasts `2 ^ 32` changes finds the generation it started with. -/

section FullTurn

theorem turnTarget_succ_ne (n : ℕ) : (turnTarget n).value ≠ (turnTarget (n + 1)).value := by
  have ports : turnPort n ≠ turnPort (n + 1) := by
    cases n with
    | zero => decide
    | succ n =>
      rcases Nat.mod_two_eq_zero_or_one n with even | odd
      · simp [turnPort, even, Nat.succ_mod_two_eq_one_iff.mpr even]
      · simp [turnPort, odd, Nat.succ_mod_two_eq_zero_iff.mpr odd]
  simpa [turnTarget, BridgeConfigTcpClient.value] using ports

theorem turnTarget_ne_first {n : ℕ} (later : n ≠ 0) :
    (turnTarget 0).value ≠ (turnTarget n).value := by
  obtain ⟨n, rfl⟩ := Nat.exists_eq_succ_of_ne_zero later
  have ports : turnPort 0 ≠ turnPort (n + 1) := by
    simp only [turnPort]
    split <;> decide
  simpa [turnTarget, BridgeConfigTcpClient.value] using ports

theorem turnTarget_accepted (n : ℕ) : tcpClientAccepts (turnTarget n) = true := by
  cases n with
  | zero => decide
  | succ n =>
    simp only [turnTarget, turnPort]
    split <;> decide

/-- In the connect of the first attempt, after `n` changes. -/
structure Connecting (n : ℕ) (world : TcpClientWorld) : Prop where
  listening : world.config.listener = true
  idle : world.web = .idle
  thread : world.thread = .connecting 1 (turnTarget 0) 0
  effective : world.effective = turnTarget n
  client : world.client = ⟨some 0, 1 + n, true, turnTarget n, true⟩
  socket : world.sockets 0 = some ⟨true, false, false⟩

theorem changeSteps_connecting {build : ConfigBuild} {n : ℕ} {world : TcpClientWorld}
    (now : Connecting n world) :
    ∃ next, Transitions.run (tcpClientStep build) world (changeSteps (turnTarget (n + 1))) =
      some next ∧ Connecting (n + 1) next := by
  obtain ⟨config, client, sockets, web, thread, shutdowns⟩ := world
  obtain ⟨listening, idle, at_, effective, rfl, socket⟩ := now
  simp only [TcpClientWorld.effective] at listening idle at_ effective socket
  subst idle at_
  have changed : tcpClientGroup.valueChanged (turnTarget n) (turnTarget (n + 1)) = true :=
    (tcpClientGroup.valueChanged_iff _ _).mpr (turnTarget_succ_ne n)
  have differs : configDiffers ⟨some 0, 1 + n, true, turnTarget n, true⟩ (turnTarget (n + 1)) =
      true := (configDiffers_iff rfl).mpr (turnTarget_succ_ne n)
  have stored : (bridgeConfigSet .tcpClient config (some (turnTarget (n + 1))) none).2.notified =
      true ∧ (bridgeConfigSet .tcpClient config (some (turnTarget (n + 1))) none).1.config
        .tcpClient = turnTarget (n + 1) := by
    have accepts : tcpClientGroup.accepts (turnTarget (n + 1)) = true := turnTarget_accepted (n + 1)
    have live : tcpClientGroup.live = true := rfl
    simp [bridgeConfigSet, configGroup, effective, changed, listening, accepts, live]
  generalize called : bridgeConfigSet .tcpClient config (some (turnTarget (n + 1))) none = result
    at stored
  have still : result.1.listener = true := by
    rw [← called, bridgeConfigSet_listener, listening]
  -- The listener counts the change, and its shutdown finds the socket not yet connected.
  have unmarked : sockets.shutRd 0 0 = some ⟨true, false, false⟩ := by
    simp [SocketTable.shutRd, socket]
  refine ⟨⟨result.1, ⟨some 0, 1 + n + 1, true, turnTarget (n + 1), true⟩, sockets.shutRd 0, .idle,
    .connecting 1 (turnTarget 0) 0,
    shutdowns ++ [⟨.configChanged (turnTarget n) (turnTarget (n + 1)), sockets 0⟩]⟩, ?_,
    ⟨still, rfl, rfl, stored.2, rfl, unmarked⟩⟩
  simp [changeSteps, Transitions.run, tcpClientStep, webCall, called, listenStep, stored,
    TcpClientWorld.effective, TcpClientWorld.shutdown, TcpNmeaClient.see, TcpNmeaClient.bump,
    differs, effective]

/-- From the start of the attempt to its connect, and `n` changes. -/
def turnSteps : ℕ → List TcpClientLabel
  | 0 => connectSteps
  | n + 1 => turnSteps n ++ changeSteps (turnTarget (n + 1))

theorem turnSteps_connecting (n : ℕ) :
    ∃ world, Transitions.run (tcpClientStep sampleBuild) (tcpClientStart turnWorld fun _ => none)
        (turnSteps n) = some world ∧ Connecting n world := by
  induction n with
  | zero => exact ⟨_, rfl, ⟨rfl, rfl, rfl, rfl, rfl, rfl⟩⟩
  | succ n ih =>
    obtain ⟨middle, before, now⟩ := ih
    obtain ⟨world, change, later⟩ := changeSteps_connecting now
    exact ⟨world, Transitions.run_append.mpr ⟨middle, before, change⟩, later⟩

/-- After a turn of changes the connect finds the generation of its snapshot, and the session
stays with the old target. -/
theorem stale_session_after_full_turn :
    ∃ labels world, Transitions.run (tcpClientStep sampleBuild)
        (tcpClientStart turnWorld fun _ => none) labels = some world ∧
      world.web = .idle ∧ ∃ cfg fd socket, world.thread = .session cfg fd ∧
        cfg.value ≠ world.effective.value ∧ world.sockets fd = some socket ∧
        socket.eof = false := by
  obtain ⟨middle, before, now⟩ := turnSteps_connecting (2 ^ 32)
  obtain ⟨config, client, sockets, web, thread, shutdowns⟩ := middle
  obtain ⟨listening, idle, at_, effective, rfl, socket⟩ := now
  simp only at idle at_ socket
  subst idle at_
  -- The generation that the check compares has come around.
  have full : UInt32.ofNat (1 + 2 ^ 32) = UInt32.ofNat 1 := by decide
  have check : Transitions.run (tcpClientStep sampleBuild)
      ⟨config, ⟨some 0, 1 + 2 ^ 32, true, turnTarget (2 ^ 32), true⟩, sockets, .idle,
        .connecting 1 (turnTarget 0) 0, shutdowns⟩ checkSteps =
      some ⟨config, ⟨some 0, 1 + 2 ^ 32, true, turnTarget (2 ^ 32), true⟩,
        Function.update sockets 0 (some ⟨true, true, false⟩), .idle, .session (turnTarget 0) 0,
        shutdowns⟩ := by
    simp only [checkSteps, Transitions.run, tcpClientStep, threadStep, TcpNmeaClient.gen, full,
      socket, Option.map_some, Option.bind_some, ne_eq, not_true_eq_false, if_false]
  refine ⟨turnSteps (2 ^ 32) ++ checkSteps, _, Transitions.run_append.mpr ⟨_, before, check⟩, rfl,
    turnTarget 0, 0, ⟨true, true, false⟩, rfl, ?_, ?_, rfl⟩
  · simp only [TcpClientWorld.effective] at effective ⊢
    rw [effective]
    exact turnTarget_ne_first (by decide)
  · exact Function.update_self (0 : ℕ) (some ⟨true, true, false⟩) sockets

end FullTurn

end EspNmeaBridge
