/-
# The outbound TCP client

The client thread takes a snapshot of the configuration, connects to the host it
names and runs a session. A live change of the configuration reaches it through a
generation counter and through a shutdown of the socket it has registered.

The threads are interleaved here step by step: a read or write of shared data, a
call to a socket function, or a section under `session_fd_lock` is one step, and
only the section of `tcp_nmea_client_config_changed` is cut further, because the
generation is also read without the lock. The web server is the only thread that
calls the setters.
-/

import EspNmeaBridge.BridgeConfig
import EspNmeaBridge.Lib.Transitions

namespace EspNmeaBridge

/-- The static data that `tcp_nmea_client_config_changed` shares with the thread. -/
structure TcpNmeaClient where
  /-- `none` for -1. -/
  sessionFd : Option ℕ
  /-- All changes so far; `config_gen` holds the low 32 bits. -/
  configGen : ℕ
  configChangeSem : Bool
  seenCfg : BridgeConfigTcpClient
  seenCfgValid : Bool

/-- The zeroed statics of a fresh boot. -/
def tcpNmeaClientZero : TcpNmeaClient where
  sessionFd := none
  configGen := 0
  configChangeSem := false
  seenCfg := ⟨false, .zeroed _, 0⟩
  seenCfgValid := false

/-- `config_gen`. -/
def TcpNmeaClient.gen (client : TcpNmeaClient) : UInt32 := .ofNat client.configGen

/-! ## `tcp_nmea_client_config_changed` -/

/-- The comparison with the configuration seen before. -/
def configDiffers (client : TcpNmeaClient) (cfg : BridgeConfigTcpClient) : Bool :=
  !client.seenCfgValid || client.seenCfg.enabled != cfg.enabled ||
    client.seenCfg.port != cfg.port || !client.seenCfg.host.strcmpEq cfg.host

def TcpNmeaClient.see (client : TcpNmeaClient) (cfg : BridgeConfigTcpClient) : TcpNmeaClient :=
  { client with seenCfg := cfg, seenCfgValid := true }

def TcpNmeaClient.bump (client : TcpNmeaClient) : TcpNmeaClient :=
  { client with configGen := client.configGen + 1, configChangeSem := true }

/-- The whole call, and the descriptor it shuts down. -/
def tcpNmeaClientConfigChanged (client : TcpNmeaClient) (cfg : BridgeConfigTcpClient) :
    TcpNmeaClient × Option ℕ :=
  if configDiffers client cfg then ((client.see cfg).bump, client.sessionFd)
  else (client.see cfg, none)

/-- Once a configuration was seen, the comparison is one of values. -/
theorem configDiffers_iff {client : TcpNmeaClient} {cfg : BridgeConfigTcpClient}
    (valid : client.seenCfgValid = true) :
    configDiffers client cfg = true ↔ client.seenCfg.value ≠ cfg.value := by
  rw [← tcpClient_valueChanged, configDiffers, valid, Bool.not_true, Bool.false_or]

/-! ## Sockets -/

structure Socket where
  /-- Opened by the client thread. -/
  ours : Bool
  connected : Bool
  /-- Shut down for reading: the session's next drain sees the end. -/
  eof : Bool
  deriving DecidableEq, Repr

/-- The open descriptors of all threads. -/
abbrev SocketTable := ℕ → Option Socket

/-- `zsock_shutdown(fd, ZSOCK_SHUT_RD)`, without effect on an unconnected socket. -/
def SocketTable.shutRd (sockets : SocketTable) (fd : ℕ) : SocketTable :=
  Function.update sockets fd ((sockets fd).map fun socket =>
    if socket.connected then { socket with eof := true } else socket)

inductive ShutdownCause where
  /-- A `config_changed` call, for a setter that replaced `before` by `after`. -/
  | configChanged (before after : BridgeConfigTcpClient)
  /-- The check behind the connect. -/
  | recheck

/-- A call to `zsock_shutdown`, with what the descriptor was at the time. -/
structure ShutdownCall where
  cause : ShutdownCause
  target : Option Socket

/-! ## The threads -/

/-- Where the web server's thread is in a setter and its listener. `before` is the client
configuration in front of the setter's store. -/
inductive WebThread where
  | idle
  /-- The value is stored and the listener called. -/
  | notified (before : BridgeConfigTcpClient)
  /-- The call has its own copy of the configuration. -/
  | read (before cfg : BridgeConfigTcpClient)
  /-- In the locked section, behind the comparison. -/
  | bumping (before : BridgeConfigTcpClient)
  | shutting (before : BridgeConfigTcpClient)

/-- `session_fd_lock` is held by the `config_changed` call. -/
def WebThread.locked : WebThread → Bool
  | .bumping _ | .shutting _ => true
  | _ => false

/-- Where the client thread is. -/
inductive ClientThread where
  | loopHead
  | haveGen (gen : ℕ)
  | disabled
  | resolving (gen : ℕ) (cfg : BridgeConfigTcpClient)
  | waiting (gen : ℕ) (cfg : BridgeConfigTcpClient)
  | rechecking (gen : ℕ) (cfg : BridgeConfigTcpClient)
  | creating (gen : ℕ) (cfg : BridgeConfigTcpClient)
  | opened (gen : ℕ) (cfg : BridgeConfigTcpClient) (fd : ℕ)
  | registered (gen : ℕ) (cfg : BridgeConfigTcpClient) (fd : ℕ)
  | connecting (gen : ℕ) (cfg : BridgeConfigTcpClient) (fd : ℕ)
  | connected (gen : ℕ) (cfg : BridgeConfigTcpClient) (fd : ℕ)
  | shuttingDown (cfg : BridgeConfigTcpClient) (fd : ℕ)
  /-- Inside `tcp_nmea_session_run`. -/
  | session (cfg : BridgeConfigTcpClient) (fd : ℕ)
  | closing (fd : ℕ) (backOff : Bool)
  | backingOff

structure TcpClientWorld where
  config : ConfigWorld
  client : TcpNmeaClient
  sockets : SocketTable
  web : WebThread
  thread : ClientThread
  shutdowns : List ShutdownCall

/-- The effective configuration of the client. -/
def TcpClientWorld.effective (world : TcpClientWorld) : BridgeConfigTcpClient :=
  world.config.config .tcpClient

def TcpClientWorld.shutdown (world : TcpClientWorld) (cause : ShutdownCause) (fd : ℕ) :
    TcpClientWorld :=
  { world with
    sockets := world.sockets.shutRd fd
    shutdowns := world.shutdowns ++ [⟨cause, world.sockets fd⟩] }

/-- What a call of the client thread came to. -/
inductive CallResult where
  | ok
  | failed
  /-- The descriptor of a new socket. -/
  | fd (fd : ℕ)
  deriving DecidableEq, Repr

inductive TcpClientLabel where
  /-- A setter, up to its store and the call of the listener. -/
  | set (g : Group) (next : Option g.Config) (saveRet : Option Errno)
  | factoryReset (order : EnumerationOrder) (deleteRet : ℕ → Option Errno)
  /-- The next step of the listener. -/
  | listen
  /-- The next step of the client thread. -/
  | thread (result : CallResult)
  /-- Other threads open and close sockets of their own. -/
  | othersOpen (fd : ℕ) (socket : Socket)
  | othersClose (fd : ℕ)

/-- A setter or a reset, when the web server's thread is between requests. -/
def webCall (world : TcpClientWorld) (called : ConfigWorld × ConfigAnswer) :
    Option TcpClientWorld :=
  match world.web with
  | .idle =>
    some { world with
      config := called.1
      web := if called.2.notified then .notified world.effective else .idle }
  | _ => none

def listenStep (world : TcpClientWorld) : Option TcpClientWorld :=
  match world.web with
  | .idle => none
  | .notified before => some { world with web := .read before world.effective }
  | .read before cfg =>
    let client := world.client.see cfg
    some (if configDiffers world.client cfg then { world with client, web := .bumping before }
      else { world with client, web := .idle })
  -- `atomic_inc` and `k_sem_give`, both under the lock.
  | .bumping before => some { world with client := world.client.bump, web := .shutting before }
  | .shutting before =>
    let world := { world with web := .idle }
    some (match world.client.sessionFd with
      | none => world
      | some fd => world.shutdown (.configChanged before world.effective) fd)

/-- A wait of the thread ends with the semaphore or, where it has a limit, without. -/
def waitEnds (world : TcpClientWorld) (limited : Bool) (result : CallResult)
    (next : ClientThread) : Option TcpClientWorld :=
  match result with
  -- The token is taken, and the wait returns.
  | .ok =>
    if world.client.configChangeSem then
      some { world with
        client := { world.client with configChangeSem := false }
        thread := next }
    else none
  -- The timeout; `K_FOREVER` has none.
  | .failed => if limited then some { world with thread := next } else none
  | .fd _ => none

def threadStep (world : TcpClientWorld) (result : CallResult) : Option TcpClientWorld :=
  match world.thread with
  | .loopHead => some { world with thread := .haveGen world.client.configGen }
  -- The generation is read first, so a change behind it is noticed later.
  | .haveGen gen =>
    let cfg := world.effective
    some { world with thread := if cfg.enabled then .resolving gen cfg else .disabled }
  | .disabled => waitEnds world false result .loopHead
  -- `resolve_host`, which knows no address before the STA has one.
  | .resolving gen cfg =>
    match result with
    | .ok => some { world with thread := .creating gen cfg }
    | .failed => some { world with thread := .waiting gen cfg }
    | .fd _ => none
  | .waiting gen cfg => waitEnds world true result (.rechecking gen cfg)
  | .rechecking gen cfg =>
    some { world with
      thread := if world.client.gen ≠ .ofNat gen then .loopHead else .resolving gen cfg }
  | .creating gen cfg =>
    match result with
    | .fd fd =>
      if world.sockets fd = none then
        some { world with
          sockets := Function.update world.sockets fd (some ⟨true, false, false⟩)
          thread := .opened gen cfg fd }
      else none
    | .failed => some { world with thread := .backingOff }
    | .ok => none
  -- `session_fd` is written under the lock, and before the connect.
  | .opened gen cfg fd =>
    if world.web.locked then none
    else
      some { world with
        client := { world.client with sessionFd := some fd }
        thread := .registered gen cfg fd }
  | .registered gen cfg fd =>
    some { world with
      thread := if world.client.gen ≠ .ofNat gen then .closing fd false
        else .connecting gen cfg fd }
  | .connecting gen cfg fd =>
    match result with
    | .ok =>
      some { world with
        sockets := Function.update world.sockets fd
          ((world.sockets fd).map fun socket => { socket with connected := true })
        thread := .connected gen cfg fd }
    | .failed => some { world with thread := .closing fd true }
    | .fd _ => none
  -- A shutdown during the connect had no effect, so the check is repeated.
  | .connected gen cfg fd =>
    some { world with
      thread := if world.client.gen ≠ .ofNat gen then .shuttingDown cfg fd else .session cfg fd }
  | .shuttingDown cfg fd =>
    some { world.shutdown .recheck fd with thread := .session cfg fd }
  | .session _ fd => some { world with thread := .closing fd true }
  -- Unregistering and closing are one section under the lock.
  | .closing fd backOff =>
    if world.web.locked then none
    else
      some { world with
        client := { world.client with sessionFd := none }
        sockets := Function.update world.sockets fd none
        thread := if backOff then .backingOff else .loopHead }
  | .backingOff => waitEnds world true result .loopHead

def tcpClientStep (build : ConfigBuild) (world : TcpClientWorld) :
    TcpClientLabel → Option TcpClientWorld
  | .set g next saveRet => webCall world (bridgeConfigSet g world.config next saveRet)
  | .factoryReset order deleteRet =>
    webCall world (bridgeConfigFactoryReset build.settingsMaxNameLen world.config order deleteRet)
  | .listen => listenStep world
  | .thread result => threadStep world result
  | .othersOpen fd socket =>
    if world.sockets fd = none then
      some { world with
        sockets := Function.update world.sockets fd (some { socket with ours := false }) }
    else none
  | .othersClose fd =>
    match world.sockets fd with
    | some socket =>
      if socket.ours then none
      else some { world with sockets := Function.update world.sockets fd none }
    | none => none

/-- The world as `main` leaves it: the listener is registered and was called once, and the
client thread is about to start. -/
def tcpClientStart (config : ConfigWorld) (sockets : SocketTable) : TcpClientWorld where
  config := { config with listener := true }
  client := (tcpNmeaClientConfigChanged tcpNmeaClientZero (config.config .tcpClient)).1
  sockets := fun fd => (sockets fd).map fun socket => { socket with ours := false }
  web := .idle
  thread := .loopHead
  shutdowns := []

/-! ## What a step can do -/

section Cases

variable {build : ConfigBuild} {world next : TcpClientWorld}

theorem webCall_cases {called : ConfigWorld × ConfigAnswer}
    (stepped : webCall world called = some next) :
    world.web = .idle ∧
      next = { world with
        config := called.1
        web := if called.2.notified then .notified world.effective else .idle } := by
  unfold webCall at stepped
  split at stepped
  · rename_i idle
    exact ⟨idle, (Option.some.inj stepped).symm⟩
  · cases stepped

/-- Everything a step of the listener can be. -/
inductive ListenEffect (world : TcpClientWorld) : TcpClientWorld → Prop
  | reads (before : BridgeConfigTcpClient) (web : world.web = .notified before) :
      ListenEffect world { world with web := .read before world.effective }
  | sees (before cfg : BridgeConfigTcpClient) (web : world.web = .read before cfg)
      (changed : configDiffers world.client cfg = true) :
      ListenEffect world { world with client := world.client.see cfg, web := .bumping before }
  | ignores (before cfg : BridgeConfigTcpClient) (web : world.web = .read before cfg)
      (unchanged : configDiffers world.client cfg = false) :
      ListenEffect world { world with client := world.client.see cfg, web := .idle }
  | bumps (before : BridgeConfigTcpClient) (web : world.web = .bumping before) :
      ListenEffect world { world with client := world.client.bump, web := .shutting before }
  | returns (before : BridgeConfigTcpClient) (web : world.web = .shutting before)
      (unregistered : world.client.sessionFd = none) :
      ListenEffect world { world with web := .idle }
  | shuts (before : BridgeConfigTcpClient) (fd : ℕ) (web : world.web = .shutting before)
      (registered : world.client.sessionFd = some fd) :
      ListenEffect world
        (TcpClientWorld.shutdown { world with web := .idle }
          (.configChanged before world.effective) fd)

theorem listenStep_effect (stepped : listenStep world = some next) : ListenEffect world next := by
  unfold listenStep at stepped
  split at stepped
  · cases stepped
  · rename_i before web
    obtain rfl := Option.some.inj stepped
    exact .reads before web
  · rename_i before cfg web
    cases differs : configDiffers world.client cfg with
    | true =>
      simp only [differs, if_true, Option.some.injEq] at stepped
      exact stepped ▸ .sees before cfg web differs
    | false =>
      simp only [differs, Bool.false_eq_true, if_false, Option.some.injEq] at stepped
      exact stepped ▸ .ignores before cfg web differs
  · rename_i before web
    obtain rfl := Option.some.inj stepped
    exact .bumps before web
  · rename_i before web
    cases registered : world.client.sessionFd with
    | none =>
      simp only [registered, Option.some.injEq] at stepped
      exact stepped ▸ .returns before web registered
    | some fd =>
      simp only [registered, Option.some.injEq] at stepped
      exact stepped ▸ .shuts before fd web registered

/-- A wait ends: the thread moves on, and may have taken the semaphore. -/
theorem waitEnds_cases {limited : Bool} {result : CallResult} {thread : ClientThread}
    (ended : waitEnds world limited result thread = some next) :
    next = { world with thread } ∨
      next = { world with
        client := { world.client with configChangeSem := false }
        thread } := by
  cases result with
  | ok =>
    simp only [waitEnds, Option.ite_none_right_eq_some, Option.some.injEq] at ended
    exact .inr ended.2.symm
  | failed =>
    simp only [waitEnds, Option.ite_none_right_eq_some, Option.some.injEq] at ended
    exact .inl ended.2.symm
  | fd fd => cases ended

/-- What the client thread leaves alone. It enters the wait without a time limit only on a
disabled configuration. -/
structure ThreadFrame (world next : TcpClientWorld) : Prop where
  config : next.config = world.config
  web : next.web = world.web
  seenCfg : next.client.seenCfg = world.client.seenCfg
  seenCfgValid : next.client.seenCfgValid = world.client.seenCfgValid
  configGen : next.client.configGen = world.client.configGen
  disabled : next.thread = .disabled → world.effective.enabled = false

theorem threadStep_frame {result : CallResult} (stepped : threadStep world result = some next) :
    ThreadFrame world next := by
  have waited : ∀ {limited : Bool} {thread : ClientThread}, thread ≠ .disabled →
      waitEnds world limited result thread = some next → ThreadFrame world next := by
    intro limited thread elsewhere ended
    rcases waitEnds_cases ended with rfl | rfl <;>
      exact ⟨rfl, rfl, rfl, rfl, rfl, fun asleep => absurd asleep elsewhere⟩
  unfold threadStep at stepped
  split at stepped
  case h_3 => exact waited (by simp) stepped
  case h_5 => exact waited (by simp) stepped
  case h_15 => exact waited (by simp) stepped
  case h_2 =>
    -- The only way to the wait is a snapshot that is disabled.
    obtain rfl := Option.some.inj stepped
    refine ⟨rfl, rfl, rfl, rfl, rfl, fun asleep => ?_⟩
    dsimp only at asleep
    split_ifs at asleep with enabled
    simpa using enabled
  all_goals
    repeat' split at stepped
    all_goals first
      | cases stepped; exact ⟨rfl, rfl, rfl, rfl, rfl, fun asleep => by cases asleep⟩
      | cases stepped

theorem othersOpen_cases {fd : ℕ} {socket : Socket}
    (stepped : tcpClientStep build world (.othersOpen fd socket) = some next) :
    world.sockets fd = none ∧ next = { world with
      sockets := Function.update world.sockets fd (some { socket with ours := false }) } := by
  simp only [tcpClientStep, Option.ite_none_right_eq_some, Option.some.injEq] at stepped
  exact ⟨stepped.1, stepped.2.symm⟩

theorem othersClose_cases {fd : ℕ}
    (stepped : tcpClientStep build world (.othersClose fd) = some next) :
    ∃ socket, world.sockets fd = some socket ∧ socket.ours = false ∧
      next = { world with sockets := Function.update world.sockets fd none } := by
  cases stored : world.sockets fd with
  | none => simp [tcpClientStep, stored] at stepped
  | some socket =>
    simp only [tcpClientStep, stored, Option.ite_none_left_eq_some, Option.some.injEq]
      at stepped
    exact ⟨socket, rfl, by simpa using stepped.1, stepped.2.symm⟩

end Cases

end EspNmeaBridge
