/-
# Connections and their sessions

The server thread, the threads on its peer slots and the client thread run beside the
pipeline: every call of `tcp_nmea_session_run` is a session of it. Descriptors are numbers
that are given again once they are closed, so each accept is numbered here, and a ledger
records which accept an open descriptor came from and how often it was closed.

The client appears with its sessions only, starting and ending as they like; its own
descriptors are among the others.

A slot can be handed out while the thread that gave it back still runs on its stack. The real
kernel then has one stack under two threads; here `k_thread_create` is treated as a harmless
re-creation, which ends the old thread and starts the new one. What goes wrong otherwise is the
subject of `TcpNmeaServer.SlotReuse`, and nothing is said of it here.
-/

import EspNmeaBridge.Pipeline
import EspNmeaBridge.TcpNmeaServer

namespace EspNmeaBridge

/-- What an open descriptor is. -/
inductive Descriptor where
  /-- Returned by the `zsock_accept` of this number. -/
  | accepted (accept : ℕ)
  | other
  deriving DecidableEq, Repr

/-- The threads that call `tcp_nmea_session_run`: those on the peer slots, and the client's,
which is `none`. -/
abbrev SessionCaller (cfg : Kconfig) := Option (Fin cfg.tcpNmeaServerMaxPeers)

structure TcpSessions (cfg : Kconfig) where
  server : PeerWorld cfg.tcpNmeaServerMaxPeers
  pipeline : Pipeline cfg
  /-- The session of the call a thread is in. -/
  calls : SessionCaller cfg → Option ℕ
  /-- The number of calls so far; each has a session of its own. -/
  called : ℕ
  descriptors : ℕ → Option Descriptor
  /-- The number of accepts so far. -/
  accepts : ℕ
  /-- How often the descriptor an accept returned was closed. -/
  closes : ℕ → ℕ
  /-- Closes by the server's threads of anything else. -/
  strayCloses : ℕ

inductive TcpSessionsLabel (cfg : Kconfig) where
  | server (label : PeerLabel cfg.tcpNmeaServerMaxPeers)
  /-- The client thread calls `tcp_nmea_session_run`, or returns from it. -/
  | client
  | pipeline (label : PipelineLabel)
  /-- Other threads open and close descriptors of their own. -/
  | othersOpen (fd : ℕ)
  | othersClose (fd : ℕ)
  deriving DecidableEq, Repr

variable {cfg : Kconfig}

namespace TcpSessions

/-- A `zsock_close` of the server's threads; `none` for -1, which is not closed. -/
def zsockClose (sys : TcpSessions cfg) : Option ℕ → TcpSessions cfg
  | none => sys
  | some fd =>
    let closed := { sys with descriptors := Function.update sys.descriptors fd none }
    match sys.descriptors fd with
    | some (.accepted accept) =>
      { closed with closes := Function.update sys.closes accept (sys.closes accept + 1) }
    | _ => { closed with strayCloses := sys.strayCloses + 1 }

def sessionStarts (sys : TcpSessions cfg) (caller : SessionCaller cfg) : TcpSessions cfg :=
  { sys with
    calls := Function.update sys.calls caller (some sys.called)
    called := sys.called + 1 }

/-- The call returns when its session has ended. -/
def sessionReturns (sys : TcpSessions cfg) (caller : SessionCaller cfg) :
    Option (TcpSessions cfg) :=
  match sys.calls caller with
  | none => none
  | some session =>
    match (sys.pipeline.sessions session).phase with
    | .ended _ => some { sys with calls := Function.update sys.calls caller none }
    | _ => none

theorem sessionReturns_cases {sys after : TcpSessions cfg} {caller : SessionCaller cfg}
    (returned : sys.sessionReturns caller = some after) :
    ∃ session result, sys.calls caller = some session ∧
      (sys.pipeline.sessions session).phase = .ended result ∧
      after = { sys with calls := Function.update sys.calls caller none } := by
  unfold sessionReturns at returned
  split at returned
  · cases returned
  · rename_i session call
    split at returned
    · rename_i result ended
      exact ⟨session, result, call, ended, (Option.some.inj returned).symm⟩
    · cases returned

/-- `zsock_accept` returns a number that is free. -/
def accept (sys : TcpSessions cfg) : Option ℕ → Option (TcpSessions cfg)
  | none => some sys
  | some fd =>
    if sys.descriptors fd = none then
      some { sys with
        descriptors := Function.update sys.descriptors fd (some (.accepted sys.accepts))
        accepts := sys.accepts + 1 }
    else none

/-- What a step of the server's threads does to descriptors and sessions. -/
def serverCall (sys : TcpSessions cfg) :
    PeerLabel cfg.tcpNmeaServerMaxPeers → Option (TcpSessions cfg)
  | .accept fd => sys.accept fd
  | .server => some (sys.zsockClose sys.server.rejected)
  | .peer peer =>
    match (sys.server.peers peer).thread with
    | .created => some (sys.sessionStarts (some peer))
    | .session _ => sys.sessionReturns (some peer)
    -- in `close_peer`
    | .closing => some (sys.zsockClose (sys.server.peers peer).fd)
    | _ => some sys

/-- Only a session that somebody called goes on. -/
def pipelineCall (sys : TcpSessions cfg) (label : PipelineLabel) : Option (TcpSessions cfg) :=
  match label.session with
  | none => (pipelineStep sys.pipeline label).map fun pipeline => { sys with pipeline }
  | some session =>
    if ∃ caller, sys.calls caller = some session then
      (pipelineStep sys.pipeline label).map fun pipeline => { sys with pipeline }
    else none

end TcpSessions

def tcpSessionsStep (sys : TcpSessions cfg) :
    TcpSessionsLabel cfg → Option (TcpSessions cfg)
  | .server label =>
    if cfg.tcpNmeaServerEnable then
      (peerStep sys.server label).bind fun server =>
        (sys.serverCall label).map fun sys => { sys with server }
    else none
  | .client =>
    match sys.calls none with
    | none => some (sys.sessionStarts none)
    | some _ => sys.sessionReturns none
  | .pipeline label => sys.pipelineCall label
  | .othersOpen fd =>
    if sys.descriptors fd = none then
      some { sys with descriptors := Function.update sys.descriptors fd (some .other) }
    else none
  | .othersClose fd =>
    if sys.descriptors fd = some .other then
      some { sys with descriptors := Function.update sys.descriptors fd none }
    else none

/-- The threads are started and have done nothing yet. `others` are the descriptors that
are open already, the listening socket among them. -/
def tcpSessionsStart (cfg : Kconfig) (others : Finset ℕ) : TcpSessions cfg where
  server := peerStart _
  pipeline := pipelineInit
  calls _ := none
  called := 0
  descriptors fd := if fd ∈ others then some .other else none
  accepts := 0
  closes _ := 0
  strayCloses := 0

end EspNmeaBridge
