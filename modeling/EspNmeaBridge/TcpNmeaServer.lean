/-
# The TCP server

The server thread accepts connections and gives each a slot: a descriptor, a flag, and
the thread object and stack of the session. The session's own thread gives the slot back
before it ends, and still runs on the slot's stack when it does.

The sections under `peers_lock` are one step each, and so is every other access to a slot.
-/

import EspNmeaBridge.Lib.Transitions

namespace EspNmeaBridge

/-- Where the thread last created on a slot is. -/
inductive PeerThread where
  | notCreated
  | created
  /-- Inside `tcp_nmea_session_run`. -/
  | session (fd : Option ℕ)
  /-- In `close_peer`. -/
  | closing
  /-- Behind `zsock_close`. -/
  | fdClosed
  /-- In front of the section that clears `active`. -/
  | releasing
  /-- Behind `close_peer`. -/
  | released
  /-- Behind the log message, about to return. -/
  | logged
  | exited
  deriving DecidableEq, Repr

/-- A slot of the `peers` array, with the thread whose object and stack it has. -/
structure PeerSlot where
  /-- `none` for -1. -/
  fd : Option ℕ
  active : Bool
  thread : PeerThread
  deriving DecidableEq, Repr

/-- Where `server_thread` is in its loop. -/
inductive ServerThread (maxPeers : ℕ) where
  | accepting
  | accepted (fd : ℕ)
  | allocated (fd : ℕ) (peer : Fin maxPeers)
  /-- About to call `k_thread_create`. -/
  | fdStored (peer : Fin maxPeers)
  deriving DecidableEq, Repr

/-- The slots and the server thread; there is no other state. -/
structure PeerWorld (maxPeers : ℕ) where
  peers : Fin maxPeers → PeerSlot
  server : ServerThread maxPeers

inductive PeerLabel (maxPeers : ℕ) where
  /-- What `zsock_accept` returned. -/
  | accept (fd : Option ℕ)
  /-- The server thread goes on behind an accept. -/
  | server
  /-- The next step of the thread on a slot; in a session, its end. -/
  | peer (peer : Fin maxPeers)
  deriving DecidableEq, Repr

variable {maxPeers : ℕ}

def PeerWorld.setPeer (world : PeerWorld maxPeers) (peer : Fin maxPeers) (slot : PeerSlot) :
    PeerWorld maxPeers :=
  { world with peers := Function.update world.peers peer slot }

/-- The slot that `alloc_peer` takes. -/
def allocPeer (peers : Fin maxPeers → PeerSlot) : Option (Fin maxPeers) :=
  (List.finRange maxPeers).find? fun peer => !(peers peer).active

/-- The descriptor of a connection that is turned away, because no slot is free. -/
def PeerWorld.rejected (world : PeerWorld maxPeers) : Option ℕ :=
  match world.server with
  | .accepted fd => if allocPeer world.peers = none then some fd else none
  | _ => none

/-- What the server thread does behind an accept, up to the next one. -/
def serverStep (world : PeerWorld maxPeers) : Option (PeerWorld maxPeers) :=
  match world.server with
  | .accepting => none
  | .accepted fd =>
    match allocPeer world.peers with
    -- the connection is closed again
    | none => some { world with server := .accepting }
    | some peer =>
      some { world.setPeer peer { world.peers peer with fd := none, active := true } with
        server := .allocated fd peer }
  | .allocated fd peer =>
    some { world.setPeer peer { world.peers peer with fd := some fd } with
      server := .fdStored peer }
  | .fdStored peer =>
    some { world.setPeer peer { world.peers peer with thread := .created } with
      server := .accepting }

/-- `peer_thread`, and in it `close_peer`. -/
def peerThreadStep (slot : PeerSlot) : Option PeerSlot :=
  match slot.thread with
  | .notCreated | .exited => none
  | .created => some { slot with thread := .session slot.fd }
  | .session _ => some { slot with thread := .closing }
  | .closing => some { slot with thread := if slot.fd.isSome then .fdClosed else .releasing }
  | .fdClosed => some { slot with fd := none, thread := .releasing }
  | .releasing => some { slot with active := false, thread := .released }
  | .released => some { slot with thread := .logged }
  | .logged => some { slot with thread := .exited }

/-- One thread makes one step; the rest stands still. -/
def peerStep (world : PeerWorld maxPeers) : PeerLabel maxPeers → Option (PeerWorld maxPeers)
  | .accept fd =>
    match world.server with
    | .accepting =>
      some { world with server := match fd with
        | none => .accepting
        | some fd => .accepted fd }
    | _ => none
  | .server => serverStep world
  | .peer peer => (peerThreadStep (world.peers peer)).map (world.setPeer peer)

/-- `tcp_nmea_server_start` has started the server thread, which listens. -/
def peerStart (maxPeers : ℕ) : PeerWorld maxPeers where
  peers _ := ⟨none, false, .notCreated⟩
  server := .accepting

/-! ## What a step can do -/

section Cases

variable {world next : PeerWorld maxPeers}

theorem accept_cases {fd : Option ℕ} (stepped : peerStep world (.accept fd) = some next) :
    world.server = .accepting ∧
      next = { world with server := fd.elim .accepting .accepted } := by
  unfold peerStep at stepped
  cases at_ : world.server with
  | accepting =>
    simp only [at_, Option.some.injEq] at stepped
    subst stepped
    cases fd <;> exact ⟨rfl, rfl⟩
  | _ => simp [at_] at stepped

/-- Behind an accept the server thread turns the connection away, takes a free slot, stores
the descriptor in its slot, or creates the thread of its slot. -/
theorem serverStep_cases (stepped : serverStep world = some next) :
    (∃ fd, world.server = .accepted fd ∧ allocPeer world.peers = none ∧
      next = { world with server := .accepting }) ∨
    (∃ fd peer, world.server = .accepted fd ∧ allocPeer world.peers = some peer ∧
      (world.peers peer).active = false ∧
      next = { world.setPeer peer { world.peers peer with fd := none, active := true } with
        server := .allocated fd peer }) ∨
    (∃ fd peer, world.server = .allocated fd peer ∧
      next = { world.setPeer peer { world.peers peer with fd := some fd } with
        server := .fdStored peer }) ∨
    ∃ peer, world.server = .fdStored peer ∧
      next = { world.setPeer peer { world.peers peer with thread := .created } with
        server := .accepting } := by
  unfold serverStep at stepped
  cases at_ : world.server with
  | accepting => simp [at_] at stepped
  | accepted fd =>
    simp only [at_] at stepped
    cases free : allocPeer world.peers with
    | none =>
      simp only [free, Option.some.injEq] at stepped
      exact .inl ⟨fd, rfl, rfl, stepped.symm⟩
    | some peer =>
      simp only [free, Option.some.injEq] at stepped
      have inactive : (world.peers peer).active = false := by
        simpa using List.find?_some free
      exact .inr (.inl ⟨fd, peer, rfl, rfl, inactive, stepped.symm⟩)
  | allocated fd peer =>
    simp only [at_, Option.some.injEq] at stepped
    exact .inr (.inr (.inl ⟨fd, peer, rfl, stepped.symm⟩))
  | fdStored peer =>
    simp only [at_, Option.some.injEq] at stepped
    exact .inr (.inr (.inr ⟨peer, rfl, stepped.symm⟩))

theorem peer_cases {peer : Fin maxPeers} (stepped : peerStep world (.peer peer) = some next) :
    ∃ slot, peerThreadStep (world.peers peer) = some slot ∧ next = world.setPeer peer slot := by
  obtain ⟨slot, moved, rfl⟩ := Option.map_eq_some_iff.mp stepped
  exact ⟨slot, moved, rfl⟩

end Cases

end EspNmeaBridge
