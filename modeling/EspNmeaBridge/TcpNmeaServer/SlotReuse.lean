/-
# When a slot is reused too early

`close_peer` clears the flag of its slot, and the thread that called it has still to
write its log message and to return. A connection that comes in between takes the slot:
the new thread is created over the old one. In every other place of the thread its slot
is taken, or the thread has ended.
-/

import EspNmeaBridge.TcpNmeaServer

namespace EspNmeaBridge

variable {maxPeers : ℕ}

/-- No thread runs on the slot. -/
def PeerThread.ended : PeerThread → Bool
  | .notCreated | .exited => true
  | _ => false

/-- The slot was given back, and the thread still runs on its stack. -/
def PeerThread.leaving : PeerThread → Bool
  | .released | .logged => true
  | _ => false

/-- A call of `k_thread_create` finds no thread running on the slot. -/
def CreatesOnEnded (world : PeerWorld maxPeers) (label : PeerLabel maxPeers) : Prop :=
  ∀ peer, label = .server → world.server = .fdStored peer → (world.peers peer).thread.ended = true

/-- A call of `k_thread_create` does not come between the release of the slot and the return
of its thread. -/
def CreatesAfterLeaving (world : PeerWorld maxPeers) (label : PeerLabel maxPeers) : Prop :=
  ∀ peer, label = .server → world.server = .fdStored peer →
    (world.peers peer).thread.leaving = false

instance (world : PeerWorld maxPeers) (label : PeerLabel maxPeers) :
    Decidable (CreatesOnEnded world label) :=
  inferInstanceAs (Decidable (∀ _, _ → _ → _))

/-! ## The invariant -/

/-- The slot the server thread is about to create a thread on. -/
@[simp] def ServerThread.slot : ServerThread maxPeers → Option (Fin maxPeers)
  | .allocated _ peer | .fdStored peer => some peer
  | _ => none

structure SlotInvariant (world : PeerWorld maxPeers) : Prop where
  /-- A thread in its session, or on its way out of it, has its slot. -/
  taken : ∀ peer, (world.peers peer).active = true ∨ (world.peers peer).thread.ended = true ∨
    (world.peers peer).thread.leaving = true
  /-- The thread on the slot that was just allocated has left it, or is about to. -/
  allocated : ∀ peer, world.server.slot = some peer → (world.peers peer).active = true ∧
    ((world.peers peer).thread.ended = true ∨ (world.peers peer).thread.leaving = true)

section Steps

variable {world next : PeerWorld maxPeers}

theorem peerStart_invariant (maxPeers : ℕ) : SlotInvariant (peerStart maxPeers) where
  taken _ := .inr (.inl rfl)
  allocated _ := nofun

/-- One slot changes, and the server thread holds it afterwards or did not before. -/
theorem SlotInvariant.update (inv : SlotInvariant world) {peer : Fin maxPeers} {slot : PeerSlot}
    {server : ServerThread maxPeers}
    (taken : slot.active = true ∨ slot.thread.ended = true ∨ slot.thread.leaving = true)
    (allocated : server.slot = some peer →
      slot.active = true ∧ (slot.thread.ended = true ∨ slot.thread.leaving = true))
    (others : ∀ other, other ≠ peer → server.slot = some other → world.server.slot = some other) :
    SlotInvariant { world.setPeer peer slot with server } where
  taken other := by
    simp only [PeerWorld.setPeer, Function.update_apply]
    split_ifs
    · exact taken
    · exact inv.taken other
  allocated other held := by
    simp only [PeerWorld.setPeer, Function.update_apply]
    split_ifs with same
    · exact allocated (same ▸ held)
    · exact inv.allocated other (others other same held)

theorem serverStep_invariant (inv : SlotInvariant world) (stepped : serverStep world = some next) :
    SlotInvariant next := by
  rcases serverStep_cases stepped with ⟨fd, -, -, rfl⟩ | ⟨fd, peer, -, -, inactive, rfl⟩ |
    ⟨fd, peer, at_, rfl⟩ | ⟨peer, at_, rfl⟩
  · -- No free slot: the connection is closed at once.
    exact ⟨inv.taken, fun _ => nofun⟩
  · -- The slot is free, so its thread has ended or is about to.
    have left := (inv.taken peer).resolve_left (by simp [inactive])
    refine inv.update (.inl rfl) (fun _ => ⟨rfl, left⟩) fun other different held => ?_
    exact absurd (Option.some.inj held).symm different
  · have held := inv.allocated peer (by rw [at_]; rfl)
    refine inv.update (.inl held.1) (fun _ => held) fun other different held' => ?_
    exact absurd (Option.some.inj held').symm different
  · have held := inv.allocated peer (by rw [at_]; rfl)
    exact inv.update (.inl held.1) nofun fun _ _ => nofun

/-- A thread gives up its slot only on its way out of `close_peer`. -/
theorem peerThreadStep_slot {slot after : PeerSlot} (stepped : peerThreadStep slot = some after) :
    (slot.active = true ∨ slot.thread.leaving = true →
      after.active = true ∨ after.thread.ended = true ∨ after.thread.leaving = true) ∧
      slot.thread.ended = false ∧
      (slot.thread.leaving = true → after.active = slot.active ∧
        (after.thread.ended = true ∨ after.thread.leaving = true)) := by
  obtain ⟨fd, active, thread⟩ := slot
  cases thread with
  | notCreated => cases stepped
  | exited => cases stepped
  | closing =>
    obtain rfl := Option.some.inj stepped
    cases fd <;> simp [PeerThread.leaving, PeerThread.ended]
  | _ =>
    obtain rfl := Option.some.inj stepped
    simp [PeerThread.leaving, PeerThread.ended]

theorem peerStep_invariant {label : PeerLabel maxPeers} (inv : SlotInvariant world)
    (stepped : peerStep world label = some next) : SlotInvariant next := by
  cases label with
  | accept fd =>
    obtain ⟨-, rfl⟩ := accept_cases stepped
    cases fd <;> exact ⟨inv.taken, fun _ => nofun⟩
  | server => exact serverStep_invariant inv stepped
  | peer peer =>
    obtain ⟨slot, moved, rfl⟩ := peer_cases stepped
    obtain ⟨keeps, running, left⟩ := peerThreadStep_slot moved
    have taken := (inv.taken peer).imp_right fun gone =>
      gone.resolve_left (Bool.eq_false_iff.mp running)
    refine inv.update (keeps taken) (fun held => ?_) fun _ _ held => held
    obtain ⟨active, gone⟩ := inv.allocated peer held
    obtain ⟨same, out⟩ := left (gone.resolve_left (Bool.eq_false_iff.mp running))
    exact ⟨same.trans active, out⟩

end Steps

/-! ## The law -/

/-- Along every run: each thread is created on a slot without a running thread, if and only if
none is created between the release of its slot and the return of the thread before. -/
theorem slot_reuse_iff (maxPeers : ℕ) (labels : List (PeerLabel maxPeers)) :
    Transitions.Meets peerStep CreatesOnEnded (peerStart maxPeers) labels ↔
      Transitions.Meets peerStep CreatesAfterLeaving (peerStart maxPeers) labels := by
  apply Transitions.meets_iff (fun _ _ _ inv stepped => peerStep_invariant inv stepped) _
    (peerStart_invariant maxPeers)
  intro world label inv
  apply forall₃_congr
  intro peer _ stored
  have gone := (inv.allocated peer (by rw [stored]; rfl)).2
  constructor
  · intro ended
    cases at_ : (world.peers peer).thread <;>
      simp_all [PeerThread.ended, PeerThread.leaving]
  · intro stays
    exact gone.resolve_right (Bool.eq_false_iff.mp stays)

/-- A second connection between the release and the log message of the first session. -/
def earlyConnection : List (PeerLabel 1) :=
  [.accept (some 3), .server, .server, .server] ++ List.replicate 5 (.peer 0) ++
    [.accept (some 4), .server, .server, .server]

/-- With one slot, its thread is overwritten while it runs. -/
theorem slot_reused_early :
    ¬ Transitions.Meets peerStep CreatesOnEnded (peerStart 1) earlyConnection := by
  decide

end EspNmeaBridge
