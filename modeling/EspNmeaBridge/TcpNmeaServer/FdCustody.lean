/-
# Who has which descriptor

A descriptor that `zsock_accept` returned is in the server thread's hands until it is stored
in a slot, or closed because there is none. The slot has it from then on, until `close_peer`
closes it: what its `fd` holds between the close and the -1 is a number only. No step of the
threads drops a descriptor in another way, and none has it twice.
-/

import EspNmeaBridge.TcpNmeaServer.SlotReuse

namespace EspNmeaBridge

variable {maxPeers : ℕ}

/-- The descriptor a slot has. -/
def PeerSlot.holds (slot : PeerSlot) : Option ℕ :=
  if slot.active = true ∧ slot.thread ≠ .fdClosed then slot.fd else none

/-- The descriptor the server thread has in its hands. -/
def ServerThread.holds : ServerThread maxPeers → Option ℕ
  | .accepted fd | .allocated fd _ => some fd
  | .accepting | .fdStored _ => none

/-- The hands a descriptor can be in: those of the server thread, which is `none`, and the
slots. -/
def PeerWorld.holds (world : PeerWorld maxPeers) : Option (Fin maxPeers) → Option ℕ
  | none => world.server.holds
  | some peer => (world.peers peer).holds

/-- The thread on a slot has not yet reset the slot's `fd`. -/
def PeerThread.hasFd : PeerThread → Bool
  | .created | .session _ | .closing | .fdClosed => true
  | _ => false

/-- The slots keep no number of an earlier session: a slot with an `fd` has a thread that
resets it, or is about to get one. -/
structure FdInvariant (world : PeerWorld maxPeers) : Prop where
  slots : SlotInvariant world
  leftover : ∀ peer, (world.peers peer).fd ≠ none →
    (world.peers peer).thread.hasFd = true ∨ world.server = .fdStored peer

theorem peerStart_fdInvariant (maxPeers : ℕ) : FdInvariant (peerStart maxPeers) where
  slots := peerStart_invariant maxPeers
  leftover _ some := absurd rfl some

section Slots

variable {world : PeerWorld maxPeers} {peer : Fin maxPeers}

/-- A slot that is free, or only just allocated, has no number in it. -/
theorem FdInvariant.fd_eq_none (inv : FdInvariant world)
    (out : (world.peers peer).thread.hasFd = false) (unstored : world.server ≠ .fdStored peer) :
    (world.peers peer).fd = none := by
  by_contra left
  rcases inv.leftover peer left with working | stored
  · simp [out] at working
  · exact unstored stored

theorem hasFd_of_gone {thread : PeerThread}
    (gone : thread.ended = true ∨ thread.leaving = true) : thread.hasFd = false := by
  cases thread <;> simp_all [PeerThread.ended, PeerThread.leaving, PeerThread.hasFd]

/-- A thread that is on its way out of its slot leaves no number in it. -/
theorem FdInvariant.releasing (inv : FdInvariant world)
    (releasing : (world.peers peer).thread = .releasing) : (world.peers peer).fd = none := by
  refine inv.fd_eq_none (by rw [releasing]; rfl) fun stored => ?_
  have gone := (inv.slots.allocated peer (by rw [stored]; rfl)).2
  simp [releasing, PeerThread.ended, PeerThread.leaving] at gone

/-- A thread in its session, or in front of the close, has its slot. -/
theorem FdInvariant.holds_eq (inv : FdInvariant world)
    (inside : (world.peers peer).thread = .closing) :
    (world.peers peer).holds = (world.peers peer).fd := by
  have active := (inv.slots.taken peer).resolve_right
    (by simp [inside, PeerThread.ended, PeerThread.leaving])
  rw [PeerSlot.holds, if_pos ⟨active, by simp [inside]⟩]

end Slots

/-! ## What a step does to the hands -/

/-- The descriptor that a step hands to `zsock_close`. -/
def PeerWorld.closes (world : PeerWorld maxPeers) : PeerLabel maxPeers → Option ℕ
  | .accept _ => none
  | .server => world.rejected
  | .peer peer =>
    match (world.peers peer).thread with
    | .closing => (world.peers peer).fd
    | _ => none

/-- The effect of a step on who has which descriptor. -/
inductive HandsEffect (world : PeerWorld maxPeers) (label : PeerLabel maxPeers)
    (next : PeerWorld maxPeers) : Prop
  /-- Nobody's hands change. -/
  | unchanged (accepts : ∀ fd, label ≠ .accept (some fd)) (closes : world.closes label = none)
      (same : ∀ who, next.holds who = world.holds who)
  /-- The server thread accepts a connection. -/
  | took (fd : ℕ) (accepts : label = .accept (some fd)) (free : world.holds none = none)
      (has : next.holds none = some fd) (others : ∀ who ≠ none, next.holds who = world.holds who)
  /-- The server thread stores the descriptor in a slot. -/
  | gave (fd : ℕ) (peer : Fin maxPeers) (acts : label = .server)
      (closes : world.closes label = none) (had : world.holds none = some fd)
      (free : world.holds (some peer) = none) (gave : next.holds none = none)
      (got : next.holds (some peer) = some fd)
      (others : ∀ who, who ≠ none → who ≠ some peer → next.holds who = world.holds who)
  /-- Who has the descriptor closes it. -/
  | dropped (who : Option (Fin maxPeers)) (fd : ℕ) (closes : world.closes label = some fd)
      (had : world.holds who = some fd) (gone : next.holds who = none)
      (others : ∀ other ≠ who, next.holds other = world.holds other)

section Steps

variable {world next : PeerWorld maxPeers}

@[simp] theorem holds_setPeer (world : PeerWorld maxPeers) (peer : Fin maxPeers) (slot : PeerSlot)
    (server : ServerThread maxPeers) (other : Fin maxPeers) :
    PeerWorld.holds { world.setPeer peer slot with server } (some other) =
      if other = peer then slot.holds else world.holds (some other) := by
  simp only [PeerWorld.holds, PeerWorld.setPeer, Function.update_apply]
  split_ifs <;> rfl

/-- One slot changes and has what it had before, and the server thread does, too. -/
theorem holds_setPeer_same {peer : Fin maxPeers} {slot : PeerSlot} {server : ServerThread maxPeers}
    (slotSame : slot.holds = (world.peers peer).holds)
    (serverSame : server.holds = world.server.holds)
    (who : Option (Fin maxPeers)) :
    PeerWorld.holds { world.setPeer peer slot with server } who = world.holds who := by
  cases who with
  | none => exact serverSame
  | some other =>
    rw [holds_setPeer]
    split_ifs with same
    · rw [same, slotSame]
      rfl
    · rfl

theorem accept_hands {fd : Option ℕ} (stepped : peerStep world (.accept fd) = some next) :
    HandsEffect world (.accept fd) next := by
  obtain ⟨at_, rfl⟩ := accept_cases stepped
  cases fd with
  | none =>
    refine .unchanged (by simp) rfl fun who => ?_
    cases who with
    | none => exact (congrArg ServerThread.holds at_).symm
    | some peer => rfl
  | some fd =>
    refine .took fd rfl (congrArg ServerThread.holds at_) rfl fun who accepts => ?_
    cases who with
    | none => exact absurd rfl accepts
    | some peer => rfl

/-- A thread that has left its slot, or is on its way out, is not behind its close. -/
theorem ne_fdClosed_of_gone {thread : PeerThread}
    (gone : thread.ended = true ∨ thread.leaving = true) : thread ≠ .fdClosed := by
  rintro rfl
  simp [PeerThread.ended, PeerThread.leaving] at gone

theorem server_hands (inv : FdInvariant world) (stepped : peerStep world .server = some next) :
    HandsEffect world .server next := by
  rcases serverStep_cases stepped with ⟨fd, at_, full, rfl⟩ | ⟨fd, peer, at_, free, inactive, rfl⟩ |
    ⟨fd, peer, at_, rfl⟩ | ⟨peer, at_, rfl⟩
  · refine .dropped none fd ?_ (congrArg ServerThread.holds at_) rfl fun who others => ?_
    · simp [PeerWorld.closes, PeerWorld.rejected, at_, full]
    · cases who with
      | none => exact absurd rfl others
      | some peer => rfl
  · refine .unchanged (by simp) ?_ ?_
    · simp [PeerWorld.closes, PeerWorld.rejected, at_, free]
    · exact holds_setPeer_same (by simp [PeerSlot.holds, inactive])
        (congrArg ServerThread.holds at_).symm
  · -- the thread that had the slot before left no number in it
    obtain ⟨active, gone⟩ := inv.slots.allocated peer (by rw [at_]; rfl)
    have empty := inv.fd_eq_none (hasFd_of_gone gone) (by simp [at_])
    refine .gave fd peer rfl ?_ (congrArg ServerThread.holds at_) ?_ rfl ?_
      fun who server slot => ?_
    · simp [PeerWorld.closes, PeerWorld.rejected, at_]
    · simp [PeerWorld.holds, PeerSlot.holds, empty]
    · rw [holds_setPeer, if_pos rfl, PeerSlot.holds, if_pos ⟨active, ne_fdClosed_of_gone gone⟩]
    · cases who with
      | none => exact absurd rfl server
      | some other =>
        rw [holds_setPeer, if_neg fun same => slot (congrArg some same)]
  · have gone := (inv.slots.allocated peer (by rw [at_]; rfl)).2
    refine .unchanged (by simp) ?_ ?_
    · simp [PeerWorld.closes, PeerWorld.rejected, at_]
    · exact holds_setPeer_same (by simp [PeerSlot.holds, ne_fdClosed_of_gone gone])
        (congrArg ServerThread.holds at_).symm

theorem peer_hands (inv : FdInvariant world) {peer : Fin maxPeers}
    (stepped : peerStep world (.peer peer) = some next) :
    HandsEffect world (.peer peer) next := by
  obtain ⟨slot, moved, rfl⟩ := peer_cases stepped
  -- all threads but the one in front of `zsock_close` keep what the slot has
  have keeps (quiet : world.closes (.peer peer) = none)
      (same : slot.holds = (world.peers peer).holds) :
      HandsEffect world (.peer peer) (world.setPeer peer slot) :=
    .unchanged (by simp) quiet (holds_setPeer_same same rfl)
  cases at_ : (world.peers peer).thread with
  | notCreated => simp [peerThreadStep, at_] at moved
  | exited => simp [peerThreadStep, at_] at moved
  | closing =>
    simp only [peerThreadStep, at_, Option.some.injEq] at moved
    have has := inv.holds_eq at_
    cases fd : (world.peers peer).fd with
    | none =>
      rw [fd] at has
      refine keeps (by simp [PeerWorld.closes, at_, fd]) (Eq.trans ?_ has.symm)
      simp [← moved, fd, PeerSlot.holds]
    | some number =>
      rw [fd] at has
      refine .dropped (some peer) number (by simp [PeerWorld.closes, at_, fd]) has ?_
        fun who other => ?_
      · refine (holds_setPeer world peer slot _ peer).trans ?_
        simp [← moved, fd, PeerSlot.holds]
      · cases who with
        | none => rfl
        | some other' =>
          refine (holds_setPeer world peer slot _ other').trans ?_
          rw [if_neg fun same => other (congrArg some same)]
  | fdClosed =>
    simp only [peerThreadStep, at_, Option.some.injEq] at moved
    refine keeps (by simp [PeerWorld.closes, at_]) ?_
    simp [← moved, PeerSlot.holds, at_]
  | releasing =>
    simp only [peerThreadStep, at_, Option.some.injEq] at moved
    have empty := inv.releasing at_
    refine keeps (by simp [PeerWorld.closes, at_]) ?_
    simp [← moved, PeerSlot.holds, empty]
  | _ =>
    simp only [peerThreadStep, at_, Option.some.injEq] at moved
    refine keeps (by simp [PeerWorld.closes, at_]) ?_
    simp [← moved, PeerSlot.holds, at_]

/-- Every step of the server's threads has one of these effects. -/
theorem peerStep_hands (inv : FdInvariant world) {label : PeerLabel maxPeers}
    (stepped : peerStep world label = some next) : HandsEffect world label next := by
  cases label with
  | accept fd => exact accept_hands stepped
  | server => exact server_hands inv stepped
  | peer peer => exact peer_hands inv stepped

/-! ## The invariant -/

/-- One slot changes, with a thread that resets its number, without one, or as before. -/
theorem leftover_setPeer (inv : FdInvariant world) {peer : Fin maxPeers} {slot : PeerSlot}
    (server : ServerThread maxPeers)
    (here : slot.fd ≠ none → slot.thread.hasFd = true ∨ server = .fdStored peer)
    (others : ∀ other ≠ peer, world.server = .fdStored other → server = .fdStored other)
    (other : Fin maxPeers) :
    let after : PeerWorld maxPeers := { world.setPeer peer slot with server }
    (after.peers other).fd ≠ none →
      (after.peers other).thread.hasFd = true ∨ after.server = .fdStored other := by
  intro after left
  simp only [after, PeerWorld.setPeer, Function.update_apply] at left ⊢
  split_ifs at left ⊢ with same
  · subst same
    exact here left
  · exact (inv.leftover other left).imp_right (others other same)

theorem peerThreadStep_leftover {slot after : PeerSlot} (stepped : peerThreadStep slot = some after)
    (left : after.fd ≠ none) :
    after.thread.hasFd = true ∨ slot.thread.hasFd = false ∧ slot.fd = after.fd := by
  obtain ⟨fd, active, thread⟩ := slot
  cases thread with
  | notCreated => cases stepped
  | exited => cases stepped
  | closing =>
    obtain rfl := Option.some.inj stepped
    cases fd with
    | none => exact absurd rfl left
    | some number => exact .inl rfl
  | fdClosed =>
    obtain rfl := Option.some.inj stepped
    exact absurd rfl left
  | _ =>
    obtain rfl := Option.some.inj stepped
    simp [PeerThread.hasFd]

theorem FdInvariant.step (inv : FdInvariant world) {label : PeerLabel maxPeers}
    (stepped : peerStep world label = some next) : FdInvariant next := by
  refine ⟨peerStep_invariant inv.slots stepped, ?_⟩
  cases label with
  | accept fd =>
    obtain ⟨at_, rfl⟩ := accept_cases stepped
    intro peer left
    exact (inv.leftover peer left).imp_right fun stored => by simp [at_] at stored
  | server =>
    rcases serverStep_cases stepped with ⟨fd, at_, -, rfl⟩ | ⟨fd, peer, at_, -, -, rfl⟩ |
      ⟨fd, peer, at_, rfl⟩ | ⟨peer, at_, rfl⟩
    · intro peer left
      exact (inv.leftover peer left).imp_right fun stored => by simp [at_] at stored
    · exact leftover_setPeer inv _ (absurd rfl) fun _ _ stored => by simp [at_] at stored
    · exact leftover_setPeer inv _ (fun _ => .inr rfl) fun _ _ stored => by simp [at_] at stored
    · refine leftover_setPeer inv _ (fun _ => .inl rfl) fun other apart stored => ?_
      rw [at_] at stored
      exact absurd (ServerThread.fdStored.inj stored).symm apart
  | peer peer =>
    obtain ⟨slot, moved, rfl⟩ := peer_cases stepped
    refine leftover_setPeer inv world.server (fun left => ?_) fun _ _ stored => stored
    rcases peerThreadStep_leftover moved left with working | ⟨idle, same⟩
    · exact .inl working
    · -- the number was there before, so the server thread has just stored it
      refine .inr ((inv.leftover peer (same ▸ left)).resolve_left ?_)
      simp [idle]

end Steps

end EspNmeaBridge
