/-
# Frames keep their order

A frame that passes the filter moves from the reader through the ingest queue and
the dispatcher to the queue of a sink, and from there to a session. Whatever is
dropped on the way and however the threads interleave, the frames a session has
taken, those waiting for it and those still underway are, in this order, some of the
frames that passed.
-/

import EspNmeaBridge.Pipeline

namespace EspNmeaBridge

variable {cfg : Kconfig}

/-! ## Frames on their way -/

/-- The frame the dispatcher still has to put into slot `i`. -/
def DispatcherPhase.pending (dispatcher : DispatcherPhase cfg) (i : Fin cfg.nmeaSinksMax) :
    List Frame :=
  match dispatcher with
  | .waiting => []
  | .locking frame => [frame.data]
  | .scanning frame next _ _ _ => if next ≤ i.val then [frame.data] else []

namespace Pipeline

variable (sys : Pipeline cfg)

/-- The frames the filter has passed. -/
def passed : List Frame := (sys.handed.filter fun line => !line.2).map Prod.fst

/-- The frame the reader is putting. -/
def rxPending : List Frame := sys.publishing.toList.map fun put => put.1.data

def ingested : List Frame := sys.bridge.ingest.elements.map (·.data)

/-- The frames that may still come to slot `i`, next one first. -/
def underway (i : Fin cfg.nmeaSinksMax) : List Frame :=
  sys.dispatcher.pending i ++ (sys.ingested ++ sys.rxPending)

/-- The frames in the queue of slot `i`, next one first. -/
def queued (i : Fin cfg.nmeaSinksMax) : List Frame :=
  (sys.bridge.sinks i).msgq.elements.map (·.data)

end Pipeline

/-- Frames keep their order, every session has its own slot, and what it received
precedes what it will receive. -/
structure InOrder (sys : Pipeline cfg) : Prop where
  underway : ∀ i, (sys.underway i).Sublist sys.passed
  received : ∀ s, (sys.sessions s).received.Sublist sys.passed
  owned : ∀ s i, (sys.sessions s).sinkId = i.val → (sys.bridge.sinks i).active = true ∧
    ((sys.sessions s).received ++ (sys.queued i ++ sys.underway i)).Sublist sys.passed
  distinct : ∀ s s' (i : Fin cfg.nmeaSinksMax), (sys.sessions s).sinkId = i.val →
    (sys.sessions s').sinkId = i.val → s = s'
  slots : ∀ s, (sys.sessions s).sinkId = -1 ∨
    ∃ i : Fin cfg.nmeaSinksMax, (sys.sessions s).sinkId = i.val
  taking : ∀ s i, (sys.sessions s).phase = .taking i → (sys.sessions s).sinkId = i.val

section Reader

variable {sys next : Pipeline cfg}

/-- A step of reader or dispatcher that lets frames move on, get lost or, for the
frames in `fresh`, come in. -/
theorem InOrder.of_flow (order : InOrder sys) (fresh : List Frame)
    (sessions : next.sessions = sys.sessions)
    (active : ∀ i, (next.bridge.sinks i).active = (sys.bridge.sinks i).active)
    (passed : (sys.passed ++ fresh).Sublist next.passed)
    (underway : ∀ i, (next.underway i).Sublist (sys.underway i ++ fresh))
    (flow : ∀ i, (next.queued i ++ next.underway i).Sublist
      (sys.queued i ++ sys.underway i ++ fresh)) : InOrder next where
  underway i := (underway i).trans (((order.underway i).append_right fresh).trans passed)
  received s := by
    rw [sessions]
    exact (order.received s).trans ((List.sublist_append_left _ _).trans passed)
  owned s i slot := by
    rw [sessions] at slot ⊢
    obtain ⟨wasActive, ordered⟩ := order.owned s i slot
    refine ⟨(active i).trans wasActive, ?_⟩
    -- What was received stands in front, and the fresh frames come in at the end.
    refine ((flow i).append_left _).trans (List.Sublist.trans ?_ passed)
    rw [← List.append_assoc]
    exact ordered.append_right fresh
  distinct := by
    rw [sessions]
    exact order.distinct
  slots := by
    rw [sessions]
    exact order.slots
  taking := by
    rw [sessions]
    exact order.taking

/-- A step that moves no frame. -/
theorem InOrder.of_unmoved (order : InOrder sys) (sessions : next.sessions = sys.sessions)
    (ingest : next.bridge.ingest = sys.bridge.ingest) (sinks : next.bridge.sinks = sys.bridge.sinks)
    (publishing : next.publishing = sys.publishing)
    (pending : ∀ i, next.dispatcher.pending i = sys.dispatcher.pending i)
    (passed : sys.passed.Sublist next.passed) : InOrder next := by
  have underway (i : Fin cfg.nmeaSinksMax) : next.underway i = sys.underway i := by
    simp only [Pipeline.underway, Pipeline.ingested, Pipeline.rxPending, ingest, publishing,
      pending]
  refine order.of_flow [] sessions (fun i => by rw [sinks]) (by simpa using passed)
    (fun i => by simp [underway]) fun i => ?_
  rw [List.append_nil, underway, Pipeline.queued, sinks, Pipeline.queued]

theorem InOrder.rxLoopHead (order : InOrder sys) (step : sys.rxLoopHead = some next) :
    InOrder next := by
  obtain ⟨-, rfl⟩ := Pipeline.rxLoopHead_cases step
  exact order.of_unmoved rfl rfl rfl rfl (fun _ => rfl) (List.Sublist.refl _)

/-- Accepting a frame for publication leaves all queues as they are. -/
theorem acceptFrame_queues (bridge : NmeaBridge cfg) (data : Frame) :
    (acceptFrame bridge data).1.ingest = bridge.ingest ∧
      (acceptFrame bridge data).1.sinks = bridge.sinks ∧
      ∀ frame, (acceptFrame bridge data).2 = .ok frame → frame.data = data := by
  unfold acceptFrame
  split_ifs <;> simp

theorem InOrder.rxByte (order : InOrder sys) {ch : UInt8} (step : sys.rxByte ch = some next) :
    InOrder next := by
  obtain ⟨idle, rx, handed, received, -, rfl,
    ⟨-, rfl⟩ | ⟨frame, bridge, err, rfl, accepted, rfl⟩ |
      ⟨frame, bridge, published, rfl, accepted, rfl⟩⟩ := Pipeline.rxByte_cases step
  · exact order.of_unmoved rfl rfl rfl rfl (fun _ => rfl) (by simp [Pipeline.passed])
  · obtain ⟨sameIngest, sameSinks, -⟩ := acceptFrame_queues sys.bridge frame
    rw [accepted] at sameIngest sameSinks
    exact order.of_unmoved rfl sameIngest sameSinks rfl (fun _ => rfl) (by simp [Pipeline.passed])
  · -- The line passed the filter: it is the fresh frame, and waits for the queue.
    obtain ⟨sameIngest, sameSinks, sameData⟩ := acceptFrame_queues sys.bridge frame
    rw [accepted] at sameIngest sameSinks sameData
    dsimp only at sameIngest sameSinks
    have data := sameData published rfl
    refine order.of_flow [frame] rfl (fun i => by simp [sameSinks]) ?_ (fun i => ?_) fun i => ?_
    · simp [Pipeline.passed]
    · simp [Pipeline.underway, Pipeline.ingested, Pipeline.rxPending, sameIngest, idle, data]
    · simp [Pipeline.queued, Pipeline.underway, Pipeline.ingested, Pipeline.rxPending,
        sameIngest, sameSinks, idle, data]

theorem InOrder.rxPut (order : InOrder sys) (step : sys.rxPut = some next) : InOrder next := by
  obtain ⟨frame, phase, ingest, dropped, goesOn, publishing, result, rfl⟩ :=
    Pipeline.rxPut_cases step
  have moved := (putDropOldestStep_sublist sys.bridge.ingest frame
    sys.bridge.stats.ingestDroppedOldest phase).map (·.data)
  rw [result] at moved
  have shorter : (ingest.elements.map (·.data) ++
      ((goesOn.map fun phase => (frame, phase)).toList.map fun put => put.1.data)).Sublist
      (sys.ingested ++ sys.rxPending) := by
    cases goesOn <;> simpa [Pipeline.ingested, Pipeline.rxPending, publishing] using moved
  refine order.of_flow [] rfl (fun _ => rfl) (by simp [Pipeline.passed]) (fun i => ?_) fun i => ?_
  · rw [List.append_nil]
    exact shorter.append_left _
  · rw [List.append_nil]
    exact (shorter.append_left _).append_left _

end Reader

section Dispatcher

variable {sys next : Pipeline cfg}

theorem InOrder.dispatcherGet (order : InOrder sys) (step : sys.dispatcherGet = some next) :
    InOrder next := by
  obtain ⟨ingest, frame, waiting, got, rfl⟩ := Pipeline.dispatcherGet_cases step
  obtain ⟨sameIngest, oldest⟩ := Prod.mk.inj got
  obtain ⟨rest, elements⟩ := List.head?_eq_some_iff.mp oldest
  have left : ingest.elements = rest :=
    (congrArg BoundedFifo.elements sameIngest).symm.trans (congrArg List.tail elements)
  -- the frame leaves the ingest queue and becomes pending for every slot
  have moved : ∀ i, (DispatcherPhase.locking frame).pending i ++ ingest.elements.map (·.data) =
      sys.dispatcher.pending i ++ sys.ingested := by
    intro i
    simp [waiting, Pipeline.ingested, DispatcherPhase.pending, elements, left]
  refine order.of_flow [] rfl (fun _ => rfl) (by simp [Pipeline.passed]) (fun i => ?_)
    fun i => ?_
  · simp only [Pipeline.underway, List.append_nil, ← List.append_assoc]
    rw [← moved i]
    rfl
  · simp only [Pipeline.underway, Pipeline.queued, List.append_nil]
    rw [← List.append_assoc (sys.dispatcher.pending i), ← moved i, List.append_assoc]
    rfl

theorem InOrder.dispatcherLock (order : InOrder sys) (step : sys.dispatcherLock = some next) :
    InOrder next := by
  obtain ⟨frame, locking, rfl⟩ := Pipeline.dispatcherLock_cases step
  exact order.of_unmoved rfl rfl rfl rfl (fun i => by simp [DispatcherPhase.pending, locking])
    (List.Sublist.refl _)

/-- At slot `i` the pending frame moves into the queue, if anything, and the loop stays
or goes on to the next slot. -/
theorem scanSlot_shape (sys : Pipeline cfg) (frame : NmeaFrame cfg) (i : Fin cfg.nmeaSinksMax)
    (any : Bool) (phase : PutPhase) (before : UInt32) :
    ∃ slot stats slotNext any' phase' before',
      sys.scanSlot frame i any phase before =
        { sys with
          bridge := { sys.bridge.setSink i slot with stats }
          dispatcher := .scanning frame slotNext any' phase' before' } ∧
      slot.active = (sys.bridge.sinks i).active ∧
      (slotNext = i.val ∨ slotNext = i.val + 1) ∧
      (slot.msgq.elements.map (·.data) ++
        if slotNext = i.val then [frame.data] else []).Sublist (sys.queued i ++ [frame.data]) := by
  have moved := (putDropOldestStep_sublist (sys.bridge.sinks i).msgq frame
    (sys.bridge.sinks i).stats.droppedOldest phase).map (·.data)
  rcases result : putDropOldestStep (sys.bridge.sinks i).msgq frame
    (sys.bridge.sinks i).stats.droppedOldest phase with ⟨msgq, dropped, goesOn⟩
  rw [result] at moved
  cases goesOn with
  | some phase' =>
    simp only [Pipeline.scanSlot, result]
    refine ⟨_, sys.bridge.stats, _, _, _, _, rfl, rfl, Or.inl rfl, ?_⟩
    simpa [Pipeline.queued] using moved
  | none =>
    simp only [Pipeline.scanSlot, result]
    refine ⟨_, _, _, _, _, _, rfl, rfl, Or.inr rfl, ?_⟩
    simpa [Pipeline.queued] using moved

theorem InOrder.scanSlot (order : InOrder sys) {frame : NmeaFrame cfg} {i : Fin cfg.nmeaSinksMax}
    (pending : ∀ j, sys.dispatcher.pending j = if i.val ≤ j.val then [frame.data] else [])
    (any : Bool) (phase : PutPhase) (before : UInt32) :
    InOrder (sys.scanSlot frame i any phase before) := by
  obtain ⟨slot, stats, slotNext, any', phase', before', shape, active, stays, moved⟩ :=
    scanSlot_shape sys frame i any phase before
  rw [shape]
  have pendingNext (j : Fin cfg.nmeaSinksMax) :
      (DispatcherPhase.scanning frame slotNext any' phase' before').pending j =
        if slotNext ≤ j.val then [frame.data] else [] := rfl
  -- Only at slot `i` can the frame stop being pending.
  have elsewhere {j : Fin cfg.nmeaSinksMax} (other : j ≠ i) : slotNext ≤ j.val ↔ i.val ≤ j.val := by
    have apart : j.val ≠ i.val := fun same => other (Fin.ext same)
    omega
  have here : slotNext ≤ i.val ↔ slotNext = i.val := by omega
  refine order.of_flow [] rfl (fun j => ?_) (by simp [Pipeline.passed]) (fun j => ?_) fun j => ?_
  · by_cases other : j = i
    · subst other
      simpa using active
    · simp [Function.update_of_ne other]
  · simp only [Pipeline.underway, List.append_nil, pendingNext, pending]
    refine List.Sublist.append_right ?_ _
    by_cases other : j = i
    · subst other
      rw [if_pos le_rfl]
      split_ifs <;> simp
    · simp only [elsewhere other]
      exact List.Sublist.refl _
  · simp only [Pipeline.underway, List.append_nil, pendingNext, pending]
    rw [← List.append_assoc, ← List.append_assoc (sys.queued j)]
    refine List.Sublist.append_right ?_ _
    by_cases other : j = i
    · subst other
      simpa [Pipeline.queued, here] using moved
    · simp only [elsewhere other, Pipeline.queued, sinks_setSink, Function.update_of_ne other]
      exact List.Sublist.refl _

theorem InOrder.dispatcherScan (order : InOrder sys) (step : sys.dispatcherScan = some next) :
    InOrder next := by
  obtain ⟨frame, slot, any, phase, before, scanning, worked⟩ := Pipeline.dispatcherScan_cases step
  have pending (j : Fin cfg.nmeaSinksMax) :
      sys.dispatcher.pending j = if slot ≤ j.val then [frame.data] else [] := by
    rw [scanning]
    rfl
  rcases worked with ⟨inside, -, -, rfl⟩ | ⟨inside, -, rfl⟩ | ⟨through, _, -, rfl⟩
  · -- an inactive slot is passed over: its frame is gone
    have fewer (j : Fin cfg.nmeaSinksMax) :
        ((DispatcherPhase.scanning frame (slot + 1) any .put 0).pending j).Sublist
          (sys.dispatcher.pending j) := by
      rw [pending]
      simp only [DispatcherPhase.pending]
      split_ifs <;> first | omega | simp
    refine order.of_flow [] rfl (fun _ => rfl) (by simp [Pipeline.passed]) (fun j => ?_)
      fun j => ?_
    · rw [List.append_nil]
      exact (fewer j).append_right _
    · rw [List.append_nil]
      exact ((fewer j).append_right _).append_left _
  · exact order.scanSlot pending any phase before
  · -- behind the last slot no frame is pending anywhere
    refine order.of_unmoved rfl rfl rfl rfl (fun j => ?_) (List.Sublist.refl _)
    have beyond : ¬ slot ≤ j.val := by omega
    rw [pending, if_neg beyond]
    rfl

end Dispatcher

section Sessions

variable {sys next : Pipeline cfg} {s : ℕ}

/-- A session step that touches no queue and at most lets go of its handle. -/
theorem InOrder.setSession (order : InOrder sys) {session : Session cfg}
    (received : session.received = (sys.sessions s).received)
    (sinkId : session.sinkId = (sys.sessions s).sinkId ∨ session.sinkId = -1)
    (taking : ∀ i, session.phase = .taking i → session.sinkId = i.val) :
    InOrder (sys.setSession s session) := by
  have sameReceived (t : ℕ) : (Function.update sys.sessions s session t).received =
      (sys.sessions t).received := by
    by_cases here : t = s
    · subst here
      simpa using received
    · rw [Function.update_of_ne here]
  have sameSinkId (t : ℕ) : (Function.update sys.sessions s session t).sinkId =
      (sys.sessions t).sinkId ∨ (Function.update sys.sessions s session t).sinkId = -1 := by
    by_cases here : t = s
    · subst here
      simpa using sinkId
    · rw [Function.update_of_ne here]
      exact Or.inl rfl
  -- Nobody has come into a slot by this step.
  have owner {t : ℕ} {i : Fin cfg.nmeaSinksMax}
      (owns : (Function.update sys.sessions s session t).sinkId = i.val) :
      (sys.sessions t).sinkId = i.val := by
    rcases sameSinkId t with same | gone
    · exact same.symm.trans owns
    · omega
  refine ⟨order.underway, fun t => ?_, fun t i owns => ?_, fun t t' i owns owns' => ?_,
    fun t => ?_, fun t i phase => ?_⟩
  · simp only [Pipeline.setSession, sameReceived]
    exact order.received t
  · simp only [Pipeline.setSession, sameReceived]
    exact order.owned t i (owner owns)
  · exact order.distinct t t' i (owner owns) (owner owns')
  · rcases sameSinkId t with same | gone
    · simpa only [Pipeline.setSession, same] using order.slots t
    · exact Or.inl gone
  · by_cases here : t = s
    · subst here
      simp only [Pipeline.setSession, Function.update_self] at phase ⊢
      exact taking i phase
    · simp only [Pipeline.setSession, Function.update_of_ne here] at phase ⊢
      exact order.taking t i phase

/-- A session step on a slot nobody else owns. Afterwards the session has let go of
the slot, or owns it with frames still in order. -/
theorem InOrder.setSinkSession (order : InOrder sys) {i : Fin cfg.nmeaSinksMax}
    {slot : SinkSlot cfg} {session : Session cfg}
    (alone : ∀ t, t ≠ s → (sys.sessions t).sinkId ≠ i.val)
    (received : session.received.Sublist sys.passed)
    (owns : session.sinkId = -1 ∨ session.sinkId = i.val ∧ slot.active = true ∧
      (session.received ++ (slot.msgq.elements.map (·.data) ++ sys.underway i)).Sublist sys.passed)
    (taking : ∀ j, session.phase = .taking j → session.sinkId = j.val) :
    InOrder ({ sys with bridge := sys.bridge.setSink i slot }.setSession s session) := by
  -- Afterwards the session owns this slot, or none.
  have onlyHere {j : Fin cfg.nmeaSinksMax} (slot : session.sinkId = j.val) : j = i := by
    rcases owns with gone | ⟨here, -, -⟩
    · omega
    · exact Fin.ext (by omega)
  refine ⟨order.underway, fun t => ?_, fun t j owner => ?_, fun t t' j owner owner' => ?_,
    fun t => ?_, fun t j phase => ?_⟩
  · by_cases here : t = s
    · subst here
      simp only [Pipeline.setSession, Function.update_self]
      exact received
    · simp only [Pipeline.setSession, Function.update_of_ne here]
      exact order.received t
  · by_cases here : t = s
    · subst here
      simp only [Pipeline.setSession, Function.update_self] at owner ⊢
      obtain rfl := onlyHere owner
      rcases owns with gone | ⟨-, active, ordered⟩
      · omega
      · simp only [Pipeline.queued, sinks_setSink, Function.update_self]
        exact ⟨active, ordered⟩
    · simp only [Pipeline.setSession, Function.update_of_ne here] at owner ⊢
      -- Another session's slot is another one, whose queue is untouched.
      have other : j ≠ i := fun same => alone t here (same ▸ owner)
      simp only [Pipeline.queued, sinks_setSink, Function.update_of_ne other]
      exact order.owned t j owner
  · by_cases here : t = s
    · by_cases here' : t' = s
      · rw [here, here']
      · subst here
        simp only [Pipeline.setSession, Function.update_self, Function.update_of_ne here']
          at owner owner'
        exact absurd (onlyHere owner ▸ owner') (alone t' here')
    · by_cases here' : t' = s
      · subst here'
        simp only [Pipeline.setSession, Function.update_self, Function.update_of_ne here]
          at owner owner'
        exact absurd (onlyHere owner' ▸ owner) (alone t here)
      · simp only [Pipeline.setSession, Function.update_of_ne here, Function.update_of_ne here']
          at owner owner'
        exact order.distinct t t' j owner owner'
  · by_cases here : t = s
    · subst here
      simp only [Pipeline.setSession, Function.update_self]
      rcases owns with gone | ⟨owner, -, -⟩
      · exact Or.inl gone
      · exact Or.inr ⟨i, owner⟩
    · simpa only [Pipeline.setSession, Function.update_of_ne here] using order.slots t
  · by_cases here : t = s
    · subst here
      simp only [Pipeline.setSession, Function.update_self] at phase ⊢
      exact taking j phase
    · simp only [Pipeline.setSession, Function.update_of_ne here] at phase ⊢
      exact order.taking t j phase

theorem InOrder.sessionOpen (order : InOrder sys) (bytes : SessionBytes (sys.sessions s))
    (step : sys.sessionOpen s = some next) : InOrder next := by
  obtain ⟨idle, -, ⟨i, inactive, rfl⟩ | ⟨-, rfl⟩⟩ := Pipeline.sessionOpen_cases step
  · -- A fresh session has received nothing, so any queue continues it.
    have nothing : (sys.sessions s).received = [] := by
      have := bytes
      simp only [SessionBytes, idle] at this
      exact this.1
    refine order.setSinkSession (fun t _ owner => ?_) (by simp [nothing])
      (Or.inr ⟨rfl, rfl, ?_⟩) (by simp)
    · rw [(order.owned t i owner).1] at inactive
      exact Bool.noConfusion inactive
    · simpa [nothing, SinkSlot.opened] using order.underway i
  · exact order.setSession rfl (Or.inr rfl) (by simp)

theorem InOrder.sessionGet (order : InOrder sys) (step : sys.sessionGet s = some next) :
    InOrder next := by
  obtain ⟨i, bridge, frame, taking, got, rfl⟩ := Pipeline.sessionGet_cases step
  have owner := order.taking s i taking
  obtain ⟨active, ordered⟩ := order.owned s i owner
  cases elements : (sys.bridge.sinks i).msgq.elements with
  | nil =>
    obtain ⟨rfl, rfl⟩ := Prod.mk.inj ((getFromSink_empty _ elements).symm.trans got)
    exact order.setSession rfl (Or.inl rfl) (by simp [Session.took])
  | cons oldest rest =>
    obtain ⟨rfl, rfl⟩ := Prod.mk.inj ((getFromSink_frame _ elements).symm.trans got)
    -- The oldest frame moves from the front of the queue to what was received.
    have moved : ((sys.sessions s).received ++ [oldest.data] ++
        (rest.map (·.data) ++ sys.underway i)).Sublist sys.passed := by
      simpa [Pipeline.queued, elements] using ordered
    refine order.setSinkSession (fun t other owner' => other (order.distinct t s i owner' owner))
      ?_ (Or.inr ⟨owner, active, ?_⟩) ?_
    · exact (List.sublist_append_left _ _).trans moved
    · simpa [Session.took, elements] using moved
    · intro j phase
      simp only [Session.took, sendAll] at phase
      split_ifs at phase

theorem InOrder.sessionClose (order : InOrder sys) (step : sys.sessionClose s = some next) :
    InOrder next := by
  obtain ⟨result, bridge, sinkId, -, -, closed, rfl⟩ := Pipeline.sessionClose_cases step
  rcases order.slots s with unopened | ⟨i, owner⟩
  · rw [unopened, nmeaBridgeSinkClose_unopened] at closed
    obtain ⟨rfl, rfl⟩ := Prod.mk.inj closed
    exact order.setSession rfl (Or.inr rfl) (by simp)
  · rw [owner, nmeaBridgeSinkClose_slot] at closed
    obtain ⟨rfl, rfl⟩ := Prod.mk.inj closed
    exact order.setSinkSession
      (fun t other owner' => other (order.distinct t s i owner' owner))
      (order.received s) (Or.inl rfl) (by simp)

end Sessions

end EspNmeaBridge
