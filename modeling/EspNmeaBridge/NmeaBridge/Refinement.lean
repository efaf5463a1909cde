/-
# Every sink is a private queue

Seen from one `nmea_bridge_sink_open`, the bridge is a drop-oldest queue of its own:
it is fed the frames dispatched since and hands them out to the handle's takes.
Here all opens of a run are such queues side by side. Each observes the events of
the bridge on its own and knows nothing of slots, locks or other sinks; the bridge
simulates all of them at once.

A handle that is opened again without being closed loses its slot for good: the
slot stays registered and keeps dropping frames nobody takes.
-/

import EspNmeaBridge.Lib.Machine
import EspNmeaBridge.NmeaBridge

namespace EspNmeaBridge

open Machine

variable {cfg : Kconfig}

/-! ## The abstract sinks -/

/-- One successful open: who holds it, whether it is still registered, and its queue. -/
structure OpenSink (cfg : Kconfig) where
  slot : Fin cfg.nmeaSinksMax
  handle : Option ℕ
  isOpen : Bool
  fifo : DropOldest (NmeaFrame cfg) cfg.sinkQueueDepth

namespace OpenSink

/-- A sink as the open leaves it. -/
def opened (handle : ℕ) (slot : Fin cfg.nmeaSinksMax) : OpenSink cfg where
  slot := slot
  handle := some handle
  isOpen := true
  fifo := .empty

/-- What one event of the bridge means to this sink alone. -/
def observe (sink : OpenSink cfg) : BridgeEvent cfg → OpenSink cfg
  | .published _ | .dispatched none => sink
  | .dispatched (some frame) =>
    if sink.isOpen then { sink with fifo := sink.fifo.offer frame } else sink
  | .opened handle _ => if sink.handle = some handle then { sink with handle := none } else sink
  | .closed handle =>
    if sink.handle = some handle then { sink with handle := none, isOpen := false } else sink
  | .took handle _ =>
    if sink.handle = some handle then { sink with fifo := sink.fifo.take.1 } else sink

@[simp] theorem slot_observe (sink : OpenSink cfg) (event : BridgeEvent cfg) :
    (sink.observe event).slot = sink.slot := by
  unfold observe
  split <;> (try split_ifs) <;> rfl

/-- Only a close unregisters a sink. -/
theorem isOpen_observe (sink : OpenSink cfg) {event : BridgeEvent cfg}
    (notClosed : ∀ handle, event ≠ .closed handle) :
    (sink.observe event).isOpen = sink.isOpen := by
  unfold observe
  split
  · rfl
  · rfl
  · split_ifs <;> rfl
  · split_ifs <;> rfl
  · exact absurd rfl (notClosed _)
  · split_ifs <;> rfl

/-- The events after which nobody has the handle any more, but for the sink just opened. -/
def Releases (handle : ℕ) (event : BridgeEvent cfg) : Prop :=
  event = .closed handle ∨ ∃ slot, event = .opened handle slot

/-- Other handles are held as before. -/
theorem handle_observe_iff (sink : OpenSink cfg) {event : BridgeEvent cfg} {handle : ℕ}
    (releases : Releases handle event) (other : ℕ) :
    (sink.observe event).handle = some other ↔ other ≠ handle ∧ sink.handle = some other := by
  obtain rfl | ⟨slot, rfl⟩ := releases <;>
  · simp only [observe]
    split_ifs with holds
    · simp [holds, eq_comm]
    · simp only [ne_eq, iff_and_self]
      rintro holds' rfl
      exact holds holds'

/-- A sink keeps its queue when its handle is gone. -/
theorem fifo_observe (sink : OpenSink cfg) {event : BridgeEvent cfg} {handle : ℕ}
    (releases : Releases handle event) : (sink.observe event).fifo = sink.fifo := by
  obtain rfl | ⟨slot, rfl⟩ := releases <;>
  · simp only [observe]
    split_ifs <;> rfl

/-- Dispatches and takes give no handle away. -/
theorem handle_observe (sink : OpenSink cfg) {event : BridgeEvent cfg}
    (keeps : ∀ handle, ¬ Releases handle event) : (sink.observe event).handle = sink.handle := by
  unfold observe
  split
  · rfl
  · rfl
  · split_ifs <;> rfl
  · exact absurd (.inr ⟨_, rfl⟩) (keeps _)
  · exact absurd (.inl rfl) (keeps _)
  · split_ifs <;> rfl

end OpenSink

/-- All opens of a run observe an event; a successful open joins them. -/
def observeEvent (opens : List (OpenSink cfg)) (event : BridgeEvent cfg) : List (OpenSink cfg) :=
  opens.map (·.observe event) ++
    match event with
    | .opened handle (some slot) => [.opened handle slot]
    | _ => []

/-- Every open of a run with its private queue, in the order of the opens. -/
def openSinks (events : List (BridgeEvent cfg)) : List (OpenSink cfg) :=
  events.foldl observeEvent []

/-- The slots of the registered sinks. -/
def liveSlots (opens : List (OpenSink cfg)) : List (Fin cfg.nmeaSinksMax) :=
  (opens.filter (·.isOpen)).map (·.slot)

/-- How many frames all opens together have dropped. -/
def totalDropped (opens : List (OpenSink cfg)) : ℕ := (opens.map (·.fifo.dropped)).sum

/-- Sinks that drop nothing now have dropped together what they had before. -/
theorem totalDropped_map (opens : List (OpenSink cfg)) (update : OpenSink cfg → OpenSink cfg)
    (same : ∀ sink, (update sink).fifo.dropped = sink.fifo.dropped) :
    totalDropped (opens.map update) = totalDropped opens := by
  simp only [totalDropped, List.map_map, Function.comp_def, same]

/-! ## The simulation relation -/

/-- The slot holds the queue and its accounts modulo 2^32. -/
structure SlotMatches (slot : SinkSlot cfg)
    (fifo : DropOldest (NmeaFrame cfg) cfg.sinkQueueDepth) : Prop where
  active : slot.active = true
  waiting : slot.msgq.elements = fifo.waiting
  stats : slot.stats =
    ⟨UInt32.ofNat fifo.queued, UInt32.ofNat fifo.dropped, UInt32.ofNat fifo.consumed⟩

/-- The registered sinks sit in the active slots, one each, and the handles point
to the sinks they hold. -/
structure Simulates (bridge : NmeaBridge cfg) (handles : ℕ → ℤ) (opens : List (OpenSink cfg)) :
    Prop where
  distinct : (liveSlots opens).Nodup
  active : ∀ i, (bridge.sinks i).active = true → i ∈ liveSlots opens
  slots : ∀ sink ∈ opens, sink.isOpen = true → SlotMatches (bridge.sinks sink.slot) sink.fifo
  held : ∀ sink ∈ opens, ∀ handle, sink.handle = some handle →
    sink.isOpen = true ∧ handles handle = sink.slot.val
  unheld : ∀ handle, (∀ sink ∈ opens, sink.handle ≠ some handle) → handles handle = -1
  dropped : bridge.stats.sinkDroppedOldest = UInt32.ofNat (totalDropped opens)

section LiveSlots

variable {opens : List (OpenSink cfg)}

theorem mem_liveSlots {i : Fin cfg.nmeaSinksMax} :
    i ∈ liveSlots opens ↔ ∃ sink ∈ opens, sink.isOpen = true ∧ sink.slot = i := by
  simp [liveSlots, and_assoc]

/-- Two registered sinks in one slot are the same. -/
theorem eq_of_slot_eq (distinct : (liveSlots opens).Nodup) {sink other : OpenSink cfg}
    (member : sink ∈ opens) (isOpen : sink.isOpen = true) (member' : other ∈ opens)
    (isOpen' : other.isOpen = true) (same : sink.slot = other.slot) : sink = other :=
  List.inj_on_of_nodup_map distinct (List.mem_filter.mpr ⟨member, isOpen⟩)
    (List.mem_filter.mpr ⟨member', isOpen'⟩) same

/-- An update that closes no sink keeps the live slots. -/
theorem liveSlots_map (update : OpenSink cfg → OpenSink cfg)
    (sameSlot : ∀ sink, (update sink).slot = sink.slot)
    (sameOpen : ∀ sink, (update sink).isOpen = sink.isOpen) :
    liveSlots (opens.map update) = liveSlots opens := by
  induction opens with
  | nil => rfl
  | cons sink opens ih =>
    simp only [liveSlots, List.map_cons, List.filter_cons, sameOpen] at ih ⊢
    split_ifs <;> simp [ih, sameSlot]

/-- An update that opens no sink leaves at most the live slots. -/
theorem liveSlots_map_sublist (update : OpenSink cfg → OpenSink cfg)
    (sameSlot : ∀ sink, (update sink).slot = sink.slot)
    (wasOpen : ∀ sink, (update sink).isOpen = true → sink.isOpen = true) :
    (liveSlots (opens.map update)).Sublist (liveSlots opens) := by
  induction opens with
  | nil => exact List.Sublist.refl _
  | cons sink opens ih =>
    simp only [liveSlots, List.map_cons, List.filter_cons] at ih ⊢
    split_ifs with after before before
    · simpa [sameSlot] using ih
    · exact absurd (wasOpen sink after) before
    · exact ih.trans (List.sublist_cons_self _ _)
    · exact ih

end LiveSlots

/-! ## Every step keeps the relation -/

section Steps

variable {bridge : NmeaBridge cfg} {handles : ℕ → ℤ} {opens : List (OpenSink cfg)}

@[simp] theorem observeEvent_published (ret : Except Errno Unit) :
    observeEvent opens (.published ret) = opens := by
  simp [observeEvent, OpenSink.observe]

@[simp] theorem observeEvent_dispatched_none :
    observeEvent opens (.dispatched none) = opens := by
  simp [observeEvent, OpenSink.observe]

/-- A change of the bridge that no sink can see. -/
theorem Simulates.of_sinks (simulates : Simulates bridge handles opens) {after : NmeaBridge cfg}
    (sinks : after.sinks = bridge.sinks)
    (dropped : after.stats.sinkDroppedOldest = bridge.stats.sinkDroppedOldest) :
    Simulates after handles opens where
  distinct := simulates.distinct
  active := by simpa [sinks] using simulates.active
  slots := by simpa [sinks] using simulates.slots
  held := simulates.held
  unheld := simulates.unheld
  dropped := dropped.trans simulates.dropped

theorem Simulates.publish (simulates : Simulates bridge handles opens) (data : Frame) :
    Simulates (nmeaBridgePublishFrame bridge data).1 handles opens := by
  apply simulates.of_sinks
  · unfold nmeaBridgePublishFrame acceptFrame
    split_ifs <;> rfl
  · unfold nmeaBridgePublishFrame acceptFrame
    split_ifs <;> rfl

/-- The private queue takes a dispatched frame exactly as its slot does. -/
theorem SlotMatches.dispatched {slot : SinkSlot cfg}
    {fifo : DropOldest (NmeaFrame cfg) cfg.sinkQueueDepth} (same : SlotMatches slot fifo)
    (frame : NmeaFrame cfg) : SlotMatches (slot.dispatched frame) (fifo.offer frame) where
  active := same.active
  waiting := by
    rw [elements_dispatched, SinkSlot.overflow, same.waiting]
    rfl
  stats := by
    rw [stats_dispatched, SinkSlot.overflow, same.waiting, same.stats]
    simp [DropOldest.offer, UInt32.ofNat_add]

/-- All opens together drop what the registered queues overflow by. -/
theorem totalDropped_dispatched (frame : NmeaFrame cfg) :
    totalDropped (opens.map (·.observe (.dispatched (some frame)))) = totalDropped opens +
      ((opens.filter (·.isOpen)).map
        fun sink => sink.fifo.waiting.length + 1 - cfg.sinkQueueDepth).sum := by
  induction opens with
  | nil => rfl
  | cons sink opens ih =>
    simp only [totalDropped, List.map_cons, List.sum_cons, List.filter_cons] at ih ⊢
    rw [ih]
    cases isOpen : sink.isOpen <;> simp [OpenSink.observe, isOpen, DropOldest.offer] <;> omega

/-- The slots that overflow are those of the registered sinks. -/
theorem Simulates.overflow_sum (simulates : Simulates bridge handles opens) :
    (((List.finRange cfg.nmeaSinksMax).filter fun i => (bridge.sinks i).active).map
        fun i => (bridge.sinks i).overflow).sum =
      ((opens.filter (·.isOpen)).map
        fun sink => sink.fifo.waiting.length + 1 - cfg.sinkQueueDepth).sum := by
  -- The loop goes by slots, the opens by time; the registered ones are the same.
  have sameSlots : ((List.finRange cfg.nmeaSinksMax).filter fun i =>
      (bridge.sinks i).active).Perm (liveSlots opens) := by
    rw [List.perm_ext_iff_of_nodup ((List.nodup_finRange _).filter _) simulates.distinct]
    intro i
    simp only [List.mem_filter, List.mem_finRange, true_and]
    refine ⟨simulates.active i, fun live => ?_⟩
    obtain ⟨sink, member, isOpen, rfl⟩ := mem_liveSlots.mp live
    exact (simulates.slots sink member isOpen).active
  rw [(sameSlots.map _).sum_nat, liveSlots, List.map_map]
  congr 1
  refine List.map_congr_left fun sink member => ?_
  obtain ⟨member, isOpen⟩ := List.mem_filter.mp member
  simp only [Function.comp_apply, SinkSlot.overflow, (simulates.slots sink member isOpen).waiting]

theorem Simulates.dispatchFrame (simulates : Simulates bridge handles opens)
    (frame : NmeaFrame cfg) :
    Simulates (dispatchFrame bridge frame) handles
      (observeEvent opens (.dispatched (some frame))) := by
  obtain ⟨-, sinks, counted⟩ := dispatchFrame_spec frame bridge
  have sameOpen (sink : OpenSink cfg) :
      (sink.observe (.dispatched (some frame))).isOpen = sink.isOpen :=
    sink.isOpen_observe (by simp)
  have sameHandle (sink : OpenSink cfg) :
      (sink.observe (.dispatched (some frame))).handle = sink.handle :=
    sink.handle_observe (by simp [OpenSink.Releases])
  have sameLive : liveSlots (opens.map (·.observe (.dispatched (some frame)))) =
      liveSlots opens := liveSlots_map _ (fun _ => by simp) sameOpen
  simp only [observeEvent, List.append_nil]
  refine ⟨?_, fun i active => ?_, ?_, ?_, ?_, ?_⟩
  · rw [sameLive]
    exact simulates.distinct
  · rw [sameLive]
    refine simulates.active i ?_
    rw [sinks i] at active
    split_ifs at active with wasActive
    · exact wasActive
    · exact absurd active wasActive
  · intro sink member isOpen
    obtain ⟨before, present, rfl⟩ := List.mem_map.mp member
    rw [sameOpen] at isOpen
    have same := simulates.slots before present isOpen
    -- A registered sink's slot is active, so both queues take the frame.
    rw [OpenSink.slot_observe, sinks, if_pos same.active, OpenSink.observe, if_pos isOpen]
    exact same.dispatched frame
  · intro sink member handle holds
    obtain ⟨before, present, rfl⟩ := List.mem_map.mp member
    rw [sameHandle] at holds
    rw [sameOpen, OpenSink.slot_observe]
    exact simulates.held before present handle holds
  · intro handle nobody
    refine simulates.unheld handle fun sink member holds => ?_
    exact nobody _ (List.mem_map_of_mem member) ((sameHandle sink).trans holds)
  · rw [totalDropped_dispatched, counted, simulates.dropped, simulates.overflow_sum,
      UInt32.ofNat_add]

/-- A handle that is about to be opened lets go of what it held. -/
theorem Simulates.letGo (simulates : Simulates bridge handles opens) (handle : ℕ)
    (slot : Option (Fin cfg.nmeaSinksMax)) :
    Simulates bridge (Function.update handles handle (-1))
      (opens.map (·.observe (.opened handle slot))) := by
  have sameOpen (sink : OpenSink cfg) :
      (sink.observe (.opened handle slot)).isOpen = sink.isOpen :=
    sink.isOpen_observe (by simp)
  have releases : OpenSink.Releases handle (.opened handle slot) := .inr ⟨slot, rfl⟩
  have sameFifo (sink : OpenSink cfg) := sink.fifo_observe releases
  have holds_iff (sink : OpenSink cfg) := sink.handle_observe_iff releases
  have sameLive : liveSlots (opens.map (·.observe (.opened handle slot))) = liveSlots opens :=
    liveSlots_map _ (fun _ => OpenSink.slot_observe _ _) sameOpen
  refine ⟨?_, ?_, ?_, ?_, ?_, ?_⟩
  · rw [sameLive]
    exact simulates.distinct
  · rw [sameLive]
    exact simulates.active
  · intro sink member isOpen
    obtain ⟨before, present, rfl⟩ := List.mem_map.mp member
    rw [sameOpen] at isOpen
    rw [OpenSink.slot_observe, sameFifo]
    exact simulates.slots before present isOpen
  · intro sink member other holds
    obtain ⟨before, present, rfl⟩ := List.mem_map.mp member
    obtain ⟨apart, holds⟩ := (holds_iff before other).mp holds
    rw [sameOpen, OpenSink.slot_observe, Function.update_of_ne apart]
    exact simulates.held before present other holds
  · intro other nobody
    by_cases apart : other = handle
    · rw [apart, Function.update_self]
    · rw [Function.update_of_ne apart]
      refine simulates.unheld other fun sink member holds => ?_
      exact nobody _ (List.mem_map_of_mem member) ((holds_iff sink other).mpr ⟨apart, holds⟩)
  · rw [totalDropped_map _ _ fun sink => by rw [sameFifo]]
    exact simulates.dropped

/-- A free handle takes over an inactive slot. -/
theorem Simulates.join (simulates : Simulates bridge handles opens) {i : Fin cfg.nmeaSinksMax}
    (inactive : (bridge.sinks i).active = false) {handle : ℕ}
    (free : handles handle = -1) :
    Simulates (bridge.setSink i .opened) (Function.update handles handle i.val)
      (opens ++ [.opened handle i]) := by
  -- The slot is inactive, so no registered sink sits in it.
  have apart {sink : OpenSink cfg} (member : sink ∈ opens) (isOpen : sink.isOpen = true) :
      sink.slot ≠ i := by
    rintro rfl
    rw [(simulates.slots sink member isOpen).active] at inactive
    exact Bool.noConfusion inactive
  have live : liveSlots (opens ++ [OpenSink.opened handle i]) = liveSlots opens ++ [i] := by
    simp [liveSlots, OpenSink.opened]
  refine ⟨?_, ?_, ?_, ?_, ?_, ?_⟩
  · rw [live, List.nodup_append]
    refine ⟨simulates.distinct, List.nodup_singleton i, ?_⟩
    rintro slot liveSlot _ newest rfl
    obtain ⟨sink, member, isOpen, rfl⟩ := mem_liveSlots.mp liveSlot
    exact apart member isOpen (List.mem_singleton.mp newest)
  · intro j active
    rw [live, List.mem_append, List.mem_singleton]
    by_cases here : j = i
    · exact Or.inr here
    · refine Or.inl (simulates.active j ?_)
      simpa [Function.update_of_ne here] using active
  · intro sink member isOpen
    rcases List.mem_append.mp member with earlier | newest
    · have same := simulates.slots sink earlier isOpen
      simpa [Function.update_of_ne (apart earlier isOpen)] using same
    · obtain rfl := List.mem_singleton.mp newest
      refine ⟨?_, ?_, ?_⟩ <;>
        simp [OpenSink.opened, SinkSlot.opened, DropOldest.empty]
  · intro sink member other holds
    rcases List.mem_append.mp member with earlier | newest
    · obtain ⟨isOpen, points⟩ := simulates.held sink earlier other holds
      -- A handle in use is the number of a slot, not -1.
      have notFree : other ≠ handle := by
        rintro rfl
        omega
      exact ⟨isOpen, by rw [Function.update_of_ne notFree, points]⟩
    · obtain rfl := List.mem_singleton.mp newest
      obtain rfl := Option.some.inj holds
      exact ⟨rfl, Function.update_self _ _ _⟩
  · intro other nobody
    have notNew : other ≠ handle := by
      rintro rfl
      exact nobody (.opened other i) (by simp) rfl
    rw [Function.update_of_ne notNew]
    exact simulates.unheld other fun sink member =>
      nobody sink (List.mem_append_left _ member)
  · have sameDropped : totalDropped (opens ++ [OpenSink.opened handle i]) =
        totalDropped opens := by
      simp [totalDropped, OpenSink.opened, DropOldest.empty]
    rw [sameDropped]
    exact simulates.dropped

/-- An event concerns a handle only through the sink that holds it. -/
theorem Simulates.eq_of_holds (simulates : Simulates bridge handles opens)
    {sink other : OpenSink cfg} {handle : ℕ} (member : sink ∈ opens)
    (holds : sink.handle = some handle) (member' : other ∈ opens)
    (isOpen : other.isOpen = true) (same : sink.slot = other.slot) : sink = other :=
  eq_of_slot_eq simulates.distinct member (simulates.held sink member handle holds).1 member'
    isOpen same

/-- Two holders of a handle would sit in one slot. -/
theorem Simulates.slot_eq_of_holds (simulates : Simulates bridge handles opens)
    {sink other : OpenSink cfg} {handle : ℕ} (member : sink ∈ opens)
    (holds : sink.handle = some handle) (member' : other ∈ opens)
    (holds' : other.handle = some handle) : sink.slot = other.slot := by
  have place := (simulates.held sink member handle holds).2
  have place' := (simulates.held other member' handle holds').2
  exact Fin.ext (by exact_mod_cast place.symm.trans place')

/-- The holder of a handle leaves its slot. -/
theorem Simulates.leave (simulates : Simulates bridge handles opens) {handle : ℕ}
    {holder : OpenSink cfg} (member : holder ∈ opens) (holds : holder.handle = some handle) :
    Simulates
      (bridge.setSink holder.slot
        { bridge.sinks holder.slot with active := false, msgq := .empty })
      (Function.update handles handle (-1)) (opens.map (·.observe (.closed handle))) := by
  have open_iff (sink : OpenSink cfg) :
      (sink.observe (.closed handle)).isOpen = true ↔
        sink.handle ≠ some handle ∧ sink.isOpen = true := by
    simp only [OpenSink.observe]
    split_ifs with holds' <;> simp [holds']
  have releases : OpenSink.Releases handle (.closed handle : BridgeEvent cfg) := .inl rfl
  have sameFifo (sink : OpenSink cfg) := sink.fifo_observe releases
  have holds_iff (sink : OpenSink cfg) := sink.handle_observe_iff releases
  -- Only the holder sits in the slot it leaves.
  have elsewhere {sink : OpenSink cfg} (present : sink ∈ opens) (isOpen : sink.isOpen = true)
      (other : sink.handle ≠ some handle) : sink.slot ≠ holder.slot := by
    intro same
    exact other (simulates.eq_of_holds member holds present isOpen same.symm ▸ holds)
  refine ⟨?_, ?_, ?_, ?_, ?_, ?_⟩
  · exact simulates.distinct.sublist (liveSlots_map_sublist _ (fun _ => OpenSink.slot_observe _ _)
      fun sink isOpen => ((open_iff sink).mp isOpen).2)
  · intro i active
    have here : i ≠ holder.slot := by
      rintro rfl
      simp at active
    rw [sinks_setSink, Function.update_of_ne here] at active
    obtain ⟨sink, present, isOpen, rfl⟩ := mem_liveSlots.mp (simulates.active i active)
    have other : sink.handle ≠ some handle := by
      intro holds'
      exact here (simulates.slot_eq_of_holds present holds' member holds)
    refine mem_liveSlots.mpr ⟨_, List.mem_map_of_mem present, ?_, OpenSink.slot_observe _ _⟩
    exact (open_iff sink).mpr ⟨other, isOpen⟩
  · intro sink after isOpen
    obtain ⟨before, present, rfl⟩ := List.mem_map.mp after
    obtain ⟨other, isOpen⟩ := (open_iff before).mp isOpen
    rw [OpenSink.slot_observe, sameFifo, sinks_setSink,
      Function.update_of_ne (elsewhere present isOpen other)]
    exact simulates.slots before present isOpen
  · intro sink after other holds'
    obtain ⟨before, present, rfl⟩ := List.mem_map.mp after
    obtain ⟨apart, holds'⟩ := (holds_iff before other).mp holds'
    obtain ⟨isOpen, points⟩ := simulates.held before present other holds'
    refine ⟨(open_iff before).mpr ⟨?_, isOpen⟩, ?_⟩
    · rw [holds']
      exact fun same => apart (Option.some.inj same)
    · rw [OpenSink.slot_observe, Function.update_of_ne apart, points]
  · intro other nobody
    by_cases apart : other = handle
    · rw [apart, Function.update_self]
    · rw [Function.update_of_ne apart]
      refine simulates.unheld other fun sink present holds' => ?_
      exact nobody _ (List.mem_map_of_mem present) ((holds_iff sink other).mpr ⟨apart, holds'⟩)
  · rw [totalDropped_map _ _ fun sink => by rw [sameFifo]]
    exact simulates.dropped

/-- Taking from a slot is taking from its private queue. -/
theorem SlotMatches.take {i : Fin cfg.nmeaSinksMax}
    {fifo : DropOldest (NmeaFrame cfg) cfg.sinkQueueDepth}
    (same : SlotMatches (bridge.sinks i) fifo) (wait : Bool) :
    ∃ slot, (nmeaBridgeSinkTake bridge i.val wait).1 = bridge.setSink i slot ∧
      SlotMatches slot fifo.take.1 ∧
      (nmeaBridgeSinkTake bridge i.val wait).2.toOption = fifo.take.2 := by
  cases waiting : fifo.waiting with
  | nil =>
    rw [nmeaBridgeSinkTake_empty bridge same.active (same.waiting.trans waiting) wait,
      DropOldest.take_of_empty waiting]
    refine ⟨bridge.sinks i, ?_, same, rfl⟩
    rw [NmeaBridge.setSink, Function.update_eq_self]
  | cons frame rest =>
    rw [nmeaBridgeSinkTake_frame bridge same.active (same.waiting.trans waiting) wait]
    refine ⟨_, rfl, ⟨same.active, ?_, ?_⟩, ?_⟩
    · simp [same.waiting]
    · rw [DropOldest.consumed_take waiting]
      simp [same.stats, UInt32.ofNat_add]
    · simp [waiting, Except.toOption]

/-- The holder of a handle takes a frame. -/
theorem Simulates.takeFrom (simulates : Simulates bridge handles opens) {handle : ℕ}
    {holder : OpenSink cfg} (member : holder ∈ opens) (holds : holder.handle = some handle)
    {slot : SinkSlot cfg} (same : SlotMatches slot holder.fifo.take.1)
    (ret : Except Errno (NmeaFrame cfg)) :
    Simulates (bridge.setSink holder.slot slot) handles
      (opens.map (·.observe (.took handle ret))) := by
  have sameOpen (sink : OpenSink cfg) :
      (sink.observe (.took handle ret)).isOpen = sink.isOpen :=
    sink.isOpen_observe (by simp)
  have sameHandle (sink : OpenSink cfg) :
      (sink.observe (.took handle ret)).handle = sink.handle :=
    sink.handle_observe (by simp [OpenSink.Releases])
  have sameLive : liveSlots (opens.map (·.observe (.took handle ret))) = liveSlots opens :=
    liveSlots_map _ (fun _ => OpenSink.slot_observe _ _) sameOpen
  refine ⟨?_, ?_, ?_, ?_, ?_, ?_⟩
  · rw [sameLive]
    exact simulates.distinct
  · intro i active
    rw [sameLive]
    by_cases here : i = holder.slot
    · rw [here]
      exact mem_liveSlots.mpr ⟨holder, member, (simulates.held holder member handle holds).1, rfl⟩
    · rw [sinks_setSink, Function.update_of_ne here] at active
      exact simulates.active i active
  · intro sink after isOpen
    obtain ⟨before, present, rfl⟩ := List.mem_map.mp after
    rw [sameOpen] at isOpen
    rw [OpenSink.slot_observe, sinks_setSink]
    by_cases here : before.slot = holder.slot
    · obtain rfl := simulates.eq_of_holds member holds present isOpen here.symm
      -- The sink in that slot is the holder itself.
      rw [Function.update_self, OpenSink.observe, if_pos holds]
      exact same
    · have other : before.handle ≠ some handle := by
        intro holds'
        exact here (simulates.slot_eq_of_holds present holds' member holds)
      rw [Function.update_of_ne here, OpenSink.observe, if_neg other]
      exact simulates.slots before present isOpen
  · intro sink after other holds'
    obtain ⟨before, present, rfl⟩ := List.mem_map.mp after
    rw [sameHandle] at holds'
    rw [sameOpen, OpenSink.slot_observe]
    exact simulates.held before present other holds'
  · intro other nobody
    refine simulates.unheld other fun sink present holds' => ?_
    exact nobody _ (List.mem_map_of_mem present) ((sameHandle sink).trans holds')
  · -- Taking drops nothing.
    have sameDropped (sink : OpenSink cfg) :
        (sink.observe (.took handle ret)).fifo.dropped = sink.fifo.dropped := by
      simp only [OpenSink.observe]
      split_ifs <;> simp
    rw [totalDropped_map _ _ sameDropped]
    exact simulates.dropped

/-- An event about a handle nobody holds passes unnoticed. -/
theorem map_observe_of_nobody {handle : ℕ} (nobody : ∀ sink ∈ opens, sink.handle ≠ some handle) :
    opens.map (·.observe (.closed handle)) = opens ∧
      ∀ ret, opens.map (·.observe (.took handle ret)) = opens := by
  refine ⟨?_, fun ret => ?_⟩ <;>
  · refine (List.map_congr_left fun sink member => ?_).trans (List.map_id opens)
    simp [OpenSink.observe, nobody sink member]

end Steps

section System

variable {sys : BridgeSystem cfg} {opens : List (OpenSink cfg)}

theorem Simulates.sinkOpen (simulates : Simulates sys.bridge sys.handles opens) (handle : ℕ) :
    Simulates (bridgeStep sys (.sinkOpen handle)).1.bridge
      (bridgeStep sys (.sinkOpen handle)).1.handles
      (observeEvent opens (bridgeStep sys (.sinkOpen handle)).2) := by
  rcases nmeaBridgeSinkOpen_cases sys.bridge with ⟨i, inactive, step⟩ | ⟨-, step⟩
  · -- The caller's handle is overwritten, whatever it held; then it holds the slot.
    have released := simulates.letGo handle (some i)
    have joined := released.join (i := i) inactive (Function.update_self handle (-1) sys.handles)
    simpa [bridgeStep, step, observeEvent] using joined
  · have released := simulates.letGo handle none
    simpa [bridgeStep, step, observeEvent] using released

theorem Simulates.sinkClose (simulates : Simulates sys.bridge sys.handles opens) (handle : ℕ) :
    Simulates (bridgeStep sys (.sinkClose handle)).1.bridge
      (bridgeStep sys (.sinkClose handle)).1.handles
      (observeEvent opens (bridgeStep sys (.sinkClose handle)).2) := by
  by_cases somebody : ∃ holder ∈ opens, holder.handle = some handle
  · obtain ⟨holder, member, holds⟩ := somebody
    obtain ⟨-, points⟩ := simulates.held holder member handle holds
    simpa [bridgeStep, observeEvent, points, nmeaBridgeSinkClose_slot] using
      simulates.leave member holds
  · have nobody : ∀ sink ∈ opens, sink.handle ≠ some handle :=
      fun sink member holds => somebody ⟨sink, member, holds⟩
    -- Nobody holds the handle: it is -1, and the close does nothing.
    have unopened := simulates.unheld handle nobody
    have sameHandles : Function.update sys.handles handle (-1) = sys.handles := by
      rw [← unopened, Function.update_eq_self]
    simpa [bridgeStep, observeEvent, unopened, sameHandles, (map_observe_of_nobody nobody).1]
      using simulates

theorem Simulates.sinkTake (simulates : Simulates sys.bridge sys.handles opens) (handle : ℕ)
    (wait : Bool) :
    Simulates (bridgeStep sys (.sinkTake handle wait)).1.bridge
      (bridgeStep sys (.sinkTake handle wait)).1.handles
      (observeEvent opens (bridgeStep sys (.sinkTake handle wait)).2) := by
  by_cases somebody : ∃ holder ∈ opens, holder.handle = some handle
  · obtain ⟨holder, member, holds⟩ := somebody
    obtain ⟨isOpen, points⟩ := simulates.held holder member handle holds
    obtain ⟨slot, step, same, -⟩ := (simulates.slots holder member isOpen).take wait
    simpa [bridgeStep, observeEvent, points, step] using simulates.takeFrom member holds same _
  · have nobody : ∀ sink ∈ opens, sink.handle ≠ some handle :=
      fun sink member holds => somebody ⟨sink, member, holds⟩
    have unopened := simulates.unheld handle nobody
    simpa [bridgeStep, observeEvent, unopened, (map_observe_of_nobody nobody).2] using simulates

/-- Whatever step the system takes, every open still has its private queue. -/
theorem Simulates.step (simulates : Simulates sys.bridge sys.handles opens) (op : BridgeOp) :
    Simulates (bridgeStep sys op).1.bridge (bridgeStep sys op).1.handles
      (observeEvent opens (bridgeStep sys op).2) := by
  cases op with
  | publish data => simpa [bridgeStep] using simulates.publish data
  | dispatch =>
    simp only [bridgeStep, dispatcherThread]
    cases oldest : sys.bridge.ingest.elements.head? with
    | none => simpa [BoundedFifo.get, oldest] using simulates
    | some frame =>
      -- The frame leaves the ingest queue before the loop over the sinks.
      have emptied : Simulates { sys.bridge with ingest := sys.bridge.ingest.get.1 } sys.handles
          opens := simulates.of_sinks rfl rfl
      simpa [BoundedFifo.get, oldest] using emptied.dispatchFrame frame
  | sinkOpen handle => exact simulates.sinkOpen handle
  | sinkClose handle => exact simulates.sinkClose handle
  | sinkTake handle wait => exact simulates.sinkTake handle wait

/-- The holder of a handle is answered by its private queue. -/
theorem Simulates.took (simulates : Simulates sys.bridge sys.handles opens) {handle : ℕ}
    {holder : OpenSink cfg} (member : holder ∈ opens) (holds : holder.handle = some handle)
    (wait : Bool) :
    ∃ ret, (bridgeStep sys (.sinkTake handle wait)).2 = .took handle ret ∧
      ret.toOption = holder.fifo.take.2 := by
  obtain ⟨isOpen, points⟩ := simulates.held holder member handle holds
  obtain ⟨-, -, -, answer⟩ := (simulates.slots holder member isOpen).take wait
  refine ⟨(nmeaBridgeSinkTake sys.bridge (sys.handles handle) wait).2, rfl, ?_⟩
  rw [points]
  exact answer

end System

/-! ## Runs -/

/-- The system after a run from its start. -/
def bridgeAfter (cfg : Kconfig) (ops : List BridgeOp) : BridgeSystem cfg :=
  stateAfter bridgeStep bridgeSystemInit ops

/-- The events of a run from the start. -/
def bridgeEvents (cfg : Kconfig) (ops : List BridgeOp) : List (BridgeEvent cfg) :=
  answers bridgeStep bridgeSystemInit ops

theorem simulates_init : Simulates (nmeaBridgeInit : NmeaBridge cfg) (fun _ => -1) [] where
  distinct := List.nodup_nil
  active i active := by simp [nmeaBridgeInit] at active
  slots _ member := by simp at member
  held _ member := by simp at member
  unheld _ _ := rfl
  dropped := rfl

/-- After every run the bridge holds the private queues of all opens. -/
theorem simulates_run (cfg : Kconfig) (ops : List BridgeOp) :
    Simulates (bridgeAfter cfg ops).bridge (bridgeAfter cfg ops).handles
      (openSinks (bridgeEvents cfg ops)) := by
  induction ops using List.reverseRecOn with
  | nil => exact simulates_init
  | append_singleton ops op ih =>
    rw [bridgeAfter, bridgeEvents, stateAfter_snoc, answers_snoc, openSinks, List.foldl_append]
    exact ih.step op

/-- What an event means to the private queue of a handle. -/
def privateInput (handle : ℕ) : BridgeEvent cfg → Option (DropOldest.Input (NmeaFrame cfg))
  | .dispatched (some frame) => some (.offer frame)
  | .took other _ => if other = handle then some .take else none
  | _ => none

/-- What a take of the handle returned: a frame, or none. -/
def takenFrame (handle : ℕ) : BridgeEvent cfg → Option (Option (NmeaFrame cfg))
  | .took other ret => if other = handle then some ret.toOption else none
  | _ => none

/-- The queue of a handle that saw these events, from empty. -/
def privateQueue (handle : ℕ) (events : List (BridgeEvent cfg)) :
    DropOldest (NmeaFrame cfg) cfg.sinkQueueDepth :=
  stateAfter DropOldest.step .empty (events.filterMap (privateInput handle))

/-- What that queue answered to the takes. -/
def privateTakes (handle : ℕ) (events : List (BridgeEvent cfg)) :
    List (Option (NmeaFrame cfg)) :=
  (answers DropOldest.step (.empty : DropOldest (NmeaFrame cfg) cfg.sinkQueueDepth)
    (events.filterMap (privateInput handle))).reduceOption

/-- The sink that `handle` opened has behaved as a queue of its own: `events` are
those since the open, `opens` all opens so far, and `slot` is the sink's slot now. -/
structure IsPrivateQueue (handle : ℕ) (events : List (BridgeEvent cfg))
    (opens : List (OpenSink cfg)) (slot : SinkSlot cfg) : Prop where
  /-- Takes returned what the private queue would. -/
  frames : events.filterMap (takenFrame handle) = privateTakes handle events
  /-- The private queue is among those of all opens. -/
  among : ∃ sink ∈ opens, sink.handle = some handle ∧ sink.fifo = privateQueue handle events
  /-- The slot holds what waits in it. -/
  waiting : slot.msgq.elements = (privateQueue handle events).waiting
  /-- Every frame that was queued was consumed, was dropped or is waiting. -/
  balanced : slot.stats.queued =
    slot.stats.consumed + slot.stats.droppedOldest + UInt32.ofNat slot.msgq.elements.length

section PrivateQueue

variable {handle : ℕ} {events : List (BridgeEvent cfg)}

/-- An event that leaves the handle alone reaches its sink as the private input. -/
theorem observe_eq_privateInput {sink : OpenSink cfg} (holds : sink.handle = some handle)
    (isOpen : sink.isOpen = true) {event : BridgeEvent cfg}
    (notOpened : ∀ slot, event ≠ .opened handle slot) (notClosed : event ≠ .closed handle) :
    (sink.observe event).handle = some handle ∧ (sink.observe event).fifo =
      stateAfter DropOldest.step sink.fifo (privateInput handle event).toList := by
  cases event with
  | published ret => exact ⟨holds, rfl⟩
  | dispatched frame =>
    cases frame with
    | none => exact ⟨holds, rfl⟩
    | some frame => simp [OpenSink.observe, isOpen, holds, privateInput, DropOldest.step]
  | opened other slot =>
    have apart : handle ≠ other := fun same => notOpened slot (by rw [same])
    simp [OpenSink.observe, holds, apart, privateInput]
  | closed other =>
    have apart : handle ≠ other := fun same => notClosed (by rw [same])
    simp [OpenSink.observe, holds, apart, privateInput]
  | took other ret =>
    by_cases same : other = handle
    · simp [OpenSink.observe, holds, same, privateInput, DropOldest.step]
    · simp [OpenSink.observe, holds, same, Ne.symm same, privateInput]

private theorem filterMap_snoc {α β : Type*} (f : α → Option β) (l : List α) (a : α) :
    (l ++ [a]).filterMap f = l.filterMap f ++ (f a).toList := by
  rw [List.filterMap_append]
  cases given : f a <;> simp [given]

theorem privateQueue_snoc (event : BridgeEvent cfg) :
    privateQueue handle (events ++ [event]) = stateAfter DropOldest.step
      (privateQueue handle events) (privateInput handle event).toList := by
  rw [privateQueue, filterMap_snoc, stateAfter_append, privateQueue]

/-- Only a take of the handle adds to the answers. -/
theorem privateTakes_snoc (event : BridgeEvent cfg) :
    privateTakes handle (events ++ [event]) = privateTakes handle events ++
      ((takenFrame handle event).map fun _ => (privateQueue handle events).take.2).toList := by
  rw [privateTakes, filterMap_snoc, privateTakes, privateQueue]
  cases event with
  | published ret => simp [privateInput, takenFrame]
  | dispatched frame =>
    cases frame <;> simp [privateInput, takenFrame, DropOldest.step, List.reduceOption]
  | opened other slot => simp [privateInput, takenFrame]
  | closed other => simp [privateInput, takenFrame]
  | took other ret =>
    by_cases same : other = handle <;>
      simp [privateInput, takenFrame, same, DropOldest.step, List.reduceOption]

end PrivateQueue

/-- The system just after `handle` was opened. -/
def bridgeOpened (cfg : Kconfig) (earlier : List BridgeOp) (handle : ℕ) : BridgeSystem cfg :=
  bridgeAfter cfg (earlier ++ [.sinkOpen handle])

/-- Neither closed nor opened again. -/
def KeepsHandle (handle : ℕ) (later : List BridgeOp) : Prop :=
  ∀ op ∈ later, op ≠ .sinkOpen handle ∧ op ≠ .sinkClose handle

instance (handle : ℕ) (later : List BridgeOp) : Decidable (KeepsHandle handle later) :=
  inferInstanceAs (Decidable (∀ op ∈ later, _ ∧ _))

/-- If a step is a take of the handle, it returns what the holder's queue hands out. -/
theorem Simulates.takenFrame_step {sys : BridgeSystem cfg} {opens : List (OpenSink cfg)}
    (simulates : Simulates sys.bridge sys.handles opens) {handle : ℕ} {holder : OpenSink cfg}
    (member : holder ∈ opens) (holds : holder.handle = some handle) (op : BridgeOp) :
    takenFrame handle (bridgeStep sys op).2 =
      (takenFrame handle (bridgeStep sys op).2).map fun _ => holder.fifo.take.2 := by
  cases op with
  | sinkTake other wait =>
    by_cases same : other = handle
    · obtain ⟨ret, event, answer⟩ := simulates.took member holds wait
      rw [same, event]
      simp only [takenFrame, if_true, Option.map_some, answer]
    · simp [bridgeStep, takenFrame, same]
  | publish data => rfl
  | dispatch => rfl
  | sinkOpen other => rfl
  | sinkClose other => rfl

section Opened

variable {earlier later : List BridgeOp} {handle : ℕ} {slot : Fin cfg.nmeaSinksMax}

/-- From a successful open on, the holder of the handle is a private queue and
answers its takes. -/
theorem holder_of_opened
    (success : (bridgeStep (bridgeAfter cfg earlier) (.sinkOpen handle)).2 =
      .opened handle (some slot))
    (keeps : KeepsHandle handle later) :
    (∃ sink ∈ openSinks (bridgeEvents cfg (earlier ++ .sinkOpen handle :: later)),
      sink.handle = some handle ∧ sink.slot = slot ∧ sink.fifo =
        privateQueue handle (answers bridgeStep (bridgeOpened cfg earlier handle) later)) ∧
    (answers bridgeStep (bridgeOpened cfg earlier handle) later).filterMap (takenFrame handle) =
      privateTakes handle (answers bridgeStep (bridgeOpened cfg earlier handle) later) := by
  induction later using List.reverseRecOn with
  | nil =>
    refine ⟨⟨.opened handle slot, ?_, rfl, rfl, rfl⟩, rfl⟩
    rw [bridgeEvents, answers_snoc, openSinks, List.foldl_append]
    change OpenSink.opened handle slot ∈ observeEvent _
      (bridgeStep (bridgeAfter cfg earlier) (.sinkOpen handle)).2
    rw [success]
    simp [observeEvent]
  | append_singleton later op ih =>
    obtain ⟨⟨holder, member, holds, inSlot, fifo⟩, frames⟩ :=
      ih fun other present => keeps other (List.mem_append_left _ present)
    obtain ⟨notOpen, notClose⟩ := keeps op (by simp)
    have simulates := simulates_run cfg (earlier ++ .sinkOpen handle :: later)
    have isOpen := (simulates.held holder member handle holds).1
    -- The run so far, seen from its start and from the open.
    have same : bridgeAfter cfg (earlier ++ .sinkOpen handle :: later) =
        stateAfter bridgeStep (bridgeOpened cfg earlier handle) later := by
      simp [bridgeAfter, bridgeOpened, stateAfter_append]
    have notOpened : ∀ slot', (bridgeStep (stateAfter bridgeStep
        (bridgeOpened cfg earlier handle) later) op).2 ≠ .opened handle slot' := by
      rintro slot' event
      cases op <;> simp_all [bridgeStep]
    have notClosed : (bridgeStep (stateAfter bridgeStep
        (bridgeOpened cfg earlier handle) later) op).2 ≠ .closed handle := by
      rintro event
      cases op <;> simp_all [bridgeStep]
    obtain ⟨stillHolds, sees⟩ := observe_eq_privateInput holds isOpen notOpened notClosed
    rw [answers_snoc]
    refine ⟨⟨_, ?_, stillHolds, ?_, ?_⟩, ?_⟩
    · rw [← List.cons_append, ← List.append_assoc, bridgeEvents, answers_snoc, openSinks,
        List.foldl_append]
      refine List.mem_append_left _ ?_
      rw [← bridgeAfter, same]
      exact List.mem_map_of_mem member
    · rw [OpenSink.slot_observe, inSlot]
    · rw [sees, fifo, privateQueue_snoc]
    · rw [filterMap_snoc, frames, privateTakes_snoc]
      rw [same] at simulates
      rw [simulates.takenFrame_step member holds op, fifo]
      simp only [Option.map_map, Function.comp_def]

end Opened

/-- The bridge refines independent drop-oldest queues, one for each successful open:
from the open until its close the handle's takes return what a private queue fed with
the frames dispatched since would return, its statistics balance modulo 2^32, and
the bridge counts the drops of all these queues. -/
theorem bridge_refines_private_queues (cfg : Kconfig) :
    (∀ (earlier : List BridgeOp) (handle : ℕ) (slot : Fin cfg.nmeaSinksMax)
      (later : List BridgeOp),
      (bridgeStep (bridgeAfter cfg earlier) (.sinkOpen handle)).2 = .opened handle (some slot) →
      KeepsHandle handle later →
      IsPrivateQueue handle (answers bridgeStep (bridgeOpened cfg earlier handle) later)
        (openSinks (bridgeEvents cfg (earlier ++ .sinkOpen handle :: later)))
        ((bridgeAfter cfg (earlier ++ .sinkOpen handle :: later)).bridge.sinks slot)) ∧
    ∀ ops : List BridgeOp, (bridgeAfter cfg ops).bridge.stats.sinkDroppedOldest =
      UInt32.ofNat (totalDropped (openSinks (bridgeEvents cfg ops))) := by
  refine ⟨fun earlier handle slot later success keeps => ?_,
    fun ops => (simulates_run cfg ops).dropped⟩
  obtain ⟨⟨holder, member, holds, inSlot, fifo⟩, frames⟩ := holder_of_opened success keeps
  have simulates := simulates_run cfg (earlier ++ .sinkOpen handle :: later)
  -- The slot the open returned matches the holder's private queue.
  have same := simulates.slots holder member (simulates.held holder member handle holds).1
  rw [inSlot] at same
  refine ⟨frames, ⟨holder, member, holds, fifo⟩, fifo ▸ same.waiting, ?_⟩
  rw [same.stats, same.waiting]
  simp only [holder.fifo.balanced, UInt32.ofNat_add]

/-- With the queues of `prj.conf`: a sink opened after one frame was dispatched gets
the second frame only. -/
theorem bridge_refines_private_queues_secondFrame :
    IsPrivateQueue 7
      (answers bridgeStep (bridgeOpened prjConf [.publish [0x41, 0x0A], .dispatch] 7)
        [.publish [0x42, 0x0A], .dispatch, .sinkTake 7 true])
      (openSinks (bridgeEvents prjConf ([.publish [0x41, 0x0A], .dispatch] ++
        .sinkOpen 7 :: [.publish [0x42, 0x0A], .dispatch, .sinkTake 7 true])))
      ((bridgeAfter prjConf ([.publish [0x41, 0x0A], .dispatch] ++
        .sinkOpen 7 :: [.publish [0x42, 0x0A], .dispatch, .sinkTake 7 true])).bridge.sinks
          ⟨0, by decide⟩) :=
  (bridge_refines_private_queues prjConf).1 _ 7 ⟨0, by decide⟩ _ rfl (by decide)

end EspNmeaBridge
