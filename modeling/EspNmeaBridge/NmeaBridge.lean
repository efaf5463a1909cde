/-
# The NMEA bridge

Published frames wait in one ingest queue. The dispatcher moves them one at a time
into the queue of every registered sink, and each sink takes from its own. Both
levels drop their oldest frame rather than refuse a new one.

Here publishing, one dispatcher iteration, and opening, closing and taking from a
sink are single steps. A sink handle is the caller's `struct nmea_bridge_sink`; one
that was never opened holds no slot.
-/

import EspNmeaBridge.AisMmsiFilter
import EspNmeaBridge.Errno
import EspNmeaBridge.Kconfig
import EspNmeaBridge.Lib.BoundedFifo

namespace EspNmeaBridge

/-- `struct nmea_frame`: the `len` bytes of `data` that count. -/
structure NmeaFrame (cfg : Kconfig) where
  data : Frame
  fits : data.length ≤ cfg.nmeaFrameMaxLen
  deriving DecidableEq

structure NmeaBridgeStats where
  framesIn : UInt32
  ingestDroppedOldest : UInt32
  sinkDroppedOldest : UInt32
  publishNoSinks : UInt32
  publishInvalid : UInt32
  publishOversize : UInt32
  deriving DecidableEq, Repr

structure NmeaSinkStats where
  queued : UInt32
  droppedOldest : UInt32
  consumed : UInt32
  deriving DecidableEq, Repr

structure SinkSlot (cfg : Kconfig) where
  active : Bool
  msgq : BoundedFifo (NmeaFrame cfg) cfg.sinkQueueDepth
  stats : NmeaSinkStats

/-- The statics of `nmea_bridge.c`. -/
structure NmeaBridge (cfg : Kconfig) where
  ingest : BoundedFifo (NmeaFrame cfg) cfg.ingestQueueDepth
  sinks : Fin cfg.nmeaSinksMax → SinkSlot cfg
  stats : NmeaBridgeStats

variable {cfg : Kconfig}

def nmeaBridgeInit : NmeaBridge cfg where
  ingest := .empty
  sinks _ := { active := false, msgq := .empty, stats := ⟨0, 0, 0⟩ }
  stats := ⟨0, 0, 0, 0, 0, 0⟩

/-- The queue after the frame was put, and the drop counter. -/
def putDropOldest {depth : ℕ} (msgq : BoundedFifo (NmeaFrame cfg) depth) (frame : NmeaFrame cfg)
    (dropCounter : UInt32) : BoundedFifo (NmeaFrame cfg) depth × UInt32 :=
  match msgq.put frame with
  | some msgq => (msgq, dropCounter)
  | none =>
    -- The oldest frame makes room and counts as dropped, whether or not there was one.
    let msgq := msgq.get.1
    let dropCounter := dropCounter + 1
    match msgq.put frame with
    | some msgq => (msgq, dropCounter)
    -- Still full: the new frame is dropped, too.
    | none => (msgq, dropCounter + 1)

/-- Which queue operation of `put_drop_oldest` comes next. -/
inductive PutPhase where
  | put
  | evict
  | retry
  deriving DecidableEq, Repr

/-- One queue operation of `put_drop_oldest`, for threads that run in between; the
last component is where it goes on. -/
def putDropOldestStep {depth : ℕ} (msgq : BoundedFifo (NmeaFrame cfg) depth)
    (frame : NmeaFrame cfg) (dropCounter : UInt32) :
    PutPhase → BoundedFifo (NmeaFrame cfg) depth × UInt32 × Option PutPhase
  | .put =>
    match msgq.put frame with
    | some msgq => (msgq, dropCounter, none)
    | none => (msgq, dropCounter, some .evict)
  | .evict => (msgq.get.1, dropCounter + 1, some .retry)
  | .retry =>
    match msgq.put frame with
    | some msgq => (msgq, dropCounter, none)
    | none => (msgq, dropCounter + 1, none)

/-- Set slot `i` to a new value. -/
def NmeaBridge.setSink (bridge : NmeaBridge cfg) (i : Fin cfg.nmeaSinksMax)
    (slot : SinkSlot cfg) : NmeaBridge cfg :=
  { bridge with sinks := Function.update bridge.sinks i slot }

/-- An active slot after the dispatcher put a frame into it. -/
def SinkSlot.dispatched (slot : SinkSlot cfg) (frame : NmeaFrame cfg) : SinkSlot cfg :=
  let (msgq, droppedOldest) := putDropOldest slot.msgq frame slot.stats.droppedOldest
  { slot with msgq, stats := { slot.stats with droppedOldest, queued := slot.stats.queued + 1 } }

/-- The body of the dispatcher's loop over the slots; the flag is `any`. -/
def dispatchSink (frame : NmeaFrame cfg) (state : NmeaBridge cfg × Bool)
    (i : Fin cfg.nmeaSinksMax) : NmeaBridge cfg × Bool :=
  let (bridge, any) := state
  if !(bridge.sinks i).active then (bridge, any)
  else
    let before := (bridge.sinks i).stats.droppedOldest
    let slot := (bridge.sinks i).dispatched frame
    let stats :=
      if slot.stats.droppedOldest ≠ before then
        { bridge.stats with sinkDroppedOldest :=
            bridge.stats.sinkDroppedOldest + (slot.stats.droppedOldest - before) }
      else bridge.stats
    ({ bridge.setSink i slot with stats }, true)

/-- What the dispatcher does with one frame while it holds the lock. -/
def dispatchFrame (bridge : NmeaBridge cfg) (frame : NmeaFrame cfg) : NmeaBridge cfg :=
  let (bridge, any) := (List.finRange cfg.nmeaSinksMax).foldl (dispatchSink frame) (bridge, false)
  -- Nobody wanted the frame.
  if !any then
    { bridge with
      stats := { bridge.stats with publishNoSinks := bridge.stats.publishNoSinks + 1 } }
  else bridge

/-- One iteration of `dispatcher_thread`, with the frame it moved. Without a frame
in the ingest queue the thread waits. -/
def dispatcherThread (bridge : NmeaBridge cfg) : NmeaBridge cfg × Option (NmeaFrame cfg) :=
  match bridge.ingest.get with
  | (_, none) => (bridge, none)
  | (ingest, some frame) => (dispatchFrame { bridge with ingest } frame, some frame)

/-- The checks of `nmea_bridge_publish_frame` and the copy into a frame. -/
def acceptFrame (bridge : NmeaBridge cfg) (data : Frame) :
    NmeaBridge cfg × Except Errno (NmeaFrame cfg) :=
  if data.length = 0 then
    ({ bridge with
        stats := { bridge.stats with publishInvalid := bridge.stats.publishInvalid + 1 } },
      .error .einval)
  else if fits : data.length ≤ cfg.nmeaFrameMaxLen then
    ({ bridge with stats := { bridge.stats with framesIn := bridge.stats.framesIn + 1 } },
      .ok ⟨data, fits⟩)
  else
    ({ bridge with
        stats := { bridge.stats with publishOversize := bridge.stats.publishOversize + 1 } },
      .error .emsgsize)

def nmeaBridgePublishFrame (bridge : NmeaBridge cfg) (data : Frame) :
    NmeaBridge cfg × Except Errno Unit :=
  match acceptFrame bridge data with
  | (bridge, .error err) => (bridge, .error err)
  | (bridge, .ok frame) =>
    let (ingest, ingestDroppedOldest) :=
      putDropOldest bridge.ingest frame bridge.stats.ingestDroppedOldest
    ({ bridge with ingest, stats := { bridge.stats with ingestDroppedOldest } }, .ok ())

/-- A registered, empty sink with fresh statistics. -/
def SinkSlot.opened : SinkSlot cfg := { active := true, msgq := .empty, stats := ⟨0, 0, 0⟩ }

/-- The first inactive slot is cleared and taken; `none` is `-ENOMEM`. -/
def nmeaBridgeSinkOpen (bridge : NmeaBridge cfg) :
    NmeaBridge cfg × Option (Fin cfg.nmeaSinksMax) :=
  match (List.finRange cfg.nmeaSinksMax).find? fun i => !(bridge.sinks i).active with
  | some i => (bridge.setSink i .opened, some i)
  | none => (bridge, none)

/-- The bridge and the handle's `id` after the close. -/
def nmeaBridgeSinkClose (bridge : NmeaBridge cfg) (id : ℤ) : NmeaBridge cfg × ℤ :=
  if outside : id < 0 ∨ cfg.nmeaSinksMax ≤ id then (bridge, id)
  else
    let i : Fin cfg.nmeaSinksMax := ⟨id.toNat, by omega⟩
    (bridge.setSink i { bridge.sinks i with active := false, msgq := .empty }, -1)

/-- The checks of `nmea_bridge_sink_take`, up to the unlock. -/
def checkSink (bridge : NmeaBridge cfg) (id : ℤ) : Except Errno (Fin cfg.nmeaSinksMax) :=
  if below : id < 0 then .error .enotconn
  else if above : cfg.nmeaSinksMax ≤ id then .error .einval
  else
    let i : Fin cfg.nmeaSinksMax := ⟨id.toNat, by omega⟩
    if !(bridge.sinks i).active then .error .enotconn else .ok i

/-- The `k_msgq_get` of `nmea_bridge_sink_take`, which counts a frame it finds. -/
def getFromSink (bridge : NmeaBridge cfg) (i : Fin cfg.nmeaSinksMax) :
    NmeaBridge cfg × Option (NmeaFrame cfg) :=
  let slot := bridge.sinks i
  match slot.msgq.get with
  | (_, none) => (bridge, none)
  | (msgq, some frame) =>
    (bridge.setSink i
      { slot with msgq, stats := { slot.stats with consumed := slot.stats.consumed + 1 } },
      some frame)

/-- Take a frame; an empty queue gives `-EAGAIN` after a wait and `-ENOMSG` without. -/
def nmeaBridgeSinkTake (bridge : NmeaBridge cfg) (id : ℤ) (wait : Bool) :
    NmeaBridge cfg × Except Errno (NmeaFrame cfg) :=
  match checkSink bridge id with
  | .error err => (bridge, .error err)
  | .ok i =>
    -- The lock is released here, before the queue is asked.
    match getFromSink bridge i with
    | (bridge, none) => (bridge, .error (if wait then .eagain else .enomsg))
    | (bridge, some frame) => (bridge, .ok frame)

/-! ## What the functions do -/

section Functions

@[simp] theorem sinks_setSink (bridge : NmeaBridge cfg) (i : Fin cfg.nmeaSinksMax)
    (slot : SinkSlot cfg) :
    (bridge.setSink i slot).sinks = Function.update bridge.sinks i slot := rfl

/-- How many frames a put pushes out of the slot's queue. -/
def SinkSlot.overflow (slot : SinkSlot cfg) : ℕ :=
  slot.msgq.elements.length + 1 - cfg.sinkQueueDepth

/-- Putting keeps the newest frames and counts the others. -/
theorem putDropOldest_spec {depth : ℕ} (positive : 0 < depth)
    (msgq : BoundedFifo (NmeaFrame cfg) depth) (frame : NmeaFrame cfg) (dropCounter : UInt32) :
    (putDropOldest msgq frame dropCounter).1.elements =
        (msgq.elements ++ [frame]).drop (msgq.elements.length + 1 - depth) ∧
      (putDropOldest msgq frame dropCounter).2 =
        dropCounter + UInt32.ofNat (msgq.elements.length + 1 - depth) := by
  have fits := msgq.fits
  unfold putDropOldest
  cases first : msgq.put frame with
  | some queue =>
    obtain ⟨room, elements⟩ := BoundedFifo.put_eq_some.mp first
    have none_out : msgq.elements.length + 1 - depth = 0 := by omega
    simp [none_out, elements]
  | none =>
    -- The queue is full, so the first put fails and the oldest frame goes.
    have full := BoundedFifo.put_eq_none.mp first
    have one_out : msgq.elements.length + 1 - depth = 1 := by omega
    obtain ⟨oldest, rest, split⟩ := List.exists_cons_of_length_pos (full ▸ positive)
    cases second : msgq.get.1.put frame with
    | some queue =>
      obtain ⟨-, elements⟩ := BoundedFifo.put_eq_some.mp second
      simp only [one_out, second, elements, BoundedFifo.elements_get]
      rw [split]
      exact ⟨rfl, rfl⟩
    | none =>
      -- Behind the get there is room, so the second put cannot fail.
      have stillFull := BoundedFifo.put_eq_none.mp second
      rw [BoundedFifo.elements_get, List.length_tail] at stillFull
      omega

/-- Without another thread in between, the single operations are `put_drop_oldest`. -/
theorem putDropOldest_eq_steps {depth : ℕ} (msgq : BoundedFifo (NmeaFrame cfg) depth)
    (frame : NmeaFrame cfg) (dropCounter : UInt32) :
    putDropOldest msgq frame dropCounter =
      match putDropOldestStep msgq frame dropCounter .put with
      | (msgq, dropCounter, none) => (msgq, dropCounter)
      | (msgq, dropCounter, some _) =>
        let (msgq, dropCounter, _) := putDropOldestStep msgq frame dropCounter .evict
        let (msgq, dropCounter, _) := putDropOldestStep msgq frame dropCounter .retry
        (msgq, dropCounter) := by
  simp only [putDropOldest, putDropOldestStep]
  cases msgq.put frame with
  | some queue => rfl
  | none => cases second : msgq.get.1.put frame <;> simp [second]

/-- An operation of the put loses frames or keeps them in order; it makes none. -/
theorem putDropOldestStep_sublist {depth : ℕ} (msgq : BoundedFifo (NmeaFrame cfg) depth)
    (frame : NmeaFrame cfg) (dropCounter : UInt32) (phase : PutPhase) :
    ((putDropOldestStep msgq frame dropCounter phase).1.elements ++
        (putDropOldestStep msgq frame dropCounter phase).2.2.toList.map fun _ => frame).Sublist
      (msgq.elements ++ [frame]) := by
  cases phase with
  | put =>
    cases put : msgq.put frame with
    | some queue =>
      obtain ⟨-, elements⟩ := BoundedFifo.put_eq_some.mp put
      simp [putDropOldestStep, put, elements]
    | none => simp [putDropOldestStep, put]
  | evict => exact (List.tail_sublist _).append (List.Sublist.refl _)
  | retry =>
    cases put : msgq.put frame with
    | some queue =>
      obtain ⟨-, elements⟩ := BoundedFifo.put_eq_some.mp put
      simp [putDropOldestStep, put, elements]
    | none => simp [putDropOldestStep, put]

theorem sinkQueueDepth_pos (cfg : Kconfig) : 0 < cfg.sinkQueueDepth :=
  lt_of_lt_of_le Nat.two_pos cfg.sinkQueueDepth_range.1

theorem elements_dispatched (slot : SinkSlot cfg) (frame : NmeaFrame cfg) :
    (slot.dispatched frame).msgq.elements =
      (slot.msgq.elements ++ [frame]).drop slot.overflow :=
  (putDropOldest_spec (sinkQueueDepth_pos cfg) _ _ _).1

theorem stats_dispatched (slot : SinkSlot cfg) (frame : NmeaFrame cfg) :
    (slot.dispatched frame).stats =
      { queued := slot.stats.queued + 1
        droppedOldest := slot.stats.droppedOldest + UInt32.ofNat slot.overflow
        consumed := slot.stats.consumed } := by
  simp only [SinkSlot.dispatched, NmeaSinkStats.mk.injEq, true_and, and_true]
  exact (putDropOldest_spec (sinkQueueDepth_pos cfg) _ _ _).2

variable (frame : NmeaFrame cfg)

/-- The dispatcher's turn at an active slot, whether or not it dropped a frame. -/
theorem dispatchSink_active (bridge : NmeaBridge cfg) (any : Bool) {i : Fin cfg.nmeaSinksMax}
    (active : (bridge.sinks i).active = true) :
    (dispatchSink frame (bridge, any) i).1.ingest = bridge.ingest ∧
      (dispatchSink frame (bridge, any) i).1.sinks =
        Function.update bridge.sinks i ((bridge.sinks i).dispatched frame) ∧
      (dispatchSink frame (bridge, any) i).1.stats.sinkDroppedOldest =
        bridge.stats.sinkDroppedOldest + UInt32.ofNat (bridge.sinks i).overflow := by
  simp only [dispatchSink, active, Bool.not_true, Bool.false_eq_true, if_false]
  refine ⟨rfl, rfl, ?_⟩
  have counted : ((bridge.sinks i).dispatched frame).stats.droppedOldest =
      (bridge.sinks i).stats.droppedOldest + UInt32.ofNat (bridge.sinks i).overflow := by
    rw [stats_dispatched]
  split_ifs with dropped
  · rw [counted, UInt32.add_comm _ (UInt32.ofNat _), UInt32.add_sub_cancel]
  · rw [not_not, counted] at dropped
    have nothing : UInt32.ofNat (bridge.sinks i).overflow = 0 := by simpa using dropped
    rw [nothing, UInt32.add_zero]

theorem dispatchSink_inactive (bridge : NmeaBridge cfg) (any : Bool) {i : Fin cfg.nmeaSinksMax}
    (inactive : (bridge.sinks i).active = false) :
    dispatchSink frame (bridge, any) i = (bridge, any) := by
  simp [dispatchSink, inactive]

/-- The loop over the slots gives the frame to every active one of them and counts
what that drops. -/
theorem foldl_dispatchSink (slots : List (Fin cfg.nmeaSinksMax)) (distinct : slots.Nodup)
    (bridge : NmeaBridge cfg) (any : Bool) :
    (slots.foldl (dispatchSink frame) (bridge, any)).1.ingest = bridge.ingest ∧
      (∀ i, (slots.foldl (dispatchSink frame) (bridge, any)).1.sinks i =
        if i ∈ slots ∧ (bridge.sinks i).active = true then (bridge.sinks i).dispatched frame
        else bridge.sinks i) ∧
      (slots.foldl (dispatchSink frame) (bridge, any)).1.stats.sinkDroppedOldest =
        bridge.stats.sinkDroppedOldest + UInt32.ofNat
          ((slots.filter fun i => (bridge.sinks i).active).map
            fun i => (bridge.sinks i).overflow).sum := by
  induction slots generalizing bridge any with
  | nil => simp
  | cons i slots ih =>
    obtain ⟨fresh, distinct⟩ := List.nodup_cons.mp distinct
    cases active : (bridge.sinks i).active with
    | false =>
      rw [List.foldl_cons, dispatchSink_inactive frame bridge any active]
      obtain ⟨ingest, sinks, counted⟩ := ih distinct bridge any
      refine ⟨ingest, fun j => ?_, by simpa [active] using counted⟩
      rw [sinks j]
      by_cases here : j = i
      · subst here
        simp [fresh, active]
      · simp [here]
    | true =>
      obtain ⟨ingest₁, sinks₁, counted₁⟩ := dispatchSink_active frame bridge any active
      rw [List.foldl_cons, ← Prod.mk.eta (p := dispatchSink frame (bridge, any) i)]
      obtain ⟨ingest, sinks, counted⟩ := ih distinct (dispatchSink frame (bridge, any) i).1
        (dispatchSink frame (bridge, any) i).2
      -- Later slots are other slots, which this one's put leaves alone.
      have others : ∀ j ∈ slots, (dispatchSink frame (bridge, any) i).1.sinks j =
          bridge.sinks j := by
        intro j member
        have apart : j ≠ i := fun same => fresh (same ▸ member)
        rw [sinks₁, Function.update_of_ne apart]
      refine ⟨ingest.trans ingest₁, fun j => ?_, ?_⟩
      · rw [sinks j, sinks₁]
        by_cases here : j = i
        · subst here
          simp [fresh, active]
        · simp [here]
      · rw [counted, counted₁, List.filter_congr fun j member => by rw [others j member],
          List.map_congr_left fun j member => by rw [others j (List.mem_of_mem_filter member)]]
        simp [active, UInt32.ofNat_add, UInt32.add_assoc]

/-- Dispatching a frame is one put for every active slot. -/
theorem dispatchFrame_spec (bridge : NmeaBridge cfg) :
    (dispatchFrame bridge frame).ingest = bridge.ingest ∧
      (∀ i, (dispatchFrame bridge frame).sinks i =
        if (bridge.sinks i).active = true then (bridge.sinks i).dispatched frame
        else bridge.sinks i) ∧
      (dispatchFrame bridge frame).stats.sinkDroppedOldest =
        bridge.stats.sinkDroppedOldest + UInt32.ofNat
          (((List.finRange cfg.nmeaSinksMax).filter fun i => (bridge.sinks i).active).map
            fun i => (bridge.sinks i).overflow).sum := by
  obtain ⟨ingest, sinks, counted⟩ := foldl_dispatchSink frame (List.finRange cfg.nmeaSinksMax)
    (List.nodup_finRange _) bridge false
  unfold dispatchFrame
  cases folded : (List.finRange cfg.nmeaSinksMax).foldl (dispatchSink frame) (bridge, false) with
  | mk after any =>
    rw [folded] at ingest sinks counted
    refine ⟨?_, fun i => ?_, ?_⟩
    · cases any <;> exact ingest
    · have here := sinks i
      simp only [List.mem_finRange, true_and] at here
      cases any <;> exact here
    · cases any <;> exact counted

variable (bridge : NmeaBridge cfg)

/-- Opening takes over some inactive slot, or finds none. -/
theorem nmeaBridgeSinkOpen_cases :
    (∃ i, (bridge.sinks i).active = false ∧
      nmeaBridgeSinkOpen bridge = (bridge.setSink i .opened, some i)) ∨
    ((∀ i, (bridge.sinks i).active = true) ∧ nmeaBridgeSinkOpen bridge = (bridge, none)) := by
  unfold nmeaBridgeSinkOpen
  cases found : (List.finRange cfg.nmeaSinksMax).find? fun i => !(bridge.sinks i).active with
  | some i =>
    have inactive := List.find?_some found
    exact Or.inl ⟨i, by simpa using inactive, rfl⟩
  | none =>
    refine Or.inr ⟨fun i => ?_, rfl⟩
    have active := List.find?_eq_none.mp found i (List.mem_finRange i)
    simpa using active

@[simp] theorem nmeaBridgeSinkClose_unopened : nmeaBridgeSinkClose bridge (-1) = (bridge, -1) := by
  simp [nmeaBridgeSinkClose]

/-- Closing frees the slot of the handle and empties its queue. -/
theorem nmeaBridgeSinkClose_slot (i : Fin cfg.nmeaSinksMax) :
    nmeaBridgeSinkClose bridge i.val =
      (bridge.setSink i { bridge.sinks i with active := false, msgq := .empty }, -1) := by
  have inside := i.isLt
  unfold nmeaBridgeSinkClose
  rw [dif_neg (by omega)]
  simp

@[simp] theorem nmeaBridgeSinkTake_unopened (wait : Bool) :
    nmeaBridgeSinkTake bridge (-1) wait = (bridge, .error .enotconn) := by
  simp [nmeaBridgeSinkTake, checkSink]

/-- The handle of a registered sink passes the checks. -/
theorem checkSink_slot {i : Fin cfg.nmeaSinksMax} (active : (bridge.sinks i).active = true) :
    checkSink bridge i.val = .ok i := by
  have inside := i.isLt
  unfold checkSink
  rw [dif_neg (by omega), dif_neg (by omega)]
  simp [active]

theorem eq_of_checkSink_ok {id : ℤ} {i : Fin cfg.nmeaSinksMax}
    (passed : checkSink bridge id = .ok i) : id = i.val := by
  unfold checkSink at passed
  split_ifs at passed with below above
  dsimp only at passed
  split_ifs at passed
  obtain rfl := Except.ok.inj passed
  simp
  omega

theorem getFromSink_empty {i : Fin cfg.nmeaSinksMax}
    (empty : (bridge.sinks i).msgq.elements = []) : getFromSink bridge i = (bridge, none) := by
  simp [getFromSink, BoundedFifo.get, empty]

theorem getFromSink_frame {i : Fin cfg.nmeaSinksMax} {frame : NmeaFrame cfg}
    {rest : List (NmeaFrame cfg)} (waiting : (bridge.sinks i).msgq.elements = frame :: rest) :
    getFromSink bridge i = (bridge.setSink i { bridge.sinks i with
        msgq := (bridge.sinks i).msgq.get.1
        stats := { (bridge.sinks i).stats with
          consumed := (bridge.sinks i).stats.consumed + 1 } },
      some frame) := by
  simp [getFromSink, BoundedFifo.get, waiting]

/-- Taking a frame registers or unregisters no sink and counts nothing but the frame. -/
theorem getFromSink_keeps (bridge : NmeaBridge cfg) (i j : Fin cfg.nmeaSinksMax) :
    ((getFromSink bridge i).1.sinks j).active = (bridge.sinks j).active ∧
      ((getFromSink bridge i).1.sinks j).stats = { (bridge.sinks j).stats with
        consumed := ((getFromSink bridge i).1.sinks j).stats.consumed } := by
  cases waiting : (bridge.sinks i).msgq.elements with
  | nil => simp [getFromSink_empty bridge waiting]
  | cons frame rest =>
    rw [getFromSink_frame bridge waiting]
    by_cases here : j = i
    · subst here
      simp
    · simp [here]

/-- Taking from an empty queue changes nothing. -/
theorem nmeaBridgeSinkTake_empty {i : Fin cfg.nmeaSinksMax}
    (active : (bridge.sinks i).active = true) (empty : (bridge.sinks i).msgq.elements = [])
    (wait : Bool) :
    nmeaBridgeSinkTake bridge i.val wait =
      (bridge, .error (if wait then .eagain else .enomsg)) := by
  simp [nmeaBridgeSinkTake, checkSink_slot bridge active, getFromSink_empty bridge empty]

/-- Taking hands out the oldest frame and counts it. -/
theorem nmeaBridgeSinkTake_frame {i : Fin cfg.nmeaSinksMax}
    (active : (bridge.sinks i).active = true) {frame : NmeaFrame cfg}
    {rest : List (NmeaFrame cfg)} (waiting : (bridge.sinks i).msgq.elements = frame :: rest)
    (wait : Bool) :
    nmeaBridgeSinkTake bridge i.val wait =
      (bridge.setSink i { bridge.sinks i with
          msgq := (bridge.sinks i).msgq.get.1
          stats := { (bridge.sinks i).stats with
            consumed := (bridge.sinks i).stats.consumed + 1 } },
        .ok frame) := by
  simp only [nmeaBridgeSinkTake, checkSink_slot bridge active, getFromSink_frame bridge waiting]

end Functions

/-! ## Steps of a run -/

/-- The bridge together with the `id` fields of its callers' handles. -/
structure BridgeSystem (cfg : Kconfig) where
  bridge : NmeaBridge cfg
  handles : ℕ → ℤ

inductive BridgeOp where
  | publish (data : Frame)
  | dispatch
  | sinkOpen (handle : ℕ)
  | sinkClose (handle : ℕ)
  | sinkTake (handle : ℕ) (wait : Bool)
  deriving DecidableEq, Repr

/-- What a step shows to the outside, the dispatched frame included. -/
inductive BridgeEvent (cfg : Kconfig) where
  | published (ret : Except Errno Unit)
  | dispatched (frame : Option (NmeaFrame cfg))
  | opened (handle : ℕ) (slot : Option (Fin cfg.nmeaSinksMax))
  | closed (handle : ℕ)
  | took (handle : ℕ) (ret : Except Errno (NmeaFrame cfg))

def bridgeSystemInit : BridgeSystem cfg where
  bridge := nmeaBridgeInit
  handles _ := -1

def bridgeStep (sys : BridgeSystem cfg) : BridgeOp → BridgeSystem cfg × BridgeEvent cfg
  | .publish data =>
    let (bridge, ret) := nmeaBridgePublishFrame sys.bridge data
    ({ sys with bridge }, .published ret)
  | .dispatch =>
    let (bridge, frame) := dispatcherThread sys.bridge
    ({ sys with bridge }, .dispatched frame)
  | .sinkOpen handle =>
    let (bridge, slot) := nmeaBridgeSinkOpen sys.bridge
    let id : ℤ := match slot with | some i => i.val | none => -1
    ({ bridge, handles := Function.update sys.handles handle id }, .opened handle slot)
  | .sinkClose handle =>
    let (bridge, id) := nmeaBridgeSinkClose sys.bridge (sys.handles handle)
    ({ bridge, handles := Function.update sys.handles handle id }, .closed handle)
  | .sinkTake handle wait =>
    let (bridge, ret) := nmeaBridgeSinkTake sys.bridge (sys.handles handle) wait
    ({ sys with bridge }, .took handle ret)

end EspNmeaBridge
