/-
# The accounts of reader and bridge

The reader counts the frames it completed and those the filter took; the bridge
counts what was published, what fell out of the ingest queue and why a frame was
refused. This file runs both together with the dispatcher and the sinks, one step
at a time and in any order, and balances the counters after every step.

Every completed frame is filtered or published, and every published one is
accepted: it holds at least its newline and at most what the buffer holds, which
is what a frame of the bridge holds. Every accepted frame is dispatched, dropped
or still waiting.
-/

import EspNmeaBridge.Lib.Machine
import EspNmeaBridge.NmeaBridge
import EspNmeaBridge.UartNmea.FrameBuffer

namespace EspNmeaBridge

open CString Machine

/-! ## Reader and bridge in one run -/

/-- The reader with its frame buffer, and the bridge it publishes to. -/
structure Feed (cfg : Kconfig) where
  rx : UartRxMemory
  sys : BridgeSystem cfg

inductive FeedOp where
  | applyAisConfig (mmsi : UInt32)
  | byte (ch : UInt8)
  | dispatch
  | sinkOpen (handle : ℕ)
  | sinkClose (handle : ℕ)
  | sinkTake (handle : ℕ) (wait : Bool)
  deriving DecidableEq, Repr

/-- What a step did: the offsets of the frame buffer it stored to, the frame it published,
the frame it dispatched. -/
structure FeedEvent (cfg : Kconfig) where
  stores : List ℕ := []
  published : Option Frame := none
  dispatched : Option (NmeaFrame cfg) := none

variable {cfg : Kconfig}

def feedInit (stack : CharArray cfg.nmeaFrameMaxLen) : Feed cfg where
  rx := uartRxMemoryInit stack
  sys := bridgeSystemInit

/-- A step of the bridge that the reader and the dispatcher have no part in. -/
def Feed.bridgeOp (feed : Feed cfg) (op : BridgeOp) : Feed cfg × FeedEvent cfg :=
  ({ feed with sys := (bridgeStep feed.sys op).1 }, {})

def feedStep (feed : Feed cfg) : FeedOp → Feed cfg × FeedEvent cfg
  | .applyAisConfig mmsi => ({ feed with rx := feed.rx.applyAisConfigIfChanged mmsi }, {})
  | .byte ch =>
    let (rx, stores, handed) := feed.rx.byte cfg.nmeaFrameMaxLen ch
    match handed with
    | some (frame, false) =>
      ({ rx, sys := (bridgeStep feed.sys (.publish frame)).1 },
        { stores, published := some frame })
    -- The filter took the frame, or none was completed.
    | _ => ({ feed with rx }, { stores })
  | .dispatch =>
    let (bridge, dispatched) := dispatcherThread feed.sys.bridge
    ({ feed with sys := { feed.sys with bridge } }, { dispatched })
  | .sinkOpen handle => feed.bridgeOp (.sinkOpen handle)
  | .sinkClose handle => feed.bridgeOp (.sinkClose handle)
  | .sinkTake handle wait => feed.bridgeOp (.sinkTake handle wait)

section Runs

variable (stack : CharArray cfg.nmeaFrameMaxLen) (ops : List FeedOp)

def feedAfter : Feed cfg := stateAfter feedStep (feedInit stack) ops

def feedHistory : List (FeedOp × FeedEvent cfg) := trace feedStep (feedInit stack) ops

/-- How many frames the dispatcher has moved. -/
def dispatchedCount (events : List (FeedOp × FeedEvent cfg)) : ℕ :=
  events.countP fun event => event.2.dispatched.isSome

/-- All counters agree, every published frame fits the bridge, and every store the buffer. -/
structure AccountsBalance (events : List (FeedOp × FeedEvent cfg)) (feed : Feed cfg) : Prop where
  framesRx : feed.rx.stats.framesRx =
    feed.rx.stats.aisSelfMmsiFiltered + feed.sys.bridge.stats.framesIn
  publishInvalid : feed.sys.bridge.stats.publishInvalid = 0
  publishOversize : feed.sys.bridge.stats.publishOversize = 0
  framesIn : feed.sys.bridge.stats.framesIn =
    UInt32.ofNat (dispatchedCount events) + feed.sys.bridge.stats.ingestDroppedOldest +
      UInt32.ofNat feed.sys.bridge.ingest.elements.length
  published : ∀ event ∈ events, ∀ frame ∈ event.2.published,
    1 ≤ frame.length ∧ frame.length ≤ cfg.nmeaFrameMaxLen
  stores : ∀ event ∈ events, ∀ offset ∈ event.2.stores, offset < cfg.nmeaFrameMaxLen

end Runs

/-! ## What leaves the accounts of publishing alone -/

/-- The ingest queue and the counters of publishing are the same. -/
structure SameIngest (before after : NmeaBridge cfg) : Prop where
  ingest : after.ingest = before.ingest
  framesIn : after.stats.framesIn = before.stats.framesIn
  ingestDroppedOldest : after.stats.ingestDroppedOldest = before.stats.ingestDroppedOldest
  publishInvalid : after.stats.publishInvalid = before.stats.publishInvalid
  publishOversize : after.stats.publishOversize = before.stats.publishOversize

namespace SameIngest

variable {before middle after : NmeaBridge cfg}

theorem refl (bridge : NmeaBridge cfg) : SameIngest bridge bridge := ⟨rfl, rfl, rfl, rfl, rfl⟩

theorem trans (first : SameIngest before middle) (second : SameIngest middle after) :
    SameIngest before after where
  ingest := second.ingest.trans first.ingest
  framesIn := second.framesIn.trans first.framesIn
  ingestDroppedOldest := second.ingestDroppedOldest.trans first.ingestDroppedOldest
  publishInvalid := second.publishInvalid.trans first.publishInvalid
  publishOversize := second.publishOversize.trans first.publishOversize

theorem setSink (bridge : NmeaBridge cfg) (i : Fin cfg.nmeaSinksMax) (slot : SinkSlot cfg) :
    SameIngest bridge (bridge.setSink i slot) := ⟨rfl, rfl, rfl, rfl, rfl⟩

theorem dispatchSink (frame : NmeaFrame cfg) (state : NmeaBridge cfg × Bool)
    (i : Fin cfg.nmeaSinksMax) : SameIngest state.1 (dispatchSink frame state i).1 := by
  unfold EspNmeaBridge.dispatchSink
  dsimp only
  split_ifs
  · exact refl _
  · exact ⟨rfl, rfl, rfl, rfl, rfl⟩
  · exact ⟨rfl, rfl, rfl, rfl, rfl⟩

theorem foldl_dispatchSink (frame : NmeaFrame cfg) (slots : List (Fin cfg.nmeaSinksMax))
    (state : NmeaBridge cfg × Bool) :
    SameIngest state.1 (slots.foldl (EspNmeaBridge.dispatchSink frame) state).1 := by
  induction slots generalizing state with
  | nil => exact refl _
  | cons i slots ih => exact (dispatchSink frame state i).trans (ih _)

/-- Dispatching a frame is the business of the sinks. -/
theorem dispatchFrame (bridge : NmeaBridge cfg) (frame : NmeaFrame cfg) :
    SameIngest bridge (dispatchFrame bridge frame) := by
  have looped := foldl_dispatchSink frame (List.finRange cfg.nmeaSinksMax) (bridge, false)
  unfold EspNmeaBridge.dispatchFrame
  rcases folded : (List.finRange cfg.nmeaSinksMax).foldl (EspNmeaBridge.dispatchSink frame)
    (bridge, false) with ⟨bridge', any⟩
  rw [folded] at looped
  cases any with
  | false => exact looped.trans ⟨rfl, rfl, rfl, rfl, rfl⟩
  | true => exact looped

theorem sinkOpen (bridge : NmeaBridge cfg) : SameIngest bridge (nmeaBridgeSinkOpen bridge).1 := by
  rcases nmeaBridgeSinkOpen_cases bridge with ⟨i, -, opened⟩ | ⟨-, full⟩
  · rw [opened]
    exact setSink _ _ _
  · rw [full]
    exact refl _

theorem sinkClose (bridge : NmeaBridge cfg) (id : ℤ) :
    SameIngest bridge (nmeaBridgeSinkClose bridge id).1 := by
  unfold nmeaBridgeSinkClose
  split_ifs
  · exact refl _
  · exact setSink _ _ _

theorem getFromSink (bridge : NmeaBridge cfg) (i : Fin cfg.nmeaSinksMax) :
    SameIngest bridge (getFromSink bridge i).1 := by
  unfold EspNmeaBridge.getFromSink
  dsimp only
  split
  · exact refl _
  · exact setSink _ _ _

theorem sinkTake (bridge : NmeaBridge cfg) (id : ℤ) (wait : Bool) :
    SameIngest bridge (nmeaBridgeSinkTake bridge id wait).1 := by
  unfold nmeaBridgeSinkTake
  split
  · exact refl _
  · rename_i i _
    have taken := getFromSink bridge i
    split <;> rename_i found <;> rw [found] at taken <;> exact taken

end SameIngest

/-! ## What the steps of the accounts do -/

theorem ingestQueueDepth_pos (cfg : Kconfig) : 0 < cfg.ingestQueueDepth :=
  lt_of_lt_of_le Nat.two_pos cfg.ingestQueueDepth_range.1

/-- The checks of publishing let a frame through that has a byte and fits. -/
theorem acceptFrame_fits (bridge : NmeaBridge cfg) {data : Frame} (nonempty : 1 ≤ data.length)
    (fits : data.length ≤ cfg.nmeaFrameMaxLen) :
    acceptFrame bridge data =
      ({ bridge with stats := { bridge.stats with framesIn := bridge.stats.framesIn + 1 } },
        .ok ⟨data, fits⟩) := by
  rw [acceptFrame, if_neg (by omega), dif_pos fits]

/-- A frame that fits is accepted and counted; what it pushes out of the queue is, too. -/
theorem publishFrame_accounts (bridge : NmeaBridge cfg) {data : Frame} (nonempty : 1 ≤ data.length)
    (fits : data.length ≤ cfg.nmeaFrameMaxLen) :
    (nmeaBridgePublishFrame bridge data).1.stats.framesIn = bridge.stats.framesIn + 1 ∧
      (nmeaBridgePublishFrame bridge data).1.stats.publishInvalid =
        bridge.stats.publishInvalid ∧
      (nmeaBridgePublishFrame bridge data).1.stats.publishOversize =
        bridge.stats.publishOversize ∧
      ∃ out, (nmeaBridgePublishFrame bridge data).1.stats.ingestDroppedOldest =
          bridge.stats.ingestDroppedOldest + UInt32.ofNat out ∧
        (nmeaBridgePublishFrame bridge data).1.ingest.elements.length + out =
          bridge.ingest.elements.length + 1 := by
  obtain ⟨elements, counted⟩ := putDropOldest_spec (ingestQueueDepth_pos cfg) bridge.ingest
    ⟨data, fits⟩ bridge.stats.ingestDroppedOldest
  simp only [nmeaBridgePublishFrame, acceptFrame_fits bridge nonempty fits, true_and]
  refine ⟨_, counted, ?_⟩
  have held := bridge.ingest.fits
  rw [elements, List.length_drop, List.length_append, List.length_singleton]
  omega

/-- The dispatcher moves the oldest waiting frame, if there is one. -/
theorem dispatcherThread_accounts (bridge : NmeaBridge cfg) :
    (dispatcherThread bridge).1.stats.framesIn = bridge.stats.framesIn ∧
      (dispatcherThread bridge).1.stats.ingestDroppedOldest =
        bridge.stats.ingestDroppedOldest ∧
      (dispatcherThread bridge).1.stats.publishInvalid = bridge.stats.publishInvalid ∧
      (dispatcherThread bridge).1.stats.publishOversize = bridge.stats.publishOversize ∧
      (dispatcherThread bridge).1.ingest.elements.length +
          (dispatcherThread bridge).2.toList.length = bridge.ingest.elements.length := by
  unfold dispatcherThread
  rcases found : bridge.ingest.get with ⟨ingest, _ | frame⟩
  · exact ⟨rfl, rfl, rfl, rfl, rfl⟩
  · have same := SameIngest.dispatchFrame { bridge with ingest } frame
    refine ⟨same.framesIn, same.ingestDroppedOldest, same.publishInvalid, same.publishOversize,
      ?_⟩
    have elements := congrArg (fun got => got.1.elements) found
    have head := congrArg Prod.snd found
    dsimp only [BoundedFifo.get] at elements head
    dsimp only
    rw [same.ingest, ← elements, List.length_tail]
    have waiting := List.length_pos_of_mem (List.mem_of_head? head)
    simp only [Option.toList_some, List.length_singleton]
    omega

/-- A byte completes at most one frame, which is counted as the filter judged it. -/
theorem uartRxByte_accounts (rx : UartRx cfg) (ch : UInt8) :
    (uartRxByte rx ch).1.stats.framesRx =
        rx.stats.framesRx + UInt32.ofNat (uartRxByte rx ch).2.toList.length ∧
      (uartRxByte rx ch).1.stats.aisSelfMmsiFiltered = rx.stats.aisSelfMmsiFiltered +
        UInt32.ofNat ((uartRxByte rx ch).2.toList.countP (·.2)) ∧
      ∀ handed ∈ (uartRxByte rx ch).2, 1 ≤ handed.1.length ∧
        handed.1.length ≤ cfg.nmeaFrameMaxLen := by
  unfold uartRxByte
  dsimp only
  by_cases dropping : rx.counted.droppingOverlong = true
  · rw [if_pos dropping]
    split_ifs <;> simp [UartRx.counted, UartRx.emptied]
  · rw [if_neg dropping]
    by_cases room : rx.counted.frame.length < cfg.nmeaFrameMaxLen
    · rw [dif_pos room]
      split_ifs with ends
      · -- The frame holds the newline at least, and no more than the buffer.
        have bound := (rx.counted.stored room ch).frame_fits
        have nonempty : 1 ≤ (rx.counted.stored room ch).frame.length := by
          simp [UartRx.stored]
        unfold uartRxFrame
        dsimp only
        rcases aisMmsiFilterShouldDrop (rx.counted.stored room ch).aisFilter
            (rx.counted.stored room ch).frame with ⟨aisFilter, _ | _⟩ <;>
          simp [UartRx.emptied, nonempty, bound] <;> exact ⟨rfl, rfl⟩
      · simp [UartRx.counted, UartRx.stored]
    · rw [dif_neg room]
      simp [UartRx.counted, UartRx.emptied]

/-! ## Every step keeps the balance -/

section Balance

variable {events : List (FeedOp × FeedEvent cfg)} {feed : Feed cfg}

theorem dispatchedCount_snoc (events : List (FeedOp × FeedEvent cfg)) (op : FeedOp)
    (event : FeedEvent cfg) :
    dispatchedCount (events ++ [(op, event)]) =
      dispatchedCount events + event.dispatched.toList.length := by
  cases dispatched : event.dispatched <;>
    simp [dispatchedCount, List.countP_append, dispatched]

/-- A step that moves no frame and stores nothing. -/
theorem AccountsBalance.unmoved (balance : AccountsBalance events feed) {rx : UartRxMemory}
    {sys : BridgeSystem cfg} (op : FeedOp) (stats : rx.stats = feed.rx.stats)
    (same : SameIngest feed.sys.bridge sys.bridge) :
    AccountsBalance (events ++ [(op, ⟨[], none, none⟩)]) ⟨rx, sys⟩ where
  framesRx := by
    rw [stats, same.framesIn]
    exact balance.framesRx
  publishInvalid := same.publishInvalid.trans balance.publishInvalid
  publishOversize := same.publishOversize.trans balance.publishOversize
  framesIn := by
    rw [dispatchedCount_snoc, same.framesIn, same.ingestDroppedOldest, same.ingest]
    exact balance.framesIn
  published := List.forall_mem_append.mpr ⟨balance.published, by simp⟩
  stores := List.forall_mem_append.mpr ⟨balance.stores, by simp⟩

theorem AccountsBalance.dispatch (balance : AccountsBalance events feed) :
    AccountsBalance (events ++ [(.dispatch, (feedStep feed .dispatch).2)])
      (feedStep feed .dispatch).1 := by
  obtain ⟨framesIn, dropped, invalid, oversize, moved⟩ :=
    dispatcherThread_accounts feed.sys.bridge
  exact {
    framesRx := balance.framesRx.trans (by rw [← framesIn]; rfl)
    publishInvalid := invalid.trans balance.publishInvalid
    publishOversize := oversize.trans balance.publishOversize
    framesIn := by
      have counted := balance.framesIn
      rw [← moved, UInt32.ofNat_add] at counted
      rw [dispatchedCount_snoc, UInt32.ofNat_add]
      simp only [feedStep]
      rw [framesIn, dropped, counted]
      grind
    published := List.forall_mem_append.mpr ⟨balance.published, by simp [feedStep]⟩
    stores := List.forall_mem_append.mpr ⟨balance.stores, by simp [feedStep]⟩ }

section Received

variable {memory : UartRxMemory} {offsets : List ℕ}

/-- The reader received a byte; if it completed a frame, the filter took it. -/
theorem AccountsBalance.received (balance : AccountsBalance events feed) (op : FeedOp)
    (inside : ∀ offset ∈ offsets, offset < cfg.nmeaFrameMaxLen) {frames : UInt32}
    (framesRx : memory.stats.framesRx = feed.rx.stats.framesRx + frames)
    (filtered : memory.stats.aisSelfMmsiFiltered =
      feed.rx.stats.aisSelfMmsiFiltered + frames) :
    AccountsBalance (events ++ [(op, ⟨offsets, none, none⟩)]) ⟨memory, feed.sys⟩ where
  framesRx := by
    have earlier := balance.framesRx
    rw [framesRx, filtered, earlier]
    grind
  publishInvalid := balance.publishInvalid
  publishOversize := balance.publishOversize
  framesIn := by
    rw [dispatchedCount_snoc]
    exact balance.framesIn
  published := List.forall_mem_append.mpr ⟨balance.published, by simp⟩
  stores := List.forall_mem_append.mpr ⟨balance.stores, by simpa using inside⟩

/-- The reader completed a frame and published it. -/
theorem AccountsBalance.publishes (balance : AccountsBalance events feed) (op : FeedOp)
    (inside : ∀ offset ∈ offsets, offset < cfg.nmeaFrameMaxLen) {frame : Frame}
    (nonempty : 1 ≤ frame.length) (fits : frame.length ≤ cfg.nmeaFrameMaxLen)
    (framesRx : memory.stats.framesRx = feed.rx.stats.framesRx + 1)
    (filtered : memory.stats.aisSelfMmsiFiltered = feed.rx.stats.aisSelfMmsiFiltered) :
    AccountsBalance (events ++ [(op, ⟨offsets, some frame, none⟩)])
      ⟨memory, (bridgeStep feed.sys (.publish frame)).1⟩ := by
  obtain ⟨framesIn, invalid, oversize, out, dropped, waiting⟩ :=
    publishFrame_accounts feed.sys.bridge nonempty fits
  refine ⟨?_, invalid.trans balance.publishInvalid, oversize.trans balance.publishOversize, ?_,
    List.forall_mem_append.mpr ⟨balance.published, by simpa using ⟨nonempty, fits⟩⟩,
    List.forall_mem_append.mpr ⟨balance.stores, by simpa using inside⟩⟩
  · have earlier := balance.framesRx
    simp only [bridgeStep]
    rw [framesRx, filtered, framesIn, earlier]
    grind
  · have earlier := balance.framesIn
    have held := congrArg UInt32.ofNat waiting
    rw [UInt32.ofNat_add, UInt32.ofNat_add] at held
    rw [dispatchedCount_snoc]
    simp only [bridgeStep, Option.toList_none, List.length_nil, Nat.add_zero]
    rw [framesIn, dropped, earlier]
    grind

end Received

/-- A byte is received; a frame it completes is filtered or published. -/
theorem AccountsBalance.byte (balance : AccountsBalance events feed) {rx : UartRx cfg}
    (represents : feed.rx.Represents rx) (ch : UInt8) :
    AccountsBalance (events ++ [(.byte ch, (feedStep feed (.byte ch)).2)])
        (feedStep feed (.byte ch)).1 ∧
      (feedStep feed (.byte ch)).1.rx.Represents (uartRxByte rx ch).1 := by
  obtain ⟨represents', same, inside⟩ := represents.byte ch
  obtain ⟨framesRx, filtered, fits⟩ := uartRxByte_accounts rx ch
  rw [← represents'.stats, ← represents.stats, ← same] at framesRx filtered
  rw [← same] at fits
  rw [represents.size] at inside
  simp only [feedStep]
  rcases result : feed.rx.byte cfg.nmeaFrameMaxLen ch with
    ⟨memory, offsets, _ | ⟨frame, _ | _⟩⟩ <;>
    rw [result] at represents' framesRx filtered fits inside
  · exact ⟨balance.received _ inside framesRx filtered, represents'⟩
  · obtain ⟨nonempty, fits⟩ := fits (frame, false) rfl
    have unfiltered : memory.stats.aisSelfMmsiFiltered = feed.rx.stats.aisSelfMmsiFiltered :=
      filtered.trans (UInt32.add_zero _)
    exact ⟨balance.publishes _ inside nonempty fits framesRx unfiltered, represents'⟩
  · exact ⟨balance.received _ inside framesRx filtered, represents'⟩

theorem stats_applyAisConfigIfChanged_memory (rx : UartRxMemory) (mmsi : UInt32) :
    (rx.applyAisConfigIfChanged mmsi).stats = rx.stats := by
  unfold UartRxMemory.applyAisConfigIfChanged
  split_ifs <;> rfl

/-- Whatever comes next, the accounts balance again behind it. -/
theorem AccountsBalance.step (balance : AccountsBalance events feed)
    (represented : ∃ rx : UartRx cfg, feed.rx.Represents rx) (op : FeedOp) :
    AccountsBalance (events ++ [(op, (feedStep feed op).2)]) (feedStep feed op).1 ∧
      ∃ rx : UartRx cfg, (feedStep feed op).1.rx.Represents rx := by
  obtain ⟨rx, represents⟩ := represented
  cases op with
  | applyAisConfig mmsi =>
    exact ⟨balance.unmoved _ (stats_applyAisConfigIfChanged_memory _ _) (SameIngest.refl _), _,
      represents.applyAisConfigIfChanged mmsi⟩
  | byte ch =>
    obtain ⟨balanced, represents'⟩ := balance.byte represents ch
    exact ⟨balanced, _, represents'⟩
  | dispatch => exact ⟨balance.dispatch, rx, represents⟩
  | sinkOpen handle =>
    exact ⟨balance.unmoved _ rfl (SameIngest.sinkOpen _), rx, represents⟩
  | sinkClose handle =>
    exact ⟨balance.unmoved _ rfl (SameIngest.sinkClose _ _), rx, represents⟩
  | sinkTake handle wait =>
    exact ⟨balance.unmoved _ rfl (SameIngest.sinkTake _ _ _), rx, represents⟩

end Balance

/-- After every run of received bytes, AIS settings, dispatches and sink calls the accounts
of reader and bridge balance. -/
theorem feed_accounts_balance (stack : CharArray cfg.nmeaFrameMaxLen) (ops : List FeedOp) :
    AccountsBalance (feedHistory stack ops) (feedAfter stack ops) := by
  have start : AccountsBalance [] (feedInit stack) :=
    ⟨rfl, rfl, rfl, rfl, by simp, by simp⟩
  have balanced : AccountsBalance (feedHistory stack ops) (feedAfter stack ops) ∧
      ∃ rx : UartRx cfg, (feedAfter stack ops).rx.Represents rx := by
    induction ops using List.reverseRecOn with
    | nil => exact ⟨start, uartRxInit, represents_init stack⟩
    | append_singleton ops op ih =>
      rw [feedHistory, feedAfter, trace_snoc, stateAfter_snoc]
      exact ih.1.step ih.2 op
  exact balanced.1

end EspNmeaBridge
