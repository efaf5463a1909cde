/-
# The reader's accounts among all threads

The counters of received, filtered and published frames are written by the reader
alone. Whichever threads run in between, and even while a frame is on its way into
the ingest queue, they agree after every byte.
-/

import EspNmeaBridge.NmeaBridge.Accounting
import EspNmeaBridge.Pipeline

namespace EspNmeaBridge

open CString Transitions

variable {cfg : Kconfig}

/-- Every frame handed to the filter was taken or published, and no publication refused. -/
structure ReaderAccounts (sys : Pipeline cfg) : Prop where
  framesRx : sys.rx.stats.framesRx =
    sys.rx.stats.aisSelfMmsiFiltered + sys.bridge.stats.framesIn
  publishInvalid : sys.bridge.stats.publishInvalid = 0
  publishOversize : sys.bridge.stats.publishOversize = 0
  handed : ∀ line ∈ sys.handed, 1 ≤ line.1.length ∧ line.1.length ≤ cfg.nmeaFrameMaxLen

/-- The counters of the reader and of publishing are the same. -/
structure SameReaderCounts (sys next : Pipeline cfg) : Prop where
  rxStats : next.rx.stats = sys.rx.stats
  framesIn : next.bridge.stats.framesIn = sys.bridge.stats.framesIn
  publishInvalid : next.bridge.stats.publishInvalid = sys.bridge.stats.publishInvalid
  publishOversize : next.bridge.stats.publishOversize = sys.bridge.stats.publishOversize
  handed : next.handed = sys.handed

section Steps

variable {sys next : Pipeline cfg} {s : ℕ}

theorem SameReaderCounts.accounts (same : SameReaderCounts sys next)
    (accounts : ReaderAccounts sys) : ReaderAccounts next where
  framesRx := by
    rw [same.rxStats, same.framesIn]
    exact accounts.framesRx
  publishInvalid := same.publishInvalid.trans accounts.publishInvalid
  publishOversize := same.publishOversize.trans accounts.publishOversize
  handed := by
    rw [same.handed]
    exact accounts.handed

/-- A step of a session, perhaps on its sink. -/
theorem SameIngest.session {bridge : NmeaBridge cfg} (same : SameIngest sys.bridge bridge)
    (session : Session cfg) :
    SameReaderCounts sys ({ sys with bridge }.setSession s session) :=
  ⟨rfl, same.framesIn, same.publishInvalid, same.publishOversize, rfl⟩

theorem sameCounts_rxLoopHead (step : sys.rxLoopHead = some next) :
    SameReaderCounts sys next := by
  obtain ⟨-, rfl⟩ := Pipeline.rxLoopHead_cases step
  exact ⟨stats_applyAisConfigIfChanged _ _, rfl, rfl, rfl, rfl⟩

theorem sameCounts_rxPut (step : sys.rxPut = some next) : SameReaderCounts sys next := by
  obtain ⟨frame, phase, ingest, dropped, goesOn, -, -, rfl⟩ := Pipeline.rxPut_cases step
  exact ⟨rfl, rfl, rfl, rfl, rfl⟩

theorem sameCounts_dispatcherGet (step : sys.dispatcherGet = some next) :
    SameReaderCounts sys next := by
  obtain ⟨ingest, frame, -, -, rfl⟩ := Pipeline.dispatcherGet_cases step
  exact ⟨rfl, rfl, rfl, rfl, rfl⟩

theorem sameCounts_dispatcherLock (step : sys.dispatcherLock = some next) :
    SameReaderCounts sys next := by
  obtain ⟨frame, -, rfl⟩ := Pipeline.dispatcherLock_cases step
  exact ⟨rfl, rfl, rfl, rfl, rfl⟩

/-- Visiting a slot counts what its sink drops, at most. -/
theorem sameCounts_scanSlot (frame : NmeaFrame cfg) (i : Fin cfg.nmeaSinksMax) (any : Bool)
    (phase : PutPhase) (before : UInt32) :
    SameReaderCounts sys (sys.scanSlot frame i any phase before) := by
  unfold Pipeline.scanSlot
  dsimp only
  split
  · exact ⟨rfl, rfl, rfl, rfl, rfl⟩
  · split_ifs <;> exact ⟨rfl, rfl, rfl, rfl, rfl⟩

theorem sameCounts_dispatcherScan (step : sys.dispatcherScan = some next) :
    SameReaderCounts sys next := by
  obtain ⟨frame, slot, any, phase, before, -, ⟨_, -, -, rfl⟩ | ⟨_, -, rfl⟩ | ⟨-, _, -, rfl⟩⟩ :=
    Pipeline.dispatcherScan_cases step
  · exact ⟨rfl, rfl, rfl, rfl, rfl⟩
  · exact sameCounts_scanSlot _ _ _ _ _
  · exact ⟨rfl, rfl, rfl, rfl, rfl⟩

theorem sameCounts_sessionOpen (step : sys.sessionOpen s = some next) :
    SameReaderCounts sys next := by
  obtain ⟨-, -, ⟨i, -, rfl⟩ | ⟨-, rfl⟩⟩ := Pipeline.sessionOpen_cases step
  · exact (SameIngest.setSink sys.bridge i _).session _
  · exact (SameIngest.refl sys.bridge).session _

theorem sameCounts_sessionGet (step : sys.sessionGet s = some next) :
    SameReaderCounts sys next := by
  obtain ⟨i, bridge, frame, -, got, rfl⟩ := Pipeline.sessionGet_cases step
  have same := SameIngest.getFromSink sys.bridge i
  rw [got] at same
  exact same.session _

theorem sameCounts_sessionClose (step : sys.sessionClose s = some next) :
    SameReaderCounts sys next := by
  obtain ⟨result, bridge, sinkId, -, -, closed, rfl⟩ := Pipeline.sessionClose_cases step
  have same := SameIngest.sinkClose sys.bridge (sys.sessions s).sinkId
  rw [closed] at same
  exact same.session _

/-- A polled byte: a frame the filter passes fits the bridge and is accepted. -/
theorem ReaderAccounts.rxByte (accounts : ReaderAccounts sys) {ch : UInt8}
    (step : sys.rxByte ch = some next) : ReaderAccounts next := by
  obtain ⟨framesRx, filtered, fits⟩ := uartRxByte_accounts sys.rx ch
  obtain ⟨-, rx, handed, received, result, rfl, moved⟩ := Pipeline.rxByte_cases step
  have earlier := accounts.framesRx
  rw [result] at framesRx filtered fits
  have handedOn : ∀ line ∈ sys.handed ++ handed.toList,
      1 ≤ line.1.length ∧ line.1.length ≤ cfg.nmeaFrameMaxLen :=
    List.forall_mem_append.mpr ⟨accounts.handed, fun line new => fits line (by simpa using new)⟩
  rcases moved with ⟨unpublished, rfl⟩ | ⟨frame, bridge, err, rfl, refused, rfl⟩ |
    ⟨frame, bridge, published, rfl, accepted, rfl⟩
  · -- Every frame that comes with the byte is taken by the filter.
    refine ⟨?_, accounts.publishInvalid, accounts.publishOversize, handedOn⟩
    rcases handed with _ | ⟨frame, _ | _⟩
    · exact framesRx.trans (by rw [filtered, earlier]; grind)
    · exact absurd rfl (unpublished frame)
    · exact framesRx.trans (by rw [filtered, earlier]; simp; grind)
  · -- A frame of the reader is never refused.
    obtain ⟨nonempty, fit⟩ := fits (frame, false) rfl
    rw [acceptFrame_fits sys.bridge nonempty fit] at refused
    cases refused
  · -- Publishing counts the frame although its put into the ingest queue is still to come.
    obtain ⟨nonempty, fit⟩ := fits (frame, false) rfl
    rw [acceptFrame_fits sys.bridge nonempty fit] at accepted
    obtain ⟨rfl, -⟩ := Prod.mk.inj accepted
    refine ⟨framesRx.trans ?_, accounts.publishInvalid, accounts.publishOversize, handedOn⟩
    rw [filtered, earlier]
    simp
    grind

/-- Whichever thread steps next. -/
theorem ReaderAccounts.step (accounts : ReaderAccounts sys) {label : PipelineLabel}
    (step : pipelineStep sys label = some next) : ReaderAccounts next := by
  cases label with
  | setAisConfig filterEnabled ownMmsi =>
    obtain rfl := Option.some.inj step
    exact ⟨accounts.framesRx, accounts.publishInvalid, accounts.publishOversize,
      accounts.handed⟩
  | rxLoopHead => exact (sameCounts_rxLoopHead step).accounts accounts
  | rxByte ch => exact accounts.rxByte step
  | rxPut => exact (sameCounts_rxPut step).accounts accounts
  | dispatcherGet => exact (sameCounts_dispatcherGet step).accounts accounts
  | dispatcherLock => exact (sameCounts_dispatcherLock step).accounts accounts
  | dispatcherScan => exact (sameCounts_dispatcherScan step).accounts accounts
  | sessionOpen t => exact (sameCounts_sessionOpen step).accounts accounts
  | sessionRecv t result =>
    obtain ⟨session, -, rfl⟩ := Option.map_eq_some_iff.mp step
    exact ((SameIngest.refl sys.bridge).session session).accounts accounts
  | sessionCheck t =>
    obtain ⟨-, session, -, rfl⟩ := Pipeline.sessionCheck_cases step
    exact ((SameIngest.refl sys.bridge).session session).accounts accounts
  | sessionGet t => exact (sameCounts_sessionGet step).accounts accounts
  | sessionSend t result =>
    obtain ⟨session, -, rfl⟩ := Option.map_eq_some_iff.mp step
    exact ((SameIngest.refl sys.bridge).session session).accounts accounts
  | sessionClose t => exact (sameCounts_sessionClose step).accounts accounts

end Steps

/-- The accounts of reader and bridge balance: the reader's own under every schedule of the
threads, and all of them when publishing and dispatching are single steps. -/
theorem accounts_balance (cfg : Kconfig) :
    (∀ (labels : List PipelineLabel) (sys : Pipeline cfg),
      run pipelineStep pipelineInit labels = some sys → ReaderAccounts sys) ∧
    ∀ (stack : CharArray cfg.nmeaFrameMaxLen) (ops : List FeedOp),
      AccountsBalance (feedHistory stack ops) (feedAfter stack ops) := by
  refine ⟨fun labels sys ran => ?_, feed_accounts_balance⟩
  have start : ReaderAccounts (pipelineInit : Pipeline cfg) :=
    ⟨rfl, rfl, rfl, by simp [pipelineInit]⟩
  exact Transitions.invariant (fun _ _ _ accounts step => accounts.step step) start ran

/-- A line is received, and the dispatcher takes it between the put and the next byte. -/
theorem accounts_balance_oneLine :
    ReaderAccounts ((run pipelineStep (pipelineInit : Pipeline prjConf)
      [.rxByte 0x41, .rxByte newline, .rxPut, .dispatcherGet, .rxByte 0x42]).get (by decide)) :=
  (accounts_balance prjConf).1 _ _ (Option.some_get _).symm

end EspNmeaBridge
