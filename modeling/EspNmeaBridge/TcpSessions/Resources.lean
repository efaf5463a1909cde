/-
# No session resource leaks or runs out

Two accounts are kept over every run. An accepted descriptor is in the server thread's
hands, or in one slot, or closed once; and an open sink is in the hands of one thread that
is inside `tcp_nmea_session_run`. There are no more such threads than taken slots and the
client, and the build reserves a sink for each of them: a session that opens its sink finds
one.
-/

import EspNmeaBridge.Lib.OpenLedger
import EspNmeaBridge.Pipeline.SinkCustody
import EspNmeaBridge.TcpNmeaServer.FdCustody
import EspNmeaBridge.TcpSessions

namespace EspNmeaBridge

open Transitions (run)

variable {cfg : Kconfig}

/-- The accept an open descriptor came from. -/
def TcpSessions.acceptOf (sys : TcpSessions cfg) (fd : ℕ) : Option ℕ :=
  match sys.descriptors fd with
  | some (.accepted accept) => some accept
  | _ => none

theorem TcpSessions.acceptOf_eq_some {sys : TcpSessions cfg} {fd accept : ℕ} :
    sys.acceptOf fd = some accept ↔ sys.descriptors fd = some (.accepted accept) := by
  unfold TcpSessions.acceptOf
  split <;> simp_all

/-! ## The account of descriptors -/

/-- The descriptors that accepts returned and nobody closed are in exactly one pair of hands
each, and the others were closed once. -/
structure DescriptorsAccounted (sys : TcpSessions cfg) : Prop where
  fds : FdInvariant sys.server
  hands : ExclusiveCustody sys.server.holds fun fd => sys.acceptOf fd ≠ none
  ledger : OpenLedger sys.acceptOf sys.accepts sys.closes
  stray : sys.strayCloses = 0

/-- Two states of the world with the same descriptors and the same account of them. -/
structure SameLedger (sys other : TcpSessions cfg) : Prop where
  descriptors : sys.descriptors = other.descriptors
  accepts : sys.accepts = other.accepts
  closes : sys.closes = other.closes
  stray : sys.strayCloses = other.strayCloses

theorem descriptorsAccounted_start (cfg : Kconfig) (others : Finset ℕ) :
    DescriptorsAccounted (tcpSessionsStart cfg others) := by
  have nothing (fd : ℕ) : (tcpSessionsStart cfg others).acceptOf fd = none := by
    unfold TcpSessions.acceptOf tcpSessionsStart
    by_cases member : fd ∈ others <;> simp [member]
  refine ⟨peerStart_fdInvariant _, ?_, OpenLedger.blank.congr nothing, rfl⟩
  refine ExclusiveCustody.nobody.congr (fun who => ?_) fun fd => by simp [nothing]
  cases who <;> rfl

section Descriptors

variable {sys after : TcpSessions cfg} {server : PeerWorld cfg.tcpNmeaServerMaxPeers}

/-- Hands pass descriptors on, and the descriptors stay what they are. -/
theorem DescriptorsAccounted.of_sameLedger (accounted : DescriptorsAccounted sys)
    (same : SameLedger after sys) (fds : FdInvariant server)
    (hands : ExclusiveCustody server.holds fun fd => sys.acceptOf fd ≠ none) :
    DescriptorsAccounted { after with server } := by
  obtain ⟨descriptors, accepts, closes, stray⟩ := same
  have acceptOf (fd : ℕ) : TcpSessions.acceptOf { after with server } fd = sys.acceptOf fd := by
    simp only [TcpSessions.acceptOf, descriptors]
  refine ⟨fds, hands.congr (fun _ => rfl) fun fd => by rw [acceptOf], ?_,
    stray.trans accounted.stray⟩
  have ledger := accounted.ledger.congr acceptOf
  rw [← accepts, ← closes] at ledger
  exact ledger

theorem sessionReturns_sameLedger {caller : SessionCaller cfg}
    (returned : sys.sessionReturns caller = some after) : SameLedger after sys := by
  obtain ⟨session, result, -, -, rfl⟩ := TcpSessions.sessionReturns_cases returned
  exact ⟨rfl, rfl, rfl, rfl⟩

theorem sessionReturns_server {caller : SessionCaller cfg}
    (returned : sys.sessionReturns caller = some after) : after.server = sys.server := by
  obtain ⟨session, result, -, -, rfl⟩ := TcpSessions.sessionReturns_cases returned
  rfl

/-- Outside `zsock_accept`, what happens to the descriptors is the close of one, if any. -/
theorem serverCall_sameLedger {label : PeerLabel cfg.tcpNmeaServerMaxPeers}
    (called : sys.serverCall label = some after) (accepts : ∀ fd, label ≠ .accept (some fd)) :
    SameLedger after (sys.zsockClose (sys.server.closes label)) := by
  cases label with
  | accept fd =>
    cases fd with
    | none =>
      obtain rfl := Option.some.inj called
      exact ⟨rfl, rfl, rfl, rfl⟩
    | some fd => exact absurd rfl (accepts fd)
  | server =>
    obtain rfl := Option.some.inj called
    exact ⟨rfl, rfl, rfl, rfl⟩
  | peer peer =>
    simp only [TcpSessions.serverCall, PeerWorld.closes] at called ⊢
    cases at_ : (sys.server.peers peer).thread with
    | created =>
      simp only [at_, Option.some.injEq] at called
      subst called
      exact ⟨rfl, rfl, rfl, rfl⟩
    -- The session has returned, and its thread is about to close the descriptor.
    | session fd =>
      simp only [at_] at called
      exact sessionReturns_sameLedger called
    | _ =>
      simp only [at_, Option.some.injEq] at called
      subst called
      exact ⟨rfl, rfl, rfl, rfl⟩

/-- What is not accepted anew is open, or not, as before. -/
theorem acceptOf_update {fd : ℕ} {descriptor : Option Descriptor}
    (updated : after.descriptors = Function.update sys.descriptors fd descriptor) {other : ℕ}
    (apart : other ≠ fd) : after.acceptOf other = sys.acceptOf other := by
  simp only [TcpSessions.acceptOf, updated, Function.update_of_ne apart]

/-- A connection is accepted. -/
theorem DescriptorsAccounted.accept (accounted : DescriptorsAccounted sys) {fd : ℕ}
    (called : sys.accept (some fd) = some after) (fds : FdInvariant server)
    (free : sys.server.holds none = none) (has : server.holds none = some fd)
    (others : ∀ who ≠ none, server.holds who = sys.server.holds who) :
    DescriptorsAccounted { after with server } := by
  simp only [TcpSessions.accept, Option.ite_none_right_eq_some, Option.some.injEq] at called
  obtain ⟨unused, rfl⟩ := called
  have notOpen : sys.acceptOf fd = none := by
    simp [TcpSessions.acceptOf, unused]
  -- The new descriptor carries the number of its accept.
  have here : TcpSessions.acceptOf { sys with
      server
      descriptors := Function.update sys.descriptors fd (some (.accepted sys.accepts))
      accepts := sys.accepts + 1 } fd = some sys.accepts := by
    simp [TcpSessions.acceptOf]
  refine ⟨fds, ?_, ?_, accounted.stray⟩
  · refine accounted.hands.take (by simpa using notOpen) free has others fun other => ?_
    by_cases same : other = fd
    · subst same
      simp [here]
    · rw [acceptOf_update rfl same]
      simp [same]
  · exact accounted.ledger.entry notOpen here fun other apart => acceptOf_update rfl apart

/-- Who has a descriptor closes it. -/
theorem DescriptorsAccounted.close (accounted : DescriptorsAccounted sys) {fd : ℕ}
    {who : Option (Fin cfg.tcpNmeaServerMaxPeers)}
    (same : SameLedger after (sys.zsockClose (some fd))) (fds : FdInvariant server)
    (had : sys.server.holds who = some fd) (gone : server.holds who = none)
    (others : ∀ other ≠ who, server.holds other = sys.server.holds other) :
    DescriptorsAccounted { after with server } := by
  obtain ⟨accept, is⟩ := Option.ne_none_iff_exists'.mp (accounted.hands.opened who fd had)
  have isOpen := TcpSessions.acceptOf_eq_some.mp is
  -- the number stands for the accepted descriptor, so that is what the call closes
  have closed : sys.zsockClose (some fd) = { sys with
      descriptors := Function.update sys.descriptors fd none
      closes := Function.update sys.closes accept (sys.closes accept + 1) } := by
    simp only [TcpSessions.zsockClose, isOpen]
  rw [closed] at same
  obtain ⟨descriptors, accepts, closes, stray⟩ := same
  have here : TcpSessions.acceptOf { after with server } fd = none := by
    simp [TcpSessions.acceptOf, descriptors]
  have elsewhere (other : ℕ) (apart : other ≠ fd) :
      TcpSessions.acceptOf { after with server } other = sys.acceptOf other :=
    acceptOf_update descriptors apart
  refine ⟨fds, ?_, ?_, stray.trans accounted.stray⟩
  · refine accounted.hands.drop had gone others fun other => ?_
    by_cases apart : other = fd
    · subst apart
      simp [here]
    · rw [elsewhere other apart]
      simp [apart]
  · have ledger := accounted.ledger.close is here elsewhere
    rw [← show after.accepts = sys.accepts from accepts,
      ← show after.closes = Function.update sys.closes accept (sys.closes accept + 1)
        from closes] at ledger
    exact ledger

theorem DescriptorsAccounted.serverStep (accounted : DescriptorsAccounted sys)
    {label : PeerLabel cfg.tcpNmeaServerMaxPeers}
    (stepped : peerStep sys.server label = some server)
    (called : sys.serverCall label = some after) : DescriptorsAccounted { after with server } := by
  have fds := accounted.fds.step stepped
  -- a step that closes nothing leaves the ledger alone
  have quiet (accepts : ∀ fd, label ≠ .accept (some fd)) (closes : sys.server.closes label = none) :
      SameLedger after sys := by
    have same := serverCall_sameLedger called accepts
    rwa [closes] at same
  cases peerStep_hands accounted.fds stepped with
  | unchanged accepts closes same =>
    exact accounted.of_sameLedger (quiet accepts closes) fds
      (accounted.hands.congr same fun _ => Iff.rfl)
  | took fd accepts free has others =>
    subst accepts
    exact accounted.accept called fds free has others
  | gave fd peer acts closes had free gave got others =>
    subst acts
    exact accounted.of_sameLedger (quiet (fun _ => nofun) closes) fds
      (accounted.hands.pass had free gave got others)
  | dropped who fd closes had gone others =>
    have accepts : ∀ fd, label ≠ .accept (some fd) := by
      rintro fd rfl
      cases closes
    have same := serverCall_sameLedger called accepts
    rw [closes] at same
    exact accounted.close same fds had gone others

/-- Other threads open and close what is theirs. -/
theorem DescriptorsAccounted.others (accounted : DescriptorsAccounted sys) {fd : ℕ}
    {descriptor : Option Descriptor} (unaccepted : sys.acceptOf fd = none)
    (theirs : descriptor = none ∨ descriptor = some .other) :
    DescriptorsAccounted
      { sys with descriptors := Function.update sys.descriptors fd descriptor } := by
  have same (other : ℕ) : TcpSessions.acceptOf
      { sys with descriptors := Function.update sys.descriptors fd descriptor } other =
        sys.acceptOf other := by
    by_cases here : other = fd
    · subst here
      rw [unaccepted]
      rcases theirs with rfl | rfl <;> simp [TcpSessions.acceptOf]
    · exact acceptOf_update rfl here
  exact ⟨accounted.fds, accounted.hands.congr (fun _ => rfl) fun other => by rw [same],
    accounted.ledger.congr same, accounted.stray⟩

end Descriptors

/-! ## The account of sinks -/

/-- The running sessions are called by one thread each: the client's, or one on a slot that
is inside `tcp_nmea_session_run`. -/
structure SessionsAccounted (sys : TcpSessions cfg) : Prop where
  sinks : SinkCustody sys.pipeline
  recent : ∀ caller s, sys.calls caller = some s → s < sys.called
  alone : ∀ caller caller' s, sys.calls caller = some s → sys.calls caller' = some s →
    caller = caller'
  calling : ∀ s, (sys.pipeline.sessions s).phase.running = true →
    ∃ caller, sys.calls caller = some s
  inSession : ∀ peer s, sys.calls (some peer) = some s →
    ∃ fd, (sys.server.peers peer).thread = .session fd
  serverOff : cfg.tcpNmeaServerEnable = false → ∀ peer, sys.calls (some peer) = none

theorem sessionsAccounted_start (cfg : Kconfig) (others : Finset ℕ) :
    SessionsAccounted (tcpSessionsStart cfg others) where
  sinks := sinkCustody_init
  recent _ _ := nofun
  alone _ _ _ := nofun
  calling _ running := by simp [tcpSessionsStart, pipelineInit, sessionIdle,
    SessionPhase.running] at running
  inSession _ _ := nofun
  serverOff _ _ := rfl

section Sessions

variable {sys after : TcpSessions cfg}

/-- Who has which sink: a thread has that of the session it called. -/
def TcpSessions.sinkOf (sys : TcpSessions cfg) (caller : SessionCaller cfg) :
    Option (Fin cfg.nmeaSinksMax) :=
  (sys.calls caller).bind fun s => (sys.pipeline.sessions s).sink

theorem SessionsAccounted.sinkCallers (accounted : SessionsAccounted sys) :
    ExclusiveCustody sys.sinkOf fun i => (sys.pipeline.bridge.sinks i).active = true := by
  refine accounted.sinks.exclusive.comp accounted.alone fun s has => accounted.calling s ?_
  by_contra parked
  exact has (accounted.sinks.parked s (Bool.eq_false_iff.mpr parked))

/-- The threads that can be inside `tcp_nmea_session_run` in this build. -/
def sessionCallers (cfg : Kconfig) : Finset (SessionCaller cfg) :=
  if cfg.tcpNmeaServerEnable then Finset.univ else {none}

/-- The build reserves a sink for each of them. -/
theorem card_sessionCallers (cfg : Kconfig) : (sessionCallers cfg).card ≤ cfg.nmeaSinksMax := by
  have cover := cfg.sinks_cover
  unfold sessionCallers
  split_ifs at cover ⊢
  · simpa using cover
  · simpa using cover

theorem SessionsAccounted.mem_callers (accounted : SessionsAccounted sys)
    {caller : SessionCaller cfg} (calls : sys.calls caller ≠ none) :
    caller ∈ sessionCallers cfg := by
  unfold sessionCallers
  split_ifs with enabled
  · exact Finset.mem_univ caller
  · cases caller with
    | none => exact Finset.mem_singleton_self none
    | some peer => exact absurd (accounted.serverOff (by simpa using enabled) peer) calls

/-- A session that is about to open its sink finds one. -/
theorem SessionsAccounted.sink_left (accounted : SessionsAccounted sys)
    {caller : SessionCaller cfg} {s : ℕ} (call : sys.calls caller = some s)
    (idle : (sys.pipeline.sessions s).phase = .idle) :
    (nmeaBridgeSinkOpen sys.pipeline.bridge).2 ≠ none := by
  rcases nmeaBridgeSinkOpen_cases sys.pipeline.bridge with ⟨i, -, opened⟩ | ⟨allActive, -⟩
  · rw [opened]
    exact Option.some_ne_none i
  · -- the caller has no sink yet, so the others would have to share what is left
    exfalso
    have member : caller ∈ sessionCallers cfg :=
      accounted.mem_callers (by rw [call]; exact Option.some_ne_none s)
    have no_sink : sys.sinkOf caller = none := by
      rw [TcpSessions.sinkOf, call]
      exact accounted.sinks.parked s (by rw [idle]; rfl)
    have counted := accounted.sinkCallers.card_le ((sessionCallers cfg).erase caller)
      fun other has => by
        refine Finset.mem_erase.mpr ⟨fun same => has (same ▸ no_sink), ?_⟩
        refine accounted.mem_callers fun uncalled => has ?_
        rw [TcpSessions.sinkOf, uncalled]
        rfl
    rw [Finset.card_erase_of_mem member, Finset.filter_true_of_mem fun i _ => allActive i,
      Finset.card_univ, Fintype.card_fin] at counted
    have enough := card_sessionCallers cfg
    have positive := cfg.nmeaSinksMax_range.1
    omega

/-- There are no more open sinks than taken slots and the client. -/
theorem SessionsAccounted.card_sinks (accounted : SessionsAccounted sys)
    (slots : SlotInvariant sys.server) :
    (Finset.univ.filter fun i => (sys.pipeline.bridge.sinks i).active = true).card ≤
      (Finset.univ.filter fun peer => (sys.server.peers peer).active = true).card + 1 := by
  rw [← Finset.card_insertNone]
  refine accounted.sinkCallers.card_le _ fun caller has => ?_
  cases caller with
  | none => exact Finset.none_mem_insertNone
  | some peer =>
    obtain ⟨s, call⟩ := Option.ne_none_iff_exists'.mp fun uncalled : sys.calls (some peer) = none =>
      has (by rw [TcpSessions.sinkOf, uncalled]; rfl)
    obtain ⟨fd, inside⟩ := accounted.inSession peer s call
    have active := (slots.taken peer).resolve_right
      (by simp [inside, PeerThread.ended, PeerThread.leaving])
    exact Finset.some_mem_insertNone.mpr (Finset.mem_filter.mpr ⟨Finset.mem_univ peer, active⟩)

/-! ### Steps -/

variable {server : PeerWorld cfg.tcpNmeaServerMaxPeers}

/-- Two states of the world with the same sessions and the same calls of them. -/
structure SameCalls (sys other : TcpSessions cfg) : Prop where
  pipeline : sys.pipeline = other.pipeline
  calls : sys.calls = other.calls
  called : sys.called = other.called

theorem zsockClose_sameCalls (sys : TcpSessions cfg) (fd : Option ℕ) :
    SameCalls (sys.zsockClose fd) sys := by
  cases fd with
  | none => exact ⟨rfl, rfl, rfl⟩
  | some fd =>
    unfold TcpSessions.zsockClose
    dsimp only
    split <;> exact ⟨rfl, rfl, rfl⟩

theorem accept_sameCalls {fd : Option ℕ} (called : sys.accept fd = some after) :
    SameCalls after sys := by
  cases fd with
  | none =>
    obtain rfl := Option.some.inj called
    exact ⟨rfl, rfl, rfl⟩
  | some fd =>
    simp only [TcpSessions.accept, Option.ite_none_right_eq_some, Option.some.injEq] at called
    obtain ⟨-, rfl⟩ := called
    exact ⟨rfl, rfl, rfl⟩

theorem SessionsAccounted.of_sameCalls (accounted : SessionsAccounted sys)
    (same : SameCalls after sys)
    (inSession : ∀ peer s, sys.calls (some peer) = some s →
      ∃ fd, (server.peers peer).thread = .session fd) :
    SessionsAccounted { after with server } := by
  obtain ⟨pipeline, calls, called⟩ := same
  refine ⟨?_, ?_, ?_, ?_, ?_, ?_⟩ <;> dsimp only
  · rw [pipeline]
    exact accounted.sinks
  · rw [calls, called]
    exact accounted.recent
  · rw [calls]
    exact accounted.alone
  · rw [pipeline, calls]
    exact accounted.calling
  · rw [calls]
    exact inSession
  · rw [calls]
    exact accounted.serverOff

theorem SessionsAccounted.sessionStarts (accounted : SessionsAccounted sys)
    {caller : SessionCaller cfg} (free : sys.calls caller = none)
    (enabled : ∀ peer, caller = some peer → cfg.tcpNmeaServerEnable = true)
    (inSession : ∀ peer s, sys.calls (some peer) = some s ∨ caller = some peer →
      ∃ fd, (server.peers peer).thread = .session fd) :
    SessionsAccounted { sys.sessionStarts caller with server } where
  sinks := accounted.sinks
  recent other s call := by
    simp only [TcpSessions.sessionStarts, Function.update_apply] at call ⊢
    split_ifs at call
    · obtain rfl := Option.some.inj call
      exact Nat.lt_succ_self _
    · exact Nat.lt_succ_of_lt (accounted.recent other s call)
  alone first second s call call' := by
    simp only [TcpSessions.sessionStarts, Function.update_apply] at call call'
    -- the session of the new call is one that nobody called before
    split_ifs at call call' with here here' here'
    · rw [here, here']
    · obtain rfl := Option.some.inj call
      exact absurd (accounted.recent second _ call') (lt_irrefl _)
    · obtain rfl := Option.some.inj call'
      exact absurd (accounted.recent first _ call) (lt_irrefl _)
    · exact accounted.alone first second s call call'
  calling s running := by
    obtain ⟨other, call⟩ := accounted.calling s running
    refine ⟨other, ?_⟩
    have apart : other ≠ caller := by
      rintro rfl
      rw [free] at call
      cases call
    simpa only [TcpSessions.sessionStarts, Function.update_of_ne apart] using call
  inSession peer s call := by
    simp only [TcpSessions.sessionStarts, Function.update_apply] at call
    split_ifs at call with here
    · exact inSession peer s (.inr here.symm)
    · exact inSession peer s (.inl call)
  serverOff off peer := by
    have apart : some peer ≠ caller := by
      rintro rfl
      simp [enabled peer rfl] at off
    simpa only [TcpSessions.sessionStarts, Function.update_of_ne apart]
      using accounted.serverOff off peer

theorem SessionsAccounted.sessionReturns (accounted : SessionsAccounted sys)
    {caller : SessionCaller cfg} (returned : sys.sessionReturns caller = some after)
    (inSession : ∀ peer s, some peer ≠ caller → sys.calls (some peer) = some s →
      ∃ fd, (server.peers peer).thread = .session fd) :
    SessionsAccounted { after with server } := by
  obtain ⟨session, result, call, ended, rfl⟩ := TcpSessions.sessionReturns_cases returned
  -- only calls go, so each that is left was there before
  have earlier {other : SessionCaller cfg} {s : ℕ}
      (left : Function.update sys.calls caller none other = some s) :
      other ≠ caller ∧ sys.calls other = some s := by
    rw [Function.update_apply] at left
    split_ifs at left with here
    exact ⟨here, left⟩
  refine ⟨accounted.sinks, fun other s left => accounted.recent other s (earlier left).2,
    fun first second s left left' => accounted.alone first second s (earlier left).2
      (earlier left').2, fun s running => ?_,
    fun peer s left => inSession peer s (earlier left).1 (earlier left).2, fun off peer => ?_⟩
  · obtain ⟨other, called⟩ := accounted.calling s running
    have apart : other ≠ caller := by
      rintro rfl
      obtain rfl := Option.some.inj (call.symm.trans called)
      simp [ended, SessionPhase.running] at running
    exact ⟨other, by simpa only [Function.update_of_ne apart] using called⟩
  · have was := accounted.serverOff off peer
    dsimp only
    rw [Function.update_apply]
    split_ifs
    · rfl
    · exact was

/-- A thread inside its session stays there until its own next step. -/
theorem session_kept (slots : SlotInvariant sys.server)
    {label : PeerLabel cfg.tcpNmeaServerMaxPeers}
    (stepped : peerStep sys.server label = some server) {peer : Fin cfg.tcpNmeaServerMaxPeers}
    {fd : Option ℕ} (inside : (sys.server.peers peer).thread = .session fd)
    (other : label ≠ .peer peer) : (server.peers peer).thread = .session fd := by
  cases label with
  | accept connection =>
    obtain ⟨-, rfl⟩ := accept_cases stepped
    exact inside
  | peer moving =>
    obtain ⟨slot, -, rfl⟩ := peer_cases stepped
    have apart : peer ≠ moving := fun same => other (congrArg PeerLabel.peer same.symm)
    simpa only [PeerWorld.setPeer, Function.update_of_ne apart] using inside
  | server =>
    -- Only the last of its steps touches the thread of a slot.
    have kept {slot : Fin cfg.tcpNmeaServerMaxPeers} {entry : PeerSlot}
        (same : entry.thread = (sys.server.peers slot).thread) :
        ((sys.server.setPeer slot entry).peers peer).thread = .session fd := by
      simp only [PeerWorld.setPeer, Function.update_apply]
      split_ifs with here
      · rw [same, ← here, inside]
      · exact inside
    rcases serverStep_cases stepped with ⟨connection, -, -, rfl⟩ |
      ⟨connection, slot, -, -, -, rfl⟩ | ⟨connection, slot, -, rfl⟩ | ⟨slot, at_, rfl⟩
    · exact inside
    · exact kept rfl
    · exact kept rfl
    · -- a thread is created over one that has ended, or that has left its session
      have gone := (slots.allocated slot (by rw [at_]; rfl)).2
      have apart : peer ≠ slot := by
        rintro rfl
        simp [inside, PeerThread.ended, PeerThread.leaving] at gone
      simpa only [PeerWorld.setPeer, Function.update_of_ne apart] using inside

theorem SessionsAccounted.serverStep (accounted : SessionsAccounted sys)
    (slots : SlotInvariant sys.server) {label : PeerLabel cfg.tcpNmeaServerMaxPeers}
    (enabled : cfg.tcpNmeaServerEnable = true)
    (stepped : peerStep sys.server label = some server)
    (called : sys.serverCall label = some after) : SessionsAccounted { after with server } := by
  -- a call in progress keeps its thread, unless it is the thread that moves
  have kept (peer : Fin cfg.tcpNmeaServerMaxPeers) (s : ℕ) (call : sys.calls (some peer) = some s)
      (other : label ≠ .peer peer) : ∃ fd, (server.peers peer).thread = .session fd := by
    obtain ⟨fd, inside⟩ := accounted.inSession peer s call
    exact ⟨fd, session_kept slots stepped inside other⟩
  cases label with
  | accept fd =>
    exact accounted.of_sameCalls (accept_sameCalls called) fun peer s call =>
      kept peer s call nofun
  | server =>
    obtain rfl := Option.some.inj called
    exact accounted.of_sameCalls (zsockClose_sameCalls sys _) fun peer s call =>
      kept peer s call nofun
  | peer moving =>
    have uncalled (outside : ∀ fd, (sys.server.peers moving).thread ≠ .session fd) :
        sys.calls (some moving) = none := by
      by_contra call
      obtain ⟨s, call⟩ := Option.ne_none_iff_exists'.mp call
      obtain ⟨fd, inside⟩ := accounted.inSession moving s call
      exact outside fd inside
    have others (peer : Fin cfg.tcpNmeaServerMaxPeers) (s : ℕ) (apart : peer ≠ moving)
        (call : sys.calls (some peer) = some s) : ∃ fd, (server.peers peer).thread = .session fd :=
      kept peer s call fun same => apart (PeerLabel.peer.inj same).symm
    simp only [TcpSessions.serverCall] at called
    cases at_ : (sys.server.peers moving).thread with
    | created =>
      simp only [at_, Option.some.injEq] at called
      subst called
      refine accounted.sessionStarts (uncalled (by simp [at_])) (fun _ _ => enabled)
        fun peer s reason => ?_
      by_cases here : peer = moving
      · subst here
        simp only [peerStep, peerThreadStep, at_, Option.map_some, Option.some.injEq] at stepped
        subst stepped
        exact ⟨(sys.server.peers peer).fd, by simp [PeerWorld.setPeer]⟩
      · refine others peer s here (reason.resolve_right fun same => ?_)
        exact here (Option.some.inj same).symm
    | session fd =>
      simp only [at_] at called
      exact accounted.sessionReturns called fun peer s apart call =>
        others peer s (fun same => apart (congrArg some same)) call
    | closing =>
      simp only [at_, Option.some.injEq] at called
      subst called
      refine accounted.of_sameCalls (zsockClose_sameCalls sys _) fun peer s call => ?_
      refine others peer s (fun same => ?_) call
      rw [same, uncalled (by simp [at_])] at call
      cases call
    | _ =>
      simp only [at_, Option.some.injEq] at called
      subst called
      refine accounted.of_sameCalls ⟨rfl, rfl, rfl⟩ fun peer s call => ?_
      refine others peer s (fun same => ?_) call
      rw [same, uncalled (by simp [at_])] at call
      cases call

/-- A step of the pipeline belongs to a session that somebody called, or to none. -/
theorem SessionsAccounted.pipelineCall (accounted : SessionsAccounted sys) {label : PipelineLabel}
    (called : sys.pipelineCall label = some after) :
    SessionsAccounted after ∧ SameLedger after sys ∧ after.server = sys.server := by
  obtain ⟨pipeline, stepped, callers, rfl⟩ : ∃ pipeline,
      pipelineStep sys.pipeline label = some pipeline ∧
      (∀ s, label.session = some s → ∃ caller, sys.calls caller = some s) ∧
      after = { sys with pipeline } := by
    unfold TcpSessions.pipelineCall at called
    split at called
    · rename_i nobody
      obtain ⟨pipeline, stepped, rfl⟩ := Option.map_eq_some_iff.mp called
      exact ⟨pipeline, stepped, by simp [nobody], rfl⟩
    · rename_i s acts
      split_ifs at called with callers
      obtain ⟨pipeline, stepped, rfl⟩ := Option.map_eq_some_iff.mp called
      refine ⟨pipeline, stepped, fun t acts' => ?_, rfl⟩
      obtain rfl := Option.some.inj (acts.symm.trans acts')
      exact callers
  have effect := pipelineStep_effect stepped
  refine ⟨⟨accounted.sinks.effect effect, accounted.recent, accounted.alone, ?_,
    accounted.inSession, accounted.serverOff⟩, ⟨rfl, rfl, rfl, rfl⟩, rfl⟩
  -- Only the session that acts can begin to run, and it was called.
  have update {s : ℕ} {session : Session cfg}
      (sessions : pipeline.sessions = Function.update sys.pipeline.sessions s session)
      (here : session.phase.running = true → ∃ caller, sys.calls caller = some s) (t : ℕ)
      (running : (pipeline.sessions t).phase.running = true) :
      ∃ caller, sys.calls caller = some t := by
    rw [sessions, Function.update_apply] at running
    split_ifs at running with same
    · exact same ▸ here running
    · exact accounted.calling t running
  cases effect with
  | elsewhere sessions active =>
    intro s running
    rw [sessions] at running
    exact accounted.calling s running
  | goesOn s session acts sessions ran runs sameSink active =>
    exact update sessions fun _ => accounted.calling s ran
  | opened s session i acts sessions idle runs sink inactive active =>
    exact update sessions fun _ => callers s (by rw [acts]; rfl)
  | refused s session acts sessions idle stopped sink exhausted active =>
    exact update sessions fun running => by simp [stopped] at running
  | closed s session acts sessions ran stopped sink active =>
    exact update sessions fun running => by simp [stopped] at running

end Sessions

/-! ## Every run -/

/-- Both accounts. -/
structure ResourcesAccounted (sys : TcpSessions cfg) : Prop where
  descriptors : DescriptorsAccounted sys
  sessions : SessionsAccounted sys

theorem ResourcesAccounted.step {sys next : TcpSessions cfg} (accounted : ResourcesAccounted sys)
    {label : TcpSessionsLabel cfg} (stepped : tcpSessionsStep sys label = some next) :
    ResourcesAccounted next := by
  obtain ⟨descriptors, sessions⟩ := accounted
  -- a step that leaves server and ledger alone
  have elsewhere {after : TcpSessions cfg} (server : after.server = sys.server)
      (same : SameLedger after sys) : DescriptorsAccounted after := by
    have kept := descriptors.of_sameLedger same descriptors.fds descriptors.hands
    rwa [← server] at kept
  cases label with
  | server label =>
    simp only [tcpSessionsStep] at stepped
    split_ifs at stepped with enabled
    obtain ⟨server, moved, effect⟩ := Option.bind_eq_some_iff.mp stepped
    obtain ⟨after, called, rfl⟩ := Option.map_eq_some_iff.mp effect
    exact ⟨descriptors.serverStep moved called,
      sessions.serverStep descriptors.fds.slots enabled moved called⟩
  | client =>
    simp only [tcpSessionsStep] at stepped
    split at stepped
    · rename_i free
      obtain rfl := Option.some.inj stepped
      refine ⟨elsewhere rfl ⟨rfl, rfl, rfl, rfl⟩,
        sessions.sessionStarts free (fun _ => nofun) fun peer s reason => ?_⟩
      exact sessions.inSession peer s (reason.resolve_right nofun)
    · have server := sessionReturns_server stepped
      have returned : SessionsAccounted { next with server := sys.server } :=
        sessions.sessionReturns stepped fun peer s _ call => sessions.inSession peer s call
      rw [← server] at returned
      exact ⟨elsewhere server (sessionReturns_sameLedger stepped), returned⟩
  | pipeline label =>
    obtain ⟨sessions, same, server⟩ := sessions.pipelineCall stepped
    exact ⟨elsewhere server same, sessions⟩
  | othersOpen fd =>
    simp only [tcpSessionsStep, Option.ite_none_right_eq_some, Option.some.injEq] at stepped
    obtain ⟨free, rfl⟩ := stepped
    exact ⟨descriptors.others (by simp [TcpSessions.acceptOf, free]) (.inr rfl),
      ⟨sessions.sinks, sessions.recent, sessions.alone, sessions.calling, sessions.inSession,
        sessions.serverOff⟩⟩
  | othersClose fd =>
    simp only [tcpSessionsStep, Option.ite_none_right_eq_some, Option.some.injEq] at stepped
    obtain ⟨other, rfl⟩ := stepped
    exact ⟨descriptors.others (by simp [TcpSessions.acceptOf, other]) (.inl rfl),
      ⟨sessions.sinks, sessions.recent, sessions.alone, sessions.calling, sessions.inSession,
        sessions.serverOff⟩⟩

theorem resourcesAccounted_run {others : Finset ℕ} {labels : List (TcpSessionsLabel cfg)}
    {sys : TcpSessions cfg}
    (ran : run tcpSessionsStep (tcpSessionsStart cfg others) labels = some sys) :
    ResourcesAccounted sys :=
  Transitions.invariant (fun _ _ _ accounted stepped => accounted.step stepped)
    ⟨descriptorsAccounted_start cfg others, sessionsAccounted_start cfg others⟩ ran

/-- The server thread has just accepted the descriptor, and has yet to store it in a slot or
to close it. -/
def TcpSessions.InServerHands (sys : TcpSessions cfg) (accept : ℕ) : Prop :=
  ∃ fd, sys.server.server.holds = some fd ∧ sys.descriptors fd = some (.accepted accept)

/-- The slot has the descriptor that the accept returned. -/
def TcpSessions.HeldBy (sys : TcpSessions cfg) (accept : ℕ)
    (peer : Fin cfg.tcpNmeaServerMaxPeers) : Prop :=
  (sys.server.peers peer).active = true ∧
    ∃ fd, (sys.server.peers peer).holds = some fd ∧ sys.descriptors fd = some (.accepted accept)

/-- What became of an accepted descriptor. -/
theorem DescriptorsAccounted.fate {sys : TcpSessions cfg} (accounted : DescriptorsAccounted sys)
    {accept : ℕ} (early : accept < sys.accepts) :
    (sys.InServerHands accept ∧ (∀ peer, ¬sys.HeldBy accept peer) ∧ sys.closes accept = 0) ∨
    (¬sys.InServerHands accept ∧ (∃! peer, sys.HeldBy accept peer) ∧ sys.closes accept = 0) ∨
    (¬sys.InServerHands accept ∧ (∀ peer, ¬sys.HeldBy accept peer) ∧
      sys.closes accept = 1) := by
  rcases accounted.ledger.fate early with ⟨⟨fd, is, oneName⟩, unclosed⟩ | ⟨gone, closed⟩
  · obtain ⟨who, has, alone⟩ := accounted.hands.existsUnique (n := fd)
      (by rw [is]; exact Option.some_ne_none accept)
    -- hands that have this accept have the descriptor it stands behind
    have only (other : Option (Fin cfg.tcpNmeaServerMaxPeers)) {number : ℕ}
        (hasNumber : sys.server.holds other = some number)
        (isAccept : sys.descriptors number = some (.accepted accept)) : other = who := by
      obtain rfl := oneName number (TcpSessions.acceptOf_eq_some.mpr isAccept)
      exact alone other hasNumber
    have isOpen := TcpSessions.acceptOf_eq_some.mp is
    cases who with
    | none =>
      refine .inl ⟨⟨fd, has, isOpen⟩, ?_, unclosed⟩
      rintro peer ⟨-, number, hasNumber, isAccept⟩
      exact absurd (only (some peer) hasNumber isAccept) nofun
    | some peer =>
      refine .inr (.inl ⟨?_, ⟨peer, ⟨?_, fd, has, isOpen⟩, ?_⟩, unclosed⟩)
      · rintro ⟨number, hasNumber, isAccept⟩
        exact absurd (only none hasNumber isAccept) nofun
      · by_contra inactive
        simp [PeerWorld.holds, PeerSlot.holds, inactive] at has
      · rintro other ⟨-, number, hasNumber, isAccept⟩
        exact Option.some.inj (only (some other) hasNumber isAccept)
  · refine .inr (.inr ⟨?_, ?_, closed⟩)
    · rintro ⟨fd, -, isAccept⟩
      exact gone fd (TcpSessions.acceptOf_eq_some.mpr isAccept)
    · rintro peer ⟨-, fd, -, isAccept⟩
      exact gone fd (TcpSessions.acceptOf_eq_some.mpr isAccept)

/-- In every reachable state: each accepted descriptor is with the server thread that has
just accepted it, or held by exactly one active slot, or closed exactly once, and nothing
else was ever closed; there are no more open sinks than active slots and the client; and a
session that opens its sink finds one. -/
theorem session_resources_accounted (cfg : Kconfig) (others : Finset ℕ)
    (labels : List (TcpSessionsLabel cfg)) (sys : TcpSessions cfg)
    (ran : run tcpSessionsStep (tcpSessionsStart cfg others) labels = some sys) :
    (∀ accept < sys.accepts,
      (sys.InServerHands accept ∧ (∀ peer, ¬sys.HeldBy accept peer) ∧ sys.closes accept = 0) ∨
      (¬sys.InServerHands accept ∧ (∃! peer, sys.HeldBy accept peer) ∧ sys.closes accept = 0) ∨
      (¬sys.InServerHands accept ∧ (∀ peer, ¬sys.HeldBy accept peer) ∧
        sys.closes accept = 1)) ∧
    sys.strayCloses = 0 ∧
    (Finset.univ.filter fun i => (sys.pipeline.bridge.sinks i).active = true).card ≤
      (Finset.univ.filter fun peer => (sys.server.peers peer).active = true).card + 1 ∧
    ∀ s next, tcpSessionsStep sys (.pipeline (.sessionOpen s)) = some next →
      (nmeaBridgeSinkOpen sys.pipeline.bridge).2 ≠ none := by
  obtain ⟨descriptors, sessions⟩ := resourcesAccounted_run ran
  refine ⟨fun accept early => descriptors.fate early, descriptors.stray,
    sessions.card_sinks descriptors.fds.slots, fun s next opening => ?_⟩
  simp only [tcpSessionsStep, TcpSessions.pipelineCall, PipelineLabel.session] at opening
  split_ifs at opening with called
  obtain ⟨caller, call⟩ := called
  obtain ⟨pipeline, opened, -⟩ := Option.map_eq_some_iff.mp opening
  -- As many sinks as callers there can be: one is free when a session is idle.
  exact sessions.sink_left call (Pipeline.sessionOpen_cases opened).1

/-- A connection is accepted, gets a slot and its session opens a sink; a second one has just
been accepted. -/
def twoConnections : List (TcpSessionsLabel prjConf) :=
  [.server (.accept (some 4)), .server .server, .server .server, .server .server,
    .server (.peer ⟨0, by decide⟩), .pipeline (.sessionOpen 0), .server (.accept (some 5))]

theorem session_resources_accounted_two :
    let sys := (run tcpSessionsStep (tcpSessionsStart prjConf {3}) twoConnections).get (by decide)
    sys.strayCloses = 0 ∧
      (Finset.univ.filter fun i => (sys.pipeline.bridge.sinks i).active = true).card ≤
        (Finset.univ.filter fun peer => (sys.server.peers peer).active = true).card + 1 :=
  have ⟨_, stray, sinks, _⟩ := session_resources_accounted prjConf {3} twoConnections _
    (Option.some_get _).symm
  ⟨stray, sinks⟩

/-- Between the accept and the store, no slot has the descriptor and it is not closed. -/
theorem accepted_descriptor_in_server_hands :
    ¬∀ (cfg : Kconfig) (others : Finset ℕ) (labels : List (TcpSessionsLabel cfg))
      (sys : TcpSessions cfg),
      run tcpSessionsStep (tcpSessionsStart cfg others) labels = some sys →
      ∀ accept < sys.accepts, (∃! peer, sys.HeldBy accept peer) ∨ sys.closes accept = 1 := by
  intro held
  have fate := held prjConf {3} (twoConnections.take 1)
    ((run tcpSessionsStep (tcpSessionsStart prjConf {3}) (twoConnections.take 1)).get (by decide))
    (Option.some_get _).symm 0 (by decide)
  rcases fate with ⟨peer, ⟨active, -⟩, -⟩ | closed
  · exact absurd active (by revert peer; decide)
  · exact absurd closed (by decide)

end EspNmeaBridge
