/-
# When the station's retry gets stuck

The retry waits while one of two flags is set, so a flag that stays behind without a
link, a request or an event on its way ends the retries for good. A flag is awaited
while something is still to come that clears it, or a link that would be lost with an
event. Every event handler keeps it so. Two writes need not: the one behind an
accepted request, when the answer was handled before it, and the one for an address,
when the address outlives the link.
-/

import EspNmeaBridge.WifiManager

namespace EspNmeaBridge

/-- The retry is not kept from trying once nothing is under way. -/
def RetriesWhenQuiet (world : WifiWorld) : Prop :=
  world.thread = .loopHead → world.link = false → world.outstanding = 0 →
    world.undelivered = [] → (world.handling = none ∨ world.handler = []) →
      world.flags .connected = false ∧ world.flags .connectRequested = false

/-- A link, an answer, an event or a handler's write is still there to have the flag cleared. -/
def Awaited (flag : StaFlag) (world : WifiWorld) : Prop :=
  world.link = true ∨ 0 < world.outstanding ∨ world.undelivered ≠ [] ∨
    .write flag false ∈ world.handler

instance (flag : StaFlag) (world : WifiWorld) : Decidable (Awaited flag world) :=
  inferInstanceAs (Decidable (_ ∨ _ ∨ _ ∨ _))

/-- The step does not set `sta_connect_requested` behind a request, nor `sta_connected` for an
address, with nothing left that would clear it. -/
def TimelyWrite (world : WifiWorld) : WifiLabel → Prop
  | .thread _ =>
    world.thread = .requestReturned true true ∨ world.thread = .requestReturned false true →
      Awaited .connectRequested world
  | .handler _ =>
    world.handling = none → world.handler.head? = some (.write .connected true) →
      Awaited .connected world
  | .getter getter _ =>
    (world.getters getter).head? = some (.write .connected true) → Awaited .connected world
  | _ => True

instance (world : WifiWorld) : (label : WifiLabel) → Decidable (TimelyWrite world label)
  | .thread _ => inferInstanceAs (Decidable (_ → _))
  | .handler _ => inferInstanceAs (Decidable (_ → _ → _))
  | .getter _ _ => inferInstanceAs (Decidable (_ → _))
  | .answer _ | .linkLost | .deliver | .otherWifi _ _ | .ipv4 _ _ | .staReady _ => .isTrue trivial

/-! ## What the handlers write -/

/-- The two flags that keep the retry waiting. -/
def StaFlag.Waits (flag : StaFlag) : Prop := flag = .connected ∨ flag = .connectRequested

/-- The event leaves the station without a link. -/
def WifiEvent.IsDown : WifiEvent → Prop
  | .connectResult status => status.any (· != 0) = true
  | .disconnectResult => True
  | _ => False

section Accesses

variable {staIface : Option NetIf} {table : UnicastTable} {world : WifiWorld}
  {accesses : List StaAccess} {flag : StaFlag} {event : WifiEvent} {iface : NetIf} {value : Bool}

/-- An access touches the flag it writes and the backoff, and leaves the accesses behind it or
none. -/
theorem accessStep_world (world : WifiWorld) (accesses : List StaAccess) :
    ∃ flags backoff, (accessStep staIface table world accesses).1 =
        { world with flags, staRetryBackoffS := backoff } ∧
      ∀ flag, flags flag = world.flags flag ∨
        ∃ value, accesses.head? = some (.write flag value) ∧ flags flag = value := by
  cases accesses with
  | nil => exact ⟨world.flags, world.staRetryBackoffS, rfl, fun _ => .inl rfl⟩
  | cons access rest =>
    cases access with
    | write written value =>
      refine ⟨_, world.staRetryBackoffS, rfl, fun flag => ?_⟩
      by_cases same : flag = written
      · subst same
        exact .inr ⟨value, rfl, Function.update_self ..⟩
      · exact .inl (Function.update_of_ne same ..)
    | require flag value => exact ⟨world.flags, world.staRetryBackoffS, rfl, fun _ => .inl rfl⟩
    | requireAddr => exact ⟨world.flags, world.staRetryBackoffS, rfl, fun _ => .inl rfl⟩
    | resetBackoff => exact ⟨world.flags, 5, rfl, fun _ => .inl rfl⟩

theorem accessStep_suffix (world : WifiWorld) (accesses : List StaAccess) :
    (accessStep staIface table world accesses).2 <:+ accesses := by
  cases accesses with
  | nil => exact List.suffix_refl _
  | cons access rest =>
    have dropped (go : Bool) : (if go then rest else []) <:+ access :: rest := by
      cases go
      · exact List.nil_suffix
      · exact List.suffix_cons ..
    cases access with
    | write written value => exact List.suffix_cons ..
    | require flag value => simpa [accessStep] using dropped (decide (world.flags flag = value))
    | requireAddr => exact dropped _
    | resetBackoff => exact List.suffix_cons ..

/-- The address check sets no other flag that the retry waits for than `sta_connected`. -/
theorem eq_of_mem_staReady (waits : flag.Waits) (member : .write flag value ∈ wifiManagerStaReady) :
    flag = .connected ∧ value = true := by
  rcases waits with rfl | rfl <;> simp_all [wifiManagerStaReady, markStaIpv4Ready]

theorem staDown_of_down (down : event.IsDown) :
    wifiEventHandler (some iface) event iface = staDown := by
  cases event with
  | connectResult status =>
    have failed : status.any (· != 0) = true := down
    simp only [wifiEventHandler, ne_eq, not_true_eq_false, if_false, failed, if_true]
  | disconnectResult => simp only [wifiEventHandler, ne_eq, not_true_eq_false, if_false]
  | _ => exact down.elim

/-- Only a handler that reports a link sets a flag. -/
theorem not_down_of_mem (member : .write flag true ∈ wifiEventHandler (some iface) event iface) :
    ¬ event.IsDown := by
  intro down
  simp [staDown_of_down down, staDown] at member

theorem accessStep_clears_of_writes (onlyWrites : ∀ access ∈ accesses, ∃ flag value,
      access = .write flag value) (ahead : .write flag false ∈ accesses) :
    .write flag false ∈ (accessStep staIface table world accesses).2 ∨
      (accessStep staIface table world accesses).1.flags flag = false := by
  cases accesses with
  | nil => cases ahead
  | cons access rest =>
    obtain ⟨written, value, rfl⟩ := onlyWrites access List.mem_cons_self
    rcases List.mem_cons.mp ahead with now | later
    · obtain ⟨rfl, rfl⟩ := StaAccess.write.inj now
      exact .inr (Function.update_self ..)
    · exact .inl later

/-- A handler's write that clears a flag stays ahead until it is made. -/
theorem accessStep_clears (program : accesses <:+ wifiEventHandler (some iface) event iface)
    (waits : flag.Waits) (ahead : .write flag false ∈ accesses) :
    .write flag false ∈ (accessStep staIface table world accesses).2 ∨
      (accessStep staIface table world accesses).1.flags flag = false := by
  have down : accesses <:+ staDown →
      .write flag false ∈ (accessStep staIface table world accesses).2 ∨
        (accessStep staIface table world accesses).1.flags flag = false := by
    intro program
    apply accessStep_clears_of_writes _ ahead
    intro access member
    have listed := program.mem member
    simp only [staDown, List.mem_cons, List.not_mem_nil, or_false] at listed
    rcases listed with rfl | rfl | rfl | rfl <;> exact ⟨_, _, rfl⟩
  cases event with
  | connectResult status =>
    by_cases failed : status.any (· != 0) = true
    · exact down (by simpa [wifiEventHandler, failed] using program)
    · -- The clearing write is the second one of the handler, in front of every check.
      simp only [wifiEventHandler, ne_eq, not_true_eq_false, if_false, failed, Bool.false_eq_true,
        markStaIpv4Ready, List.cons_append, List.nil_append, List.suffix_cons_iff,
        List.suffix_nil] at program
      rcases waits with rfl | rfl
      · rcases program with rfl | rfl | rfl | rfl | rfl | rfl | rfl | rfl | rfl <;> simp at ahead
      · rcases program with rfl | rfl | rfl | rfl | rfl | rfl | rfl | rfl | rfl <;>
          simp_all [accessStep]
  | disconnectResult => exact down (by simpa [wifiEventHandler] using program)
  | _ =>
    obtain rfl : accesses = [] := by simpa [wifiEventHandler] using program
    cases ahead

end Accesses

/-! ## The invariant -/

structure StaInvariant (world : WifiWorld) : Prop where
  awaited : ∀ flag : StaFlag, flag.Waits → world.flags flag = true → Awaited flag world
  /-- Without a link the last event reported says so. -/
  lastDown : world.link = false →
    ∀ event ∈ (world.handling.toList ++ world.undelivered).getLast?, event.IsDown
  handling : ∀ event, world.handling = some event →
    ∃ iface, world.handler <:+ wifiEventHandler (some iface) event iface
  other : world.handling = none →
    world.handler <:+ wifiManagerStaReady ∨
      world.handler <:+ [.write .hasAddr false, .write .ipv4Logged false]
  getters : ∀ getter, world.getters getter <:+ wifiManagerStaReady

section Steps

variable {staIface : Option NetIf} {staCfg : BridgeConfigSta} {world next : WifiWorld}

/-- What an event handler that is not for the station writes to the two flags. -/
theorem StaInvariant.otherWrites (inv : StaInvariant world) (other : world.handling = none)
    {flag : StaFlag} (waits : flag.Waits) {value : Bool}
    (member : .write flag value ∈ world.handler) : flag = .connected ∧ value = true := by
  rcases inv.other other with program | program
  · exact eq_of_mem_staReady waits (program.mem member)
  · have listed := program.mem member
    rcases waits with rfl | rfl <;> simp at listed

theorem StaInvariant.getterRuns (inv : StaInvariant world) {rest : List StaAccess}
    (program : rest <:+ wifiManagerStaReady) {getter : ℕ} (other : ℕ) :
    Function.update world.getters getter rest other <:+ wifiManagerStaReady := by
  rw [Function.update_apply]
  split_ifs
  · exact program
  · exact inv.getters other

/-- Nothing that bears on the two flags gets less. -/
theorem StaInvariant.keep (inv : StaInvariant world)
    (flags : ∀ flag : StaFlag, flag.Waits → next.flags flag = true →
      world.flags flag = true ∨ Awaited flag world)
    (link : next.link = world.link) (outstanding : world.outstanding ≤ next.outstanding)
    (undelivered : next.undelivered = world.undelivered)
    (handling : next.handling = world.handling) (handler : next.handler = world.handler)
    (getters : ∀ getter, next.getters getter <:+ wifiManagerStaReady) : StaInvariant next where
  awaited flag waits set := by
    have before : Awaited flag world :=
      (flags flag waits set).elim (inv.awaited flag waits) id
    rw [Awaited, link, undelivered, handler]
    exact before.imp_right (.imp_left (Nat.lt_of_lt_of_le · outstanding))
  lastDown down := by
    rw [handling, undelivered]
    exact inv.lastDown (link ▸ down)
  handling event busy := by
    rw [handler]
    exact inv.handling event (handling ▸ busy)
  other free := by
    rw [handler]
    exact inv.other (handling ▸ free)
  getters := getters

/-- The driver reports an event, and the link is as the event says. -/
theorem StaInvariant.report (inv : StaInvariant world) {event : WifiEvent}
    (undelivered : next.undelivered = world.undelivered ++ [event])
    (down : next.link = false → event.IsDown)
    (handling : next.handling = world.handling) (handler : next.handler = world.handler)
    (getters : next.getters = world.getters) : StaInvariant next where
  awaited flag waits set := .inr (.inr (.inl (by simp [undelivered])))
  lastDown lost last isLast := by
    rw [undelivered, ← List.append_assoc, List.getLast?_concat, Option.mem_some_iff] at isLast
    exact isLast ▸ down lost
  handling e busy := by
    rw [handler]
    exact inv.handling e (handling ▸ busy)
  other free := by
    rw [handler]
    exact inv.other (handling ▸ free)
  getters getter := getters ▸ inv.getters getter

theorem connectStaReturned_keep (inv : StaInvariant world) (boot : Bool) :
    StaInvariant (connectStaReturned boot world) := by
  cases boot <;>
    exact inv.keep (fun _ _ set => .inl set) rfl le_rfl rfl rfl rfl inv.getters

theorem staThreadStep_invariant {accepted : Bool} (inv : StaInvariant world)
    (timely : TimelyWrite world (.thread accepted))
    (stepped : staThreadStep staIface staCfg world accepted = some next) : StaInvariant next := by
  have move (thread : StaRetryThread) : StaInvariant { world with thread } :=
    inv.keep (fun _ _ set => .inl set) rfl le_rfl rfl rfl rfl inv.getters
  cases at_ : world.thread with
  | connectSta boot =>
    simp only [staThreadStep, at_, Option.some.injEq] at stepped
    subst stepped
    split_ifs
    · exact connectStaReturned_keep inv boot
    · exact inv.keep (fun _ _ set => .inl set) rfl (Nat.le_succ _) rfl rfl rfl inv.getters
    · exact move _
  | requestReturned boot accepted =>
    simp only [staThreadStep, at_, Option.some.injEq] at stepped
    subst stepped
    apply connectStaReturned_keep
    refine inv.keep (fun flag waits set => ?_) rfl le_rfl rfl rfl rfl inv.getters
    dsimp only at set
    by_cases written : flag = .connectRequested
    · -- The write that may come too late.
      subst written
      rw [Function.update_self] at set
      apply Or.inr
      apply timely
      cases boot
      · exact .inr (set ▸ at_)
      · exact .inl (set ▸ at_)
    · rw [Function.update_of_ne written] at set
      exact .inl set
  | returned => simp [staThreadStep, at_] at stepped
  | _ =>
    simp only [staThreadStep, at_, Option.some.injEq] at stepped
    subst stepped
    exact move _

theorem handlerStep_invariant {table : UnicastTable} (inv : StaInvariant world)
    (timely : TimelyWrite world (.handler table))
    (stepped : wifiStep staIface staCfg world (.handler table) = some next) :
    StaInvariant next := by
  obtain ⟨flags, backoff, after, written⟩ :=
    @accessStep_world staIface table world world.handler
  have suffix := @accessStep_suffix staIface table world world.handler
  have clears := @accessStep_clears staIface table world world.handler
  simp only [wifiStep, Option.some.injEq] at stepped
  rw [after] at stepped clears
  generalize (accessStep staIface table world world.handler).2 = rest at stepped suffix clears
  subst stepped
  refine ⟨fun flag waits set => ?_, inv.lastDown, fun event busy => ?_, fun free => ?_,
    inv.getters⟩
  · dsimp only at set
    rcases written flag with same | ⟨value, head, now⟩
    · -- The flag was set before: what it waits for is still there.
      rcases inv.awaited flag waits (same ▸ set) with link | out | queued | ahead
      · exact .inl link
      · exact .inr (.inl out)
      · exact .inr (.inr (.inl queued))
      · cases busy : world.handling with
        | none => exact absurd (inv.otherWrites busy waits ahead).2 (by decide)
        | some event =>
          obtain ⟨iface, program⟩ := inv.handling event busy
          rcases clears program waits ahead with still | cleared
          · exact .inr (.inr (.inr still))
          · exact absurd (cleared.symm.trans set) (by decide)
    · -- The flag was set by this access.
      obtain rfl : value = true := now.symm.trans set
      have member : .write flag true ∈ world.handler := List.mem_of_mem_head? head
      cases busy : world.handling with
      | none =>
        obtain ⟨rfl, -⟩ := inv.otherWrites busy waits member
        rcases timely busy head with link | out | queued | ahead
        · exact .inl link
        · exact .inr (.inl out)
        · exact .inr (.inr (.inl queued))
        · exact absurd (inv.otherWrites busy (.inl rfl) ahead).2 (by decide)
      | some event =>
        -- A successful connect: its link is there, or a later event reports the loss.
        obtain ⟨iface, program⟩ := inv.handling event busy
        have up := not_down_of_mem (program.mem member)
        by_cases link : world.link = true
        · exact .inl link
        · refine .inr (.inr (.inl fun empty => ?_))
          have last := inv.lastDown (Bool.eq_false_iff.mpr link) event
          dsimp only at empty
          rw [busy, empty] at last
          exact up (last rfl)
  · obtain ⟨iface, program⟩ := inv.handling event busy
    exact ⟨iface, suffix.trans program⟩
  · exact (inv.other free).imp suffix.trans suffix.trans

theorem getterStep_invariant {getter : ℕ} {table : UnicastTable} (inv : StaInvariant world)
    (timely : TimelyWrite world (.getter getter table))
    (stepped : wifiStep staIface staCfg world (.getter getter table) = some next) :
    StaInvariant next := by
  obtain ⟨flags, backoff, after, written⟩ :=
    @accessStep_world staIface table world (world.getters getter)
  have suffix := @accessStep_suffix staIface table world (world.getters getter)
  simp only [wifiStep, Option.some.injEq] at stepped
  rw [after] at stepped
  generalize (accessStep staIface table world (world.getters getter)).2 = rest
    at stepped suffix
  subst stepped
  have program := suffix.trans (inv.getters getter)
  refine inv.keep (fun flag waits set => ?_) rfl le_rfl rfl rfl rfl (inv.getterRuns program)
  · dsimp only at set
    rcases written flag with same | ⟨value, head, now⟩
    · exact .inl (same ▸ set)
    · obtain rfl : value = true := now.symm.trans set
      have member := (inv.getters getter).mem (List.mem_of_mem_head? head)
      obtain ⟨rfl, -⟩ := eq_of_mem_staReady waits member
      exact .inr (timely head)

/-- The network management thread takes a station event: the flags that only this event would
have had cleared are now cleared by its handler. -/
theorem deliver_invariant (inv : StaInvariant world)
    (stepped : wifiStep staIface staCfg world .deliver = some next) : StaInvariant next := by
  simp only [wifiStep] at stepped
  split at stepped
  case h_2 => cases stepped
  case h_1 iface event rest idle queue =>
    obtain rfl := Option.some.inj stepped
    have lastDown : world.link = false → ∀ last ∈ (event :: rest).getLast?, last.IsDown := by
      intro lost last isLast
      apply inv.lastDown lost last
      rw [queue, List.getLast?_append, isLast]
      rfl
    refine ⟨fun flag waits set => ?_, lastDown, ?_, nofun, inv.getters⟩
    · rcases inv.awaited flag waits set with link | out | - | ahead
      · exact .inl link
      · exact .inr (.inl out)
      · -- The event was the only thing to wait for, so it is a loss and its handler clears.
        cases rest with
        | cons second others => exact .inr (.inr (.inl (List.cons_ne_nil second others)))
        | nil =>
          by_cases link : world.link = true
          · exact .inl link
          · refine .inr (.inr (.inr ?_))
            have writes : wifiEventHandler (some iface) event iface = staDown :=
              staDown_of_down (lastDown (Bool.eq_false_iff.mpr link) event rfl)
            rcases waits with rfl | rfl <;> simp [writes, staDown]
      · rw [idle] at ahead
        cases ahead
    · rintro _ ⟨⟩
      exact ⟨iface, List.suffix_refl _⟩

/-- The network management thread takes an event that is not the station's. -/
theorem StaInvariant.takeOther (inv : StaInvariant world) (idle : world.handler = [])
    {handler : List StaAccess} (program : handler <:+ wifiManagerStaReady ∨
      handler <:+ [.write .hasAddr false, .write .ipv4Logged false]) :
    StaInvariant { world with handling := none, handler } where
  awaited flag waits set := by
    rcases inv.awaited flag waits set with link | out | queued | ahead
    · exact .inl link
    · exact .inr (.inl out)
    · exact .inr (.inr (.inl queued))
    · rw [idle] at ahead
      cases ahead
  lastDown lost last isLast := by
    apply inv.lastDown lost last
    rw [Option.toList_none, List.nil_append] at isLast
    rw [List.getLast?_append, isLast]
    rfl
  handling := nofun
  other _ := program
  getters := inv.getters

theorem wifiStep_invariant {label : WifiLabel} (inv : StaInvariant world)
    (timely : TimelyWrite world label)
    (stepped : wifiStep staIface staCfg world label = some next) : StaInvariant next := by
  cases label with
  | answer status =>
    simp only [wifiStep, Option.ite_none_left_eq_some, Option.some.injEq] at stepped
    obtain ⟨-, rfl⟩ := stepped
    refine inv.report rfl (fun down => ?_) rfl rfl rfl
    simp only [Bool.or_eq_false_iff] at down
    simpa [WifiEvent.IsDown] using down.2
  | linkLost =>
    simp only [wifiStep, Option.ite_none_right_eq_some, Option.some.injEq] at stepped
    obtain ⟨-, rfl⟩ := stepped
    exact inv.report rfl (fun _ => trivial) rfl rfl rfl
  | deliver => exact deliver_invariant inv stepped
  | otherWifi event iface =>
    simp only [wifiStep, Option.ite_none_left_eq_some, Option.some.injEq, not_or, not_not]
      at stepped
    obtain ⟨⟨idle, foreign⟩, rfl⟩ := stepped
    -- An event of another interface runs no access of the handler.
    have nothing : wifiEventHandler staIface event iface = [] := by
      cases event <;> simp_all [wifiEventHandler, isStaEvent]
    exact inv.takeOther idle (.inl (nothing ▸ List.nil_suffix))
  | ipv4 event iface =>
    simp only [wifiStep, Option.ite_none_left_eq_some, Option.some.injEq, not_not] at stepped
    obtain ⟨idle, rfl⟩ := stepped
    apply inv.takeOther idle
    -- The handler's program is the end of the getter's.
    have mark : markStaIpv4Ready <:+ wifiManagerStaReady := List.suffix_append ..
    cases event with
    | addrAdd => exact .inl mark
    | dhcpBound => exact .inl mark
    | dhcpStop =>
      apply Or.inr
      simp only [ipv4EventHandler]
      split_ifs
      · exact List.suffix_refl _
      · exact List.nil_suffix
  | handler table => exact handlerStep_invariant inv timely stepped
  | staReady getter =>
    simp only [wifiStep, Option.ite_none_left_eq_some, Option.some.injEq] at stepped
    obtain ⟨-, rfl⟩ := stepped
    exact inv.keep (fun _ _ set => .inl set) rfl le_rfl rfl rfl rfl
      (inv.getterRuns (List.suffix_refl _))
  | getter getter table => exact getterStep_invariant inv timely stepped
  | thread accepted => exact staThreadStep_invariant inv timely stepped

theorem wifiStart_invariant : StaInvariant wifiStart where
  awaited _ _ := nofun
  lastDown _ _ := nofun
  handling := nofun
  other _ := .inl List.nil_suffix
  getters _ := List.nil_suffix

end Steps

/-! ## The law -/

/-- As long as no write sets a flag with nothing left that would clear it, the retry is never
stuck. -/
theorem retries_when_quiet (staIface : Option NetIf) (staCfg : BridgeConfigSta)
    (labels : List WifiLabel) (world : WifiWorld)
    (ran : Transitions.run (wifiStep staIface staCfg) wifiStart labels = some world)
    (timely : Transitions.Meets (wifiStep staIface staCfg) TimelyWrite wifiStart labels) :
    RetriesWhenQuiet world := by
  have inv : StaInvariant world := Transitions.invariant_of_meets
    (fun _ _ _ inv timely stepped => wifiStep_invariant inv timely stepped)
    wifiStart_invariant timely ran
  intro head lost answered delivered handled
  have quiet : ∀ flag : StaFlag, flag.Waits → world.flags flag = false := by
    intro flag waits
    apply Bool.eq_false_iff.mpr
    intro set
    rcases inv.awaited flag waits set with link | out | queued | ahead
    · simp [lost] at link
    · simp [answered] at out
    · exact queued delivered
    · rcases handled with other | idle
      · exact absurd (inv.otherWrites other waits ahead).2 (by decide)
      · simp [idle] at ahead
  exact ⟨quiet _ (.inl rfl), quiet _ (.inr rfl)⟩

/-! ## Runs -/

section Runs

/-- A station with a network to connect to. -/
def homeSta : BridgeConfigSta := ⟨true, false, .ofBytes _ [0x68], .ofBytes _ []⟩

/-- The address that DHCP has given to the station. -/
def leasedTable : UnicastTable := some [⟨true, .dhcp, 0xc0a80164⟩]

/-- `wifi_manager_start` up to the write behind its request. -/
def bootRequest : List WifiLabel := [.thread true, .thread true]

/-- The network management thread takes an event and handles it to the end. -/
def deliverAndHandle (accesses : ℕ) (table : UnicastTable) : List WifiLabel :=
  .deliver :: List.replicate accesses (.handler table)

/-- A connection with an address, and the loss of its link. -/
def connectAndLose : List WifiLabel :=
  bootRequest ++ [.thread true, .answer 0] ++ deliverAndHandle 8 leasedTable ++
    [.linkLost] ++ deliverAndHandle 4 leasedTable ++ [.thread true]

theorem retries_when_quiet_connectAndLose :
    ∃ world, Transitions.run (wifiStep (some 1) homeSta) wifiStart connectAndLose = some world ∧
      Transitions.Meets (wifiStep (some 1) homeSta) TimelyWrite wifiStart connectAndLose ∧
      RetriesWhenQuiet world :=
  have timely : Transitions.Meets (wifiStep (some 1) homeSta) TimelyWrite wifiStart
      connectAndLose := by decide
  ⟨_, rfl, timely, retries_when_quiet (some 1) homeSta connectAndLose _ rfl timely⟩

/-- The answer to the first request is a failure and handled before the request returns. -/
def overtakenRequest : List WifiLabel :=
  bootRequest ++ [.answer 1] ++ deliverAndHandle 4 none ++ [.thread true, .thread true]

/-- An address event of the access point finds the address of the lost connection. -/
def staleAddress : List WifiLabel :=
  connectAndLose ++ [.ipv4 .addrAdd 0] ++ List.replicate 5 (.handler leasedTable)

/-- In both runs the retry waits for ever. -/
theorem retry_gets_stuck :
    (∃ world, Transitions.run (wifiStep (some 1) homeSta) wifiStart overtakenRequest =
        some world ∧ ¬ RetriesWhenQuiet world) ∧
      ∃ world, Transitions.run (wifiStep (some 1) homeSta) wifiStart staleAddress =
        some world ∧ ¬ RetriesWhenQuiet world := by
  constructor
  · refine ⟨_, rfl, fun quiet => ?_⟩
    exact absurd (quiet rfl rfl rfl rfl (.inr rfl)).2 (by decide)
  · refine ⟨_, rfl, fun quiet => ?_⟩
    exact absurd (quiet rfl rfl rfl rfl (.inr rfl)).1 (by decide)

end Runs

end EspNmeaBridge
