/-
# What the page shows is what boots

The page speaks of the configuration in RAM, a reboot loads the one in the store. Connections
change both through the setters and the factory reset only. So along any run of connections and
reboots the two agree, but for a reset that waits for its reboot, and but for the time behind a
boot that could not load the store.

The settings subsystem may fail at any boot: it may not start, end the scan early, or misread
records. At a record named exactly `bridge` the boot crashes; a device that has come up with the
whole store comes up again.
-/

import EspNmeaBridge.BridgeConfig.RebootNotice
import EspNmeaBridge.WebApp.OtaServer
import EspNmeaBridge.WebApp.PageAgrees
import EspNmeaBridge.WebApp.PskSecrecy

namespace EspNmeaBridge

open CString

/-! ## The device -/

/-- What the settings subsystem does at a boot. -/
structure SettingsScan where
  subsysRet : Option Errno
  order : EnumerationOrder
  /-- How many stored names the scan gets to before it fails, and the error; unless it comes
  to its end. -/
  failed : Option (ℕ × Errno)
  /-- What `read_cb` gives in place of the record under a key. -/
  misread : SettingsName → Option ((size : ℕ) → ReadResult size)

namespace SettingsScan

variable (scan : SettingsScan)

/-- The stored names that the scan gets to. -/
def visited (store : SettingsStore) : List SettingsName :=
  let names := scan.order.visit store.keys
  match scan.failed with
  | none => names
  | some (count, _) => names.take count

def load (stored : SettingsLoad) : SettingsLoad :=
  match scan.misread stored.name with
  | none => stored
  | some read => { stored with read }

def loads (store : SettingsStore) : List SettingsLoad :=
  (scan.visited store).filterMap fun name => (handedLoad store name).map scan.load

/-- The whole store is handed over as it is. -/
structure Complete : Prop where
  started : scan.subsysRet = none
  ended : scan.failed = none
  read : ∀ key, scan.misread key = none

end SettingsScan

/-- The web server, and how the store was loaded at the last boot. -/
structure Device where
  server : WebServer
  scan : SettingsScan

/-- Power-up, as `main` leaves it to the web server, whatever `bridge_config_init` returned.
There is no result if the callback compares the NULL name it gets for the bare subtree. -/
def powerUp (defaults : EffectiveConfig) (scan : SettingsScan) (store : SettingsStore) :
    Option Device :=
  if scan.subsysRet = none ∧ ∃ name ∈ scan.visited store, subtreeKeyOf name = some none then none
  else
    let (config, _) :=
      bridgeConfigInit scan.subsysRet (scan.loads store) (scan.failed.map Prod.snd) defaults
    some
      { server :=
          { web :=
              { config :=
                  { config
                    rebootRequired := false
                    factoryResetPending := false
                    listener := true
                    store }
                telemetry := ⟨0, 0, false⟩ }
            ota := otaRuntimeZero }
        scan }

inductive DeviceStep where
  | connection (conn : Connection)
  | reboot (scan : SettingsScan)

/-- A connection is served, or the chip restarts with what is stored. -/
def deviceStep (cfg : OtaKconfig) (defaults : EffectiveConfig) (device : Device) :
    DeviceStep → Option Device
  | .connection conn => (webServerStep cfg device.server conn).map fun server =>
      { device with server }
  | .reboot scan => powerUp defaults scan device.server.web.config.store

section PowerUp

variable {defaults : EffectiveConfig} {scan : SettingsScan} {store : SettingsStore}
  {device : Device}

/-- The only name below the subtree without a key is that of the subtree. -/
theorem subtreeKeyOf_eq_bare {name : SettingsName} :
    subtreeKeyOf name = some none ↔ name = bridgeConfigSubtree :=
  ⟨subtreeKeyOf_eq_some, by rintro rfl; rfl⟩

theorem powerUp_scan (booted : powerUp defaults scan store = some device) :
    device.scan = scan := by
  unfold powerUp at booted
  split_ifs at booted
  rw [← Option.some.inj booted]

/-- A boot that is handed the whole store crashes at the bare record, or is a boot of the
store. -/
theorem powerUp_complete (defaults : EffectiveConfig) (complete : scan.Complete)
    (store : SettingsStore) :
    powerUp defaults scan store =
      if bridgeConfigSubtree ∈ store then none
      else some
        { server :=
            { web :=
                { config := { boot defaults scan.order store with listener := true }
                  telemetry := ⟨0, 0, false⟩ }
              ota := otaRuntimeZero }
          scan } := by
  obtain ⟨started, ended, read⟩ := complete
  have visited : scan.visited store = scan.order.visit store.keys := by
    simp [SettingsScan.visited, ended]
  have whole : scan.loads store = storedLoads scan.order store := by
    rw [SettingsScan.loads, visited, storedLoads]
    congr 1
    funext name
    cases handedLoad store name <;> simp [SettingsScan.load, read]
  have bare : (∃ name ∈ scan.visited store, subtreeKeyOf name = some none) ↔
      bridgeConfigSubtree ∈ store := by
    simp only [subtreeKeyOf_eq_bare, exists_eq_right, visited,
      (scan.order.visits store.keys).mem_iff, AList.mem_keys]
  simp only [powerUp, started, true_and, bare, whole, ended, boot, Option.map_none]

end PowerUp

/-! ## What connections keep -/

section Connections

variable {defaults : EffectiveConfig} {P : ConfigWorld → Prop} {backend : WebBackend}
  {state : WebState} {recvs : List WebRecv} {answer : ClientAnswer}

/-- What the setters and the reset keep. -/
def KeptByCalls (defaults : EffectiveConfig) (P : ConfigWorld → Prop) : Prop :=
  ∀ settingsMaxNameLen world op, op.isCall → P world →
    P (configStep ⟨defaults, settingsMaxNameLen⟩ world op).1

theorem KeptByCalls.set (kept : KeptByCalls defaults P) {world : ConfigWorld} {g : Group}
    (config : Option g.Config) (saveRet : Option Errno) (before : P world) :
    P (bridgeConfigSet g world config saveRet).1 :=
  kept 0 world (.set g config saveRet) trivial before

theorem Replays.keeps
    (kept : ∀ world (g : Group) (config : g.Config) saveRet, P world →
      P (bridgeConfigSet g world (some config) saveRet).1)
    {saveRet : Group → Option Errno} {world last : ConfigWorld} {calls : List BridgeConfigCall}
    (replays : Replays saveRet world calls last) (before : P world) : P last := by
  induction replays with
  | nil => exact before
  | set rest ih => exact ih (kept _ _ _ _ before)

theorem handleConfigUpdate_keeps (kept : KeptByCalls defaults P)
    {jsonObjParse : List UInt8 → JsonResult} {request : HttpRequest}
    {saveRet : Group → Option Errno} {world : ConfigWorld} {update : ConfigUpdate}
    (handled : handleConfigUpdate jsonObjParse request recvs saveRet world = some update)
    (before : P world) : P update.world :=
  (setterCalls_replays handled).1.keeps (fun _ _ _ _ => kept.set _ _) before

theorem handlePost_keeps (kept : KeptByCalls defaults P) {request : ParsedRequest}
    (before : P state.config) (served : handlePost backend state request recvs = some answer) :
    P answer.state.config := by
  unfold handlePost at served
  split_ifs at served
  · obtain rfl := Option.some.inj served
    exact before
  · obtain ⟨update, handled, rfl⟩ := Option.map_eq_some_iff.mp served
    exact handleConfigUpdate_keeps kept handled before
  · obtain rfl := Option.some.inj served
    exact kept backend.settingsMaxNameLen state.config
      (.factoryReset backend.resetOrder backend.deleteRet) trivial before
  · obtain rfl := Option.some.inj served
    exact before
  · obtain rfl := Option.some.inj served
    exact before

theorem handleGet_config (backend : WebBackend) (state : WebState) (path : List UInt8) :
    (handleGet backend state path).state.config = state.config := by
  unfold handleGet
  split_ifs
  · unfold handleStatus
    split
    split
    rfl
  · rfl
  · rfl

/-- So does a connection, whatever is requested. -/
theorem handleClient_keeps (kept : KeptByCalls defaults P) (before : P state.config)
    (served : handleClient backend state recvs = some answer) : P answer.state.config := by
  unfold handleClient at served
  split_ifs at served
  · obtain rfl := Option.some.inj served
    exact before
  split at served
  · obtain rfl := Option.some.inj served
    exact before
  · unfold handleRequest at served
    split_ifs at served
    · obtain rfl := Option.some.inj served
      rwa [handleGet_config]
    · exact handlePost_keeps kept before served
    · obtain rfl := Option.some.inj served
      exact before

end Connections

/-! ## RAM and store along a run -/

section Runs

variable {cfg : OtaKconfig} {defaults : EffectiveConfig} {g : Group} {world : ConfigWorld}

/-- What is in RAM is what would be booted. -/
def BootsAsShown (defaults : EffectiveConfig) (g : Group) (world : ConfigWorld) : Prop :=
  BootsTo defaults g (world.config g) world

theorem bootsAsShown_set (agrees : Agrees defaults g world) {config : g.Config}
    {saveRet : Option Errno} (done : (bridgeConfigSet g world (some config) saveRet).2.ret = none) :
    BootsAsShown defaults g (bridgeConfigSet g world (some config) saveRet).1 := by
  rcases bridgeConfigSet_effect world config saveRet with ⟨failed, -⟩ | ⟨-, value, -⟩
  · exact absurd done failed
  · exact (agrees.bootsTo_set done).trans value.symm

/-- A later setter, of the same group or another one, does not change that. -/
theorem BootsAsShown.set (boots : BootsAsShown defaults g world) (h : Group) (config : h.Config)
    (saveRet : Option Errno) :
    BootsAsShown defaults g (bridgeConfigSet h world (some config) saveRet).1 := by
  rcases bridgeConfigSet_effect world config saveRet with ⟨-, same, -⟩ | ⟨done, -, others, stored⟩
  · rwa [same]
  · by_cases own : g = h
    · subst own
      exact bootsAsShown_set (Or.inr boots.symm) done
    · have key : g.key ≠ h.key := fun same => own (Group.key_injective same)
      unfold BootsAsShown BootsTo
      rw [others g own, bootValue_congr (stored g.key key)]
      exact boots

/-- Every setter that returned 0 has left its group in RAM as it boots. -/
theorem Replays.bootsAsShown {saveRet : Group → Option Errno} {last : ConfigWorld}
    {calls : List BridgeConfigCall} (replays : Replays saveRet world calls last)
    (agrees : ∀ g, Agrees defaults g world) {config : g.Config} {answer : ConfigAnswer}
    (call : .set g config answer ∈ calls) (done : answer.ret = none) :
    BootsAsShown defaults g last := by
  induction replays with
  | nil => cases call
  | @set world last h next calls rest ih =>
    rcases List.mem_cons.mp call with head | later
    · obtain ⟨rfl, same, rfl⟩ := BridgeConfigCall.set.inj head
      obtain rfl := eq_of_heq same
      exact rest.keeps (fun _ h config saveRet boots => boots.set h config saveRet)
        (bootsAsShown_set (agrees _) done)
    · exact ih (fun g => (agrees g).set _ _) later

/-- RAM is what would be booted unless a reset is pending, and the boot would not crash. -/
structure InStep (defaults : EffectiveConfig) (world : ConfigWorld) : Prop where
  agrees : ∀ g, Agrees defaults g world
  noBare : bridgeConfigSubtree ∉ world.store

/-- No call stores a record named like the subtree. -/
theorem noBare_kept (defaults : EffectiveConfig) :
    KeptByCalls defaults fun world => bridgeConfigSubtree ∉ world.store := by
  intro settingsMaxNameLen world op call absent
  cases op with
  | setListener present => exact absent
  | set g next saveRet =>
    rcases bridgeConfigSet_cases world next saveRet with
      ⟨-, same, -⟩ | ⟨v, -, -, -, ⟨same, -⟩ | ⟨-, store, -⟩⟩
    · rwa [configStep, same]
    · rwa [configStep, same]
    · have other : bridgeConfigSubtree ≠ g.key := by cases g <;> decide
      rw [configStep, store, AList.mem_insert, not_or]
      exact ⟨other, absent⟩
  | factoryReset order deleteRet =>
    have done : resetPasses settingsMaxNameLen order deleteRet (world.store.keys.length + 1)
        ⟨world.store, 0, []⟩ =
          some (resetResult settingsMaxNameLen order deleteRet world.store) :=
      (Option.some_get _).symm
    exact fun stored => absent ((resetPasses_keys done).subset stored)
  | boot order => exact call.elim
  | settingsSet load => exact call.elim

theorem inStep_kept (defaults : EffectiveConfig) : KeptByCalls defaults (InStep defaults) :=
  fun settingsMaxNameLen world op call inStep =>
    ⟨fun g => (inStep.agrees g).step call.whileRunning,
      noBare_kept defaults settingsMaxNameLen world op call inStep.noBare⟩

variable {store : SettingsStore} {scan : SettingsScan} {steps : List DeviceStep}
  {booted device : Device}

/-- Whatever was booted from the whole store is in step with it. -/
theorem inStep_powerUp (complete : scan.Complete)
    (start : powerUp defaults scan store = some device) :
    InStep defaults device.server.web.config := by
  rw [powerUp_complete defaults complete] at start
  split_ifs at start with bare
  obtain rfl := Option.some.inj start
  exact ⟨fun g => Or.inr (congrArg _ (boot_config defaults scan.order store g)), bare⟩

/-- With the whole store the device comes up again, and each group that boots as shown has its
value. -/
theorem InStep.comesUp (inStep : InStep defaults world) (complete : scan.Complete) :
    ∃ rebooted, powerUp defaults scan world.store = some rebooted ∧
      rebooted.server.web.config.rebootRequired = false ∧
      ∀ g, BootsAsShown defaults g world →
        (configGroup g).value (rebooted.server.web.config.config g) =
          (configGroup g).value (world.config g) := by
  refine ⟨_, (powerUp_complete defaults complete _).trans (if_neg inStep.noBare), rfl, ?_⟩
  intro g boots
  exact (congrArg _ (boot_config defaults scan.order world.store g)).trans boots

/-- What the calls keep and a boot of the whole store establishes holds until the next boot. -/
theorem deviceStep_invariant {P : ConfigWorld → Prop} (kept : KeptByCalls defaults P)
    (boots : ∀ scan store device, SettingsScan.Complete scan →
      powerUp defaults scan store = some device → P device.server.web.config)
    (start : powerUp defaults scan store = some booted)
    (ran : Transitions.run (deviceStep cfg defaults) booted steps = some device) :
    device.scan.Complete → P device.server.web.config := by
  refine Transitions.invariant (P := fun device => device.scan.Complete →
    P device.server.web.config) ?_ (fun complete => boots _ _ _ ?_ start) ran
  · intro device step next before stepped complete
    cases step with
    | connection conn =>
      obtain ⟨server, connected, rfl⟩ := Option.map_eq_some_iff.mp stepped
      obtain ⟨served, serving, rfl⟩ := Option.map_eq_some_iff.mp connected
      obtain ⟨answer, answered, rfl⟩ := Option.map_eq_some_iff.mp serving
      exact handleClient_keeps kept (before complete) answered
    | reboot scan =>
      rw [powerUp_scan stepped] at complete
      exact boots _ _ _ complete stepped
  · rwa [powerUp_scan start] at complete

end Runs

/-- Along every run of connections and reboots, of which any may fail to load the store: if the
last boot was handed the whole store, and the next one is, too, the device comes up again.
Unless a reset is pending, this reboot changes no value of the configuration and nothing of what
the page is shown but the reboot notice; and even if one is, every group that a request has
saved is after a reboot as the request left it. -/
theorem shown_config_is_booted (cfg : OtaKconfig) (defaults : EffectiveConfig)
    (scan : SettingsScan) (store : SettingsStore) (steps : List DeviceStep)
    (booted device : Device) (start : powerUp defaults scan store = some booted)
    (ran : Transitions.run (deviceStep cfg defaults) booted steps = some device)
    (last : device.scan.Complete) (scan' : SettingsScan) (next : scan'.Complete) :
    let world := device.server.web.config
    (∃ rebooted, powerUp defaults scan' world.store = some rebooted ∧
      (world.factoryResetPending = false →
        (∀ g, (configGroup g).value (rebooted.server.web.config.config g) =
          (configGroup g).value (world.config g)) ∧
        configResponse rebooted.server.web = writeConfigJson "200 OK" world.config false)) ∧
    ∀ (jsonObjParse : List UInt8 → JsonResult) (request : HttpRequest) (recvs : List WebRecv)
      (saveRet : Group → Option Errno) (update : ConfigUpdate),
      handleConfigUpdate jsonObjParse request recvs saveRet world = some update →
      ∃ rebooted, powerUp defaults scan' update.world.store = some rebooted ∧
        ∀ call ∈ update.calls, call.2.ret = none →
          (configGroup call.1).value (rebooted.server.web.config.config call.1) =
            (configGroup call.1).value (update.world.config call.1) := by
  intro world
  have inStep : InStep defaults world :=
    deviceStep_invariant (inStep_kept defaults) (fun _ _ _ => inStep_powerUp) start ran last
  constructor
  · obtain ⟨rebooted, again, unnoticed, same⟩ := inStep.comesUp next
    refine ⟨rebooted, again, fun settled => ?_⟩
    have values (g : Group) : (configGroup g).value (rebooted.server.web.config.config g) =
        (configGroup g).value (world.config g) :=
      same g ((inStep.agrees g).resolve_left (by simp [settled])).symm
    refine ⟨values, ?_⟩
    have text : configJson rebooted.server.web.config.config false =
        configJson world.config false :=
      configJson_alike (fun g => (Alike.refl _).congr rfl (values g)) false
    rw [configResponse, unnoticed]
    exact congrArg (HttpResponse.mk "200 OK" "application/json" <| snprintk 640 ·) text
  · intro jsonObjParse request recvs saveRet update handled
    obtain ⟨replays, recorded⟩ := setterCalls_replays handled
    have after := handleConfigUpdate_keeps (inStep_kept defaults) handled inStep
    obtain ⟨rebooted, again, -, same⟩ := after.comesUp next
    refine ⟨rebooted, again, fun call member done => ?_⟩
    -- Every call made is recorded with its argument.
    obtain ⟨called, given⟩ := Option.isSome_iff_exists.mp
      (List.filterMap_length_eq_length.mp recorded call member)
    obtain ⟨config, -, rfl⟩ := Option.map_eq_some_iff.mp given
    exact same call.1 (replays.bootsAsShown inStep.agrees
      (List.mem_filterMap.mpr ⟨call, member, given⟩) done)

/-- The filter is switched on and the TCP client off. -/
def samplePostConnection : Connection where
  recvs :=
    [.received (ascii "POST /api/config HTTP/1.1\r\nContent-Length: 54\r\n\r\n" ++
      samplePost.body)]
  backend := { sampleBackend with jsonObjParse := samplePostParse }
  flash := sampleFlash
  sent := true

/-- A boot of the whole store. -/
def wholeScan : SettingsScan := ⟨none, storageOrder, none, fun _ => none⟩

/-- A boot at which the settings subsystem does not start. -/
def noScan : SettingsScan := { wholeScan with subsysRet := some (.other 5) }

theorem complete_wholeScan : wholeScan.Complete := ⟨rfl, rfl, fun _ => rfl⟩

/-- Between the posts the device ran on the defaults for a while; what was saved last is what a
reboot brings back. -/
theorem shown_config_is_booted_afterPost :
    ∃ booted device,
      powerUp sampleBuild.defaults wholeScan ∅ = some booted ∧
      Transitions.run (deviceStep ⟨0, by decide⟩ sampleBuild.defaults) booted
        [.connection samplePostConnection, .reboot noScan, .reboot wholeScan,
          .connection samplePostConnection] = some device ∧
      let world := device.server.web.config
      (world.config .ais).filterEnabled = true ∧
      ∃ rebooted, powerUp sampleBuild.defaults wholeScan world.store = some rebooted ∧
        (∀ g, (configGroup g).value (rebooted.server.web.config.config g) =
          (configGroup g).value (world.config g)) ∧
        configResponse rebooted.server.web = writeConfigJson "200 OK" world.config false := by
  have reached : ((powerUp sampleBuild.defaults wholeScan ∅).bind fun booted =>
      Transitions.run (deviceStep ⟨0, by decide⟩ sampleBuild.defaults) booted
        [.connection samplePostConnection, .reboot noScan, .reboot wholeScan,
          .connection samplePostConnection]).any (fun device =>
        (device.server.web.config.config .ais).filterEnabled &&
          !device.server.web.config.factoryResetPending) = true := by decide +kernel
  obtain ⟨device, came, state⟩ := (Option.any_eq_true _ _).mp reached
  obtain ⟨booted, start, ran⟩ := Option.bind_eq_some_iff.mp came
  rw [Bool.and_eq_true, Bool.not_eq_true'] at state
  have last : device.scan = wholeScan := by
    obtain ⟨posted, -, others⟩ := Transitions.run_cons.mp ran
    obtain ⟨failed, -, others⟩ := Transitions.run_cons.mp others
    obtain ⟨loaded, up, others⟩ := Transitions.run_cons.mp others
    obtain ⟨device, connected, same⟩ := Transitions.run_cons.mp others
    obtain rfl := Option.some.inj same
    obtain ⟨server, -, rfl⟩ := Option.map_eq_some_iff.mp connected
    have scanned : loaded.scan = wholeScan := powerUp_scan up
    exact scanned
  obtain ⟨rebooted, again, same⟩ := (shown_config_is_booted ⟨0, by decide⟩ sampleBuild.defaults
    wholeScan ∅ _ booted device start ran (last ▸ complete_wholeScan) wholeScan
    complete_wholeScan).1
  exact ⟨booted, device, start, ran, state.1, rebooted, again, same state.2⟩

end EspNmeaBridge
