/-
# Live settings and their consumers

The UART reader and the TCP client keep copies of the settings that apply at once. `main`
registers one listener for both and calls it before it starts the threads; from then on
a setter calls it when the value of its group changed. A configuration POST calls up to
five setters one after the other, and so up to two times the listener.

Between two operations every copy is that of the effective configuration, as the
consumers read it: the host is a C string, and what stands behind its end is nobody's
business. The generation of the TCP client moves only with its settings, so a change of
the AIS filter drops no session.
-/

import EspNmeaBridge.TcpNmeaClient
import EspNmeaBridge.UartNmea
import EspNmeaBridge.WebApp.ConfigUpdate

namespace EspNmeaBridge

/-! ## The consumers -/

/-- The copies: `ais_effective_mmsi`, and the static data of the TCP client. -/
structure LiveConsumers where
  aisEffectiveMmsi : UInt32
  client : TcpNmeaClient

structure LiveWorld where
  config : ConfigWorld
  consumers : LiveConsumers

/-- The listener of `main`. -/
def bridgeConfigChanged (config : EffectiveConfig) (consumers : LiveConsumers) : LiveConsumers where
  aisEffectiveMmsi := uartNmeaSetAisConfig (config .ais).filterEnabled (config .ais).ownMmsi
  client := (tcpNmeaClientConfigChanged consumers.client (config .tcpClient)).1

/-- `main` behind its first call of the listener, whatever was loaded. -/
def liveStart (config : ConfigWorld) : LiveWorld where
  config := { config with listener := true }
  consumers := bridgeConfigChanged config.config ⟨0, tcpNmeaClientZero⟩

/-! ## Operations -/

/-- A call of one of the five setters. -/
structure SetterCall where
  group : Group
  next : Option group.Config
  saveRet : Option Errno

def liveSet (live : LiveWorld) (call : SetterCall) : LiveWorld :=
  match bridgeConfigSet call.group live.config call.next call.saveRet with
  | (config, answer) =>
    { config
      consumers :=
        if answer.notified then bridgeConfigChanged config.config live.consumers
        else live.consumers }

/-- The listener calls of a POST: `config` was in effect before the setters, `after` is in
effect behind them. Each group is set once, so what its setter left is what the POST left. -/
def notifyCalls (after config : EffectiveConfig) (consumers : LiveConsumers) :
    List (Group × ConfigAnswer) → LiveConsumers
  | [] => consumers
  | (g, answer) :: calls =>
    let config := if answer.ret = none then Function.update config g (after g) else config
    notifyCalls after config
      (if answer.notified then bridgeConfigChanged config consumers else consumers) calls

inductive LiveOp where
  | set (call : SetterCall)
  | factoryReset (order : EnumerationOrder) (deleteRet : ℕ → Option Errno)
  | post (jsonObjParse : List UInt8 → JsonResult) (request : HttpRequest) (recvs : List WebRecv)
      (saveRet : Group → Option Errno)

def liveStep (build : ConfigBuild) (live : LiveWorld) : LiveOp → LiveWorld
  | .set call => liveSet live call
  | .factoryReset order deleteRet =>
    { live with
      config := (bridgeConfigFactoryReset build.settingsMaxNameLen live.config order deleteRet).1 }
  | .post jsonObjParse request recvs saveRet =>
    match handleConfigUpdate jsonObjParse request recvs saveRet live.config with
    | none => live
    | some update =>
      { config := update.world
        consumers :=
          notifyCalls update.world.config live.config.config live.consumers update.calls }

/-! ## A POST is a sequence of setter calls -/

section Posts

variable {world : ConfigWorld}

/-- Behind the setter of one group, the configuration as the whole POST leaves it. -/
theorem update_of_kept {g : Group} {config after final : EffectiveConfig}
    (others : ∀ h, h ≠ g → after h = config h) (kept : final g = after g) :
    Function.update config g (final g) = after := by
  funext h
  by_cases own : h = g
  · subst own
    rw [Function.update_self, kept]
  · rw [Function.update_of_ne own, others h own]

theorem saveGroups_sets {next : (g : Group) → EffectiveConfig → Option g.Config}
    {saveRet : Group → Option Errno} {groups : List Group} (distinct : groups.Nodup)
    {update : ConfigUpdate} (run : saveGroups next saveRet groups world = some update)
    (consumers : LiveConsumers) :
    (∀ g, g ∉ groups → update.world.config g = world.config g) ∧
      ∃ calls : List SetterCall, (calls.map SetterCall.group).Sublist groups ∧
        calls.foldl liveSet ⟨world, consumers⟩ = ⟨update.world,
          notifyCalls update.world.config world.config consumers update.calls⟩ := by
  induction groups generalizing world update consumers with
  | nil =>
    obtain rfl := Option.some.inj run
    exact ⟨fun _ _ => rfl, [], .slnil, rfl⟩
  | cons g groups ih =>
    rw [List.nodup_cons] at distinct
    simp only [saveGroups, Option.bind_eq_bind, Option.bind_eq_some_iff] at run
    obtain ⟨config, given, run⟩ := run
    have others := bridgeConfigSet_others world (some config) (saveRet g)
    split_ifs at run with failed
    · -- The failed setter has changed nothing and called nobody.
      obtain rfl := Option.some.inj run
      obtain ⟨same, silent⟩ : (bridgeConfigSet g world (some config) (saveRet g)).1 = world ∧
          (bridgeConfigSet g world (some config) (saveRet g)).2.notified = false := by
        rcases bridgeConfigSet_effect world config (saveRet g) with ⟨-, same, silent⟩ | ⟨done, -⟩
        · exact ⟨same, silent⟩
        · exact absurd done failed
      refine ⟨fun h _ => by rw [same], [⟨g, some config, saveRet g⟩],
        List.singleton_sublist.mpr List.mem_cons_self, ?_⟩
      simp only [List.foldl_cons, List.foldl_nil, liveSet, notifyCalls, silent]
      rfl
    · simp only [Option.bind_eq_some_iff, Option.some.injEq] at run
      obtain ⟨rest, ran, rfl⟩ := run
      obtain ⟨kept, calls, inside, sets⟩ := ih distinct.2 ran
        (if (bridgeConfigSet g world (some config) (saveRet g)).2.notified then
          bridgeConfigChanged (bridgeConfigSet g world (some config) (saveRet g)).1.config consumers
        else consumers)
      refine ⟨fun h outside => ?_, ⟨g, some config, saveRet g⟩ :: calls, inside.cons_cons g, ?_⟩
      · rw [List.mem_cons, not_or] at outside
        rw [kept h outside.2, others h outside.1]
      · simp only [List.foldl_cons, notifyCalls, if_pos (not_not.mp failed),
          update_of_kept others (kept g distinct.1)]
        exact sets

/-- A POST does to the configuration and its consumers what its setters do in turn. -/
theorem liveStep_post (build : ConfigBuild) (live : LiveWorld)
    (jsonObjParse : List UInt8 → JsonResult) (request : HttpRequest) (recvs : List WebRecv)
    (saveRet : Group → Option Errno) :
    ∃ calls : List SetterCall, (calls.map SetterCall.group).Nodup ∧
      liveStep build live (.post jsonObjParse request recvs saveRet) =
        calls.foldl liveSet live := by
  obtain ⟨update, run, outcome⟩ :=
    handleConfigUpdate_total jsonObjParse request recvs saveRet live.config
  have refused {response : ConfigResponse} (answer : update = answered response live.config) :
      ∃ calls : List SetterCall, (calls.map SetterCall.group).Nodup ∧
        liveStep build live (.post jsonObjParse request recvs saveRet) =
          calls.foldl liveSet live := by
    refine ⟨[], .nil, ?_⟩
    simp only [liveStep, run, answer]
    rfl
  cases outcome with
  | tooLarge answer => exact refused answer
  | badBody message answer => exact refused answer
  | decoded body present payload received parsed updated =>
    cases passed : firstFieldError (jsonMask present) payload with
    | some response =>
      simp only [updateConfig, passed, Option.some.injEq] at updated
      exact refused updated.symm
    | none =>
      obtain ⟨sta, ap, system, -, -, -, handled⟩ := updateConfig_merges saveRet live.config passed
      rw [handled] at updated
      split_ifs at updated
      · exact refused (Option.some.inj updated).symm
      · -- Each submitted group has one setter call, in the order they are saved.
        obtain ⟨-, calls, inside, sets⟩ :=
          saveGroups_sets (saveOrder_nodup present) updated live.consumers
        refine ⟨calls, inside.nodup (saveOrder_nodup present), ?_⟩
        simp only [liveStep, run]
        exact sets.symm

end Posts

/-! ## Coherence -/

/-- The consumers have what is in effect. -/
structure Coherent (live : LiveWorld) : Prop where
  listening : live.config.listener = true
  seenValid : live.consumers.client.seenCfgValid = true
  ais : live.consumers.aisEffectiveMmsi =
    uartNmeaSetAisConfig (live.config.config .ais).filterEnabled (live.config.config .ais).ownMmsi
  tcpClient : live.consumers.client.seenCfg.value = (live.config.config .tcpClient).value

section Coherence

variable {build : ConfigBuild} {live : LiveWorld}

theorem liveStart_coherent (config : ConfigWorld) : Coherent (liveStart config) :=
  ⟨rfl, rfl, rfl, rfl⟩

/-- Whatever they had before, the listener brings the consumers up to date. -/
theorem bridgeConfigChanged_coherent {config : ConfigWorld} (consumers : LiveConsumers)
    (listening : config.listener = true) :
    Coherent ⟨config, bridgeConfigChanged config.config consumers⟩ := by
  refine ⟨listening, ?_, rfl, ?_⟩
  · simp only [bridgeConfigChanged, tcpNmeaClientConfigChanged]
    split_ifs <;> rfl
  · simp only [bridgeConfigChanged, tcpNmeaClientConfigChanged]
    split_ifs <;> rfl

/-- The listener moves the generation when the client's settings are not those seen. -/
theorem bridgeConfigChanged_configGen {config : EffectiveConfig} {consumers : LiveConsumers}
    (valid : consumers.client.seenCfgValid = true)
    (same : consumers.client.seenCfg.value = (config .tcpClient).value) :
    (bridgeConfigChanged config consumers).client.configGen = consumers.client.configGen := by
  have seen : ¬ configDiffers consumers.client (config .tcpClient) = true :=
    mt (configDiffers_iff valid).mp (not_not.mpr same)
  rw [bridgeConfigChanged, tcpNmeaClientConfigChanged, if_neg seen]
  rfl

theorem liveSet_coherent (coherent : Coherent live) (call : SetterCall) :
    Coherent (liveSet live call) := by
  have listening : (bridgeConfigSet call.group live.config call.next call.saveRet).1.listener =
      true := by
    rw [bridgeConfigSet_listener, coherent.listening]
  cases notified : (bridgeConfigSet call.group live.config call.next call.saveRet).2.notified with
  | true =>
    simp only [liveSet, notified, if_true]
    exact bridgeConfigChanged_coherent live.consumers listening
  | false =>
    -- Nobody was called, so no value that is read live has changed.
    have kept := bridgeConfigSet_quiet coherent.listening notified
    have ais := kept .ais rfl
    have tcp := kept .tcpClient rfl
    simp only [configGroup, aisGroup, BridgeConfigAis.value, Prod.mk.injEq] at ais
    simp only [liveSet, notified, Bool.false_eq_true, if_false]
    refine ⟨listening, coherent.seenValid, ?_, coherent.tcpClient.trans tcp.symm⟩
    simpa only [ais.1, ais.2] using coherent.ais

/-- A setter that leaves the client's settings leaves the generation. -/
theorem liveSet_configGen (coherent : Coherent live) {call : SetterCall}
    (same : ((liveSet live call).config.config .tcpClient).value =
      (live.config.config .tcpClient).value) :
    (liveSet live call).consumers.client.configGen = live.consumers.client.configGen := by
  simp only [liveSet] at same ⊢
  split_ifs with notified
  · exact bridgeConfigChanged_configGen coherent.seenValid (coherent.tcpClient.trans same.symm)
  · rfl

theorem liveSet_others (live : LiveWorld) {call : SetterCall} {g : Group}
    (other : g ≠ call.group) : (liveSet live call).config.config g = live.config.config g :=
  bridgeConfigSet_others live.config call.next call.saveRet g other

/-- Setters of distinct groups in turn: the client's settings change in one of them at most. -/
theorem foldl_liveSet {calls : List SetterCall} (coherent : Coherent live)
    (distinct : (calls.map SetterCall.group).Nodup) :
    Coherent (calls.foldl liveSet live) ∧
      (Group.tcpClient ∉ calls.map SetterCall.group →
        (calls.foldl liveSet live).config.config .tcpClient = live.config.config .tcpClient) ∧
      (((calls.foldl liveSet live).config.config .tcpClient).value =
          (live.config.config .tcpClient).value →
        (calls.foldl liveSet live).consumers.client.configGen =
          live.consumers.client.configGen) := by
  induction calls generalizing live with
  | nil => exact ⟨coherent, fun _ => rfl, fun _ => rfl⟩
  | cons call calls ih =>
    rw [List.map_cons, List.nodup_cons] at distinct
    obtain ⟨coherent', kept, quiet⟩ := ih (liveSet_coherent coherent call) distinct.2
    simp only [List.foldl_cons, List.map_cons, List.mem_cons, not_or]
    refine ⟨coherent', fun outside => ?_, fun same => ?_⟩
    · rw [kept outside.2, liveSet_others live outside.1]
    · by_cases own : Group.tcpClient = call.group
      · -- The later setters leave the client alone.
        have rest := kept (own ▸ distinct.1)
        rw [rest] at same
        rw [quiet (by rw [rest]), liveSet_configGen coherent same]
      · have unchanged := liveSet_others live own
        rw [quiet (same.trans (by rw [unchanged])),
          liveSet_configGen coherent (by rw [unchanged])]

theorem liveStep_coherent (coherent : Coherent live) (op : LiveOp) :
    Coherent (liveStep build live op) ∧
      ((liveStep build live op).consumers.client.configGen ≠ live.consumers.client.configGen →
        ((liveStep build live op).config.config .tcpClient).value ≠
          (live.config.config .tcpClient).value) := by
  cases op with
  | set call => exact ⟨liveSet_coherent coherent call, mt (liveSet_configGen coherent)⟩
  | factoryReset order deleteRet =>
    exact ⟨⟨coherent.listening, coherent.seenValid, coherent.ais, coherent.tcpClient⟩,
      fun moved => absurd rfl moved⟩
  | post jsonObjParse request recvs saveRet =>
    obtain ⟨calls, distinct, same⟩ :=
      liveStep_post build live jsonObjParse request recvs saveRet
    obtain ⟨coherent', -, quiet⟩ := foldl_liveSet coherent distinct
    rw [same]
    exact ⟨coherent', mt quiet⟩

end Coherence

/-- After any sequence of operations the UART reader and the TCP client have the settings in
effect, and the next operation moves the client's generation only if it changes its settings. -/
theorem live_settings_coherent (build : ConfigBuild) (config : ConfigWorld) (ops : List LiveOp) :
    let live := ops.foldl (liveStep build) (liveStart config)
    live.consumers.aisEffectiveMmsi =
        (if (live.config.config .ais).filterEnabled then (live.config.config .ais).ownMmsi
        else 0) ∧
      live.consumers.client.seenCfg.value = (live.config.config .tcpClient).value ∧
      ∀ op, (liveStep build live op).consumers.client.configGen ≠
          live.consumers.client.configGen →
        ((liveStep build live op).config.config .tcpClient).value ≠
          (live.config.config .tcpClient).value := by
  have coherent : Coherent (ops.foldl (liveStep build) (liveStart config)) := by
    induction ops using List.reverseRecOn with
    | nil => exact liveStart_coherent config
    | append_singleton ops op ih =>
      rw [List.foldl_append]
      exact (liveStep_coherent ih op).1
  exact ⟨coherent.ais, coherent.tcpClient, fun op => (liveStep_coherent coherent op).2⟩

end EspNmeaBridge
