/-
# Bridge configuration

The effective configuration lives in RAM and is saved group by group in the settings
store. A boot starts from the build-time defaults and replays the store; a setter checks
its argument, skips what would change nothing, saves, and only then changes RAM; a
factory reset deletes the stored records and leaves RAM alone until the next boot.

Saves and deletes are atomic: one that reports an error has not changed the store. The
single web server thread makes all calls after the boot, so each is one step here.

A stored record named exactly `bridge`, which nothing here writes, crashes the boot: the
callback gets no name for it and compares it nevertheless. The boots here are of stores
without one.
-/

import EspNmeaBridge.BridgeConfig.FactoryReset

namespace EspNmeaBridge

open CString

/-- The values of `ais`, `sta`, `ap`, `system_cfg` and `tcp_client`. -/
abbrev EffectiveConfig := (g : Group) → g.Config

/-- The static state of `bridge_config.c` and the settings store. -/
structure ConfigWorld where
  config : EffectiveConfig
  rebootRequired : Bool
  factoryResetPending : Bool
  /-- A listener is registered. -/
  listener : Bool
  store : SettingsStore

/-- What a call returned, `none` for 0, and what it did to the outside: the key it handed to
`settings_save_one`, the keys it deleted, and whether it called the listener. -/
structure ConfigAnswer where
  ret : Option Errno
  saved : Option SettingsName
  deleted : List SettingsName
  notified : Bool
  deriving DecidableEq

/-- A call that only returned. -/
def returned (ret : Option Errno) : ConfigAnswer := ⟨ret, none, [], false⟩

/-! ## Loading -/

/-- What `read_cb` returned and left in the record. -/
structure ReadResult (size : ℕ) where
  ret : ℤ
  record : CharArray size

/-- A stored record handed to `bridge_config_settings_set`. -/
structure SettingsLoad where
  name : SettingsName
  len : ℕ
  read : (size : ℕ) → ReadResult size

/-- The record, when it has the right length, can be read and passes the checks. -/
def ConfigGroup.load {α : Type} (group : ConfigGroup α) (load : SettingsLoad) : Option α :=
  if load.len ≠ group.recordLen then none
  else
    -- A short read counts as malformed.
    let result := load.read group.recordLen
    if result.ret ≠ group.recordLen then none else group.unpack result.record

/-- The order of the comparisons in `bridge_config_settings_set`. -/
def groupsInOrder : List Group := [.ais, .tcpClient, .ap, .system, .sta]

/-- A record takes the place of its group, or is ignored. -/
def bridgeConfigSettingsSet (config : EffectiveConfig) (load : SettingsLoad) :
    EffectiveConfig × Option Errno :=
  match groupsInOrder.find? fun g => (configGroup g).name = load.name with
  | none => (config, some .enoent)
  | some g =>
    match (configGroup g).load load with
    -- malformed records are ignored
    | none => (config, none)
    | some stored => (Function.update config g stored, none)

/-- `loads` are the records that the settings subsystem handed over. -/
def bridgeConfigInit (subsysRet : Option Errno) (loads : List SettingsLoad)
    (loadRet : Option Errno) (config : EffectiveConfig) : EffectiveConfig × Option Errno :=
  match subsysRet with
  | some err => (config, some err)
  | none => (loads.foldl (fun config load => (bridgeConfigSettingsSet config load).1) config, loadRet)

/-- A stored record that can be read. -/
def storedLoad (name : SettingsName) (bytes : List UInt8) : SettingsLoad where
  name := name
  len := bytes.length
  read size := ⟨(min size bytes.length : ℕ), .ofBytes size bytes⟩

/-- What the scan hands over for a stored name. For a record named exactly like the subtree
the real callback gets a NULL name, and its `strcmp` faults; no such record is assumed to be
stored, and it is left out. -/
def handedLoad (store : SettingsStore) (name : SettingsName) : Option SettingsLoad :=
  match subtreeKeyOf name, store.lookup name with
  | some (some key), some bytes => some (storedLoad key bytes)
  | _, _ => none

/-- The records of the subtree in the order of the scan. -/
def storedLoads (order : EnumerationOrder) (store : SettingsStore) : List SettingsLoad :=
  (order.visit store.keys).filterMap (handedLoad store)

/-- Power-up: RAM starts from the defaults, the store is loaded without an error and has no
record at which the callback faults. -/
def boot (defaults : EffectiveConfig) (order : EnumerationOrder) (store : SettingsStore) :
    ConfigWorld where
  config := (bridgeConfigInit none (storedLoads order store) none defaults).1
  rebootRequired := false
  factoryResetPending := false
  listener := false
  store := store

/-! ## Saving -/

/-- The pattern of the five setters; `saveRet` is what `settings_save_one` returns. -/
def bridgeConfigSet (g : Group) (world : ConfigWorld) (next : Option g.Config)
    (saveRet : Option Errno) : ConfigWorld × ConfigAnswer :=
  match next with
  | none => (world, returned (some .einval))
  | some next =>
    if !(configGroup g).accepts next then (world, returned (some .einval))
    else
      let valueChanged := (configGroup g).valueChanged (world.config g) next
      -- Behind a reset the store has no record, so an unchanged value is saved as well.
      if !(world.factoryResetPending || valueChanged) then (world, returned none)
      else
        match saveRet with
        -- RAM keeps the old value when the save failed.
        | some err => (world, ⟨some err, some g.key, [], false⟩)
        | none =>
          ({ world with
              config := Function.update world.config g next
              store := world.store.insert g.key ((configGroup g).pack next).bytes
              rebootRequired := world.rebootRequired || !(configGroup g).live },
            ⟨none, some g.key, [], (configGroup g).live && valueChanged && world.listener⟩)

/-- The five setters. -/
def bridgeConfigSetAis := bridgeConfigSet .ais
def bridgeConfigSetTcpClient := bridgeConfigSet .tcpClient
def bridgeConfigSetSta := bridgeConfigSet .sta
def bridgeConfigSetAp := bridgeConfigSet .ap
def bridgeConfigSetSystem := bridgeConfigSet .system

/-! ## Resetting -/

/-- The passes of a reset never outnumber the stored keys. -/
def resetResult (settingsMaxNameLen : ℕ) (order : EnumerationOrder)
    (deleteRet : ℕ → Option Errno) (store : SettingsStore) : ResetProgress × Option Errno :=
  (resetPasses settingsMaxNameLen order deleteRet (store.keys.length + 1) ⟨store, 0, []⟩).get
    (resetPasses_isSome (Nat.lt_succ_self _))

/-- RAM is left as it is; the flags make the next save of an unchanged value reach the store. -/
def bridgeConfigFactoryReset (settingsMaxNameLen : ℕ) (world : ConfigWorld)
    (order : EnumerationOrder) (deleteRet : ℕ → Option Errno) : ConfigWorld × ConfigAnswer :=
  match resetResult settingsMaxNameLen order deleteRet world.store with
  | (progress, ret) =>
    -- A reset that failed behind its first delete counts, too.
    let marked := ret.isNone || !progress.deleted.isEmpty
    ({ world with
        store := progress.store
        rebootRequired := world.rebootRequired || marked
        factoryResetPending := world.factoryResetPending || marked },
      ⟨ret, none, progress.deleted, false⟩)

/-! ## Runs -/

/-- What can happen to the configuration. -/
inductive ConfigOp where
  | boot (order : EnumerationOrder)
  | setListener (present : Bool)
  | settingsSet (load : SettingsLoad)
  | set (g : Group) (next : Option g.Config) (saveRet : Option Errno)
  | factoryReset (order : EnumerationOrder) (deleteRet : ℕ → Option Errno)

/-- The build: the Kconfig defaults and the longest name the settings core accepts. -/
structure ConfigBuild where
  defaults : EffectiveConfig
  settingsMaxNameLen : ℕ

/-- A build with an open access point and no station. -/
def sampleBuild : ConfigBuild where
  settingsMaxNameLen := 64
  defaults
    | .ais => ⟨false, 0⟩
    | .tcpClient => ⟨true, .ofBytes _ [], 10110⟩
    | .ap => ⟨.ofBytes _ [0x41, 0x50], .ofBytes _ []⟩
    | .system => ⟨.ofBytes _ [0x61]⟩
    | .sta => ⟨false, true, .ofBytes _ [], .ofBytes _ []⟩

/-- A call with what it returned; a boot returns nothing. -/
def configStep (build : ConfigBuild) (world : ConfigWorld) : ConfigOp → ConfigWorld × ConfigAnswer
  | .boot order => (boot build.defaults order world.store, returned none)
  | .setListener present => ({ world with listener := present }, returned none)
  | .settingsSet load =>
    match bridgeConfigSettingsSet world.config load with
    | (config, ret) => ({ world with config }, returned ret)
  | .set g next saveRet => bridgeConfigSet g world next saveRet
  | .factoryReset order deleteRet =>
    bridgeConfigFactoryReset build.settingsMaxNameLen world order deleteRet

/-! ## What each call can do -/

section Calls

variable {world : ConfigWorld} {g : Group}

/-- A setter refuses, finds nothing to change, or saves its argument and takes it over. -/
theorem bridgeConfigSet_cases (world : ConfigWorld) (next : Option g.Config)
    (saveRet : Option Errno) :
    let result := bridgeConfigSet g world next saveRet
    (result.2.ret ≠ none ∧ result.1 = world ∧ result.2.notified = false) ∨
      ∃ v, next = some v ∧ (configGroup g).accepts v = true ∧ result.2.ret = none ∧
        ((result.1 = world ∧ world.factoryResetPending = false ∧ result.2.saved = none ∧
            result.2.notified = false ∧
            (configGroup g).value (world.config g) = (configGroup g).value v) ∨
          (result.1.config = Function.update world.config g v ∧
            result.1.store = world.store.insert g.key ((configGroup g).pack v).bytes ∧
            result.1.factoryResetPending = world.factoryResetPending ∧
            result.2.saved = some g.key)) := by
  unfold bridgeConfigSet
  cases next with
  | none => simp [returned]
  | some v =>
    by_cases accepted : (configGroup g).accepts v = true
    · by_cases changed : (configGroup g).valueChanged (world.config g) v = true
      · cases saveRet <;> simp [accepted, changed]
      · -- Equal to what is in RAM: saved again only while a factory reset is pending.
        have same : (configGroup g).value (world.config g) = (configGroup g).value v := by
          rw [(configGroup g).valueChanged_iff] at changed
          exact not_not.mp changed
        cases pending : world.factoryResetPending
        · simp [accepted, changed, same, returned, pending]
        · cases saveRet <;> simp [accepted, changed, pending]
    · -- `-EINVAL` before anything is touched.
      simp [accepted, returned]

@[simp] theorem bridgeConfigSet_listener (world : ConfigWorld) (next : Option g.Config)
    (saveRet : Option Errno) :
    (bridgeConfigSet g world next saveRet).1.listener = world.listener := by
  unfold bridgeConfigSet
  cases next with
  | none => rfl
  | some v =>
    dsimp only
    split_ifs
    · rfl
    · rfl
    · cases saveRet <;> rfl

/-- A setter that does not call the registered listener leaves every value that is read live. -/
theorem bridgeConfigSet_quiet {next : Option g.Config} {saveRet : Option Errno}
    (listening : world.listener = true)
    (quiet : (bridgeConfigSet g world next saveRet).2.notified = false) (h : Group)
    (live : (configGroup h).live = true) :
    (configGroup h).value ((bridgeConfigSet g world next saveRet).1.config h) =
      (configGroup h).value (world.config h) := by
  unfold bridgeConfigSet at quiet ⊢
  cases next with
  | none => rfl
  | some v =>
    dsimp only at quiet ⊢
    split_ifs at quiet ⊢
    · rfl
    · rfl
    · cases saveRet with
      | some err => rfl
      | none =>
        dsimp only at quiet ⊢
        -- The setter saved without calling the listener, so a live value did not change.
        by_cases same : h = g
        · subst same
          rw [live, listening, Bool.true_and, Bool.and_true, Bool.eq_false_iff, ne_eq,
            (configGroup h).valueChanged_iff, not_not] at quiet
          rw [Function.update_self, quiet]
        · rw [Function.update_of_ne same]

/-- A reset leaves RAM alone and the records it did not delete; once it deleted one, it is
pending. -/
theorem bridgeConfigFactoryReset_cases (settingsMaxNameLen : ℕ) (world : ConfigWorld)
    (order : EnumerationOrder) (deleteRet : ℕ → Option Errno) :
    let result := bridgeConfigFactoryReset settingsMaxNameLen world order deleteRet
    result.1.config = world.config ∧
      (∀ name, name ∉ result.2.deleted →
        result.1.store.lookup name = world.store.lookup name) ∧
      (result.1.factoryResetPending = true ∨
        result.1.factoryResetPending = world.factoryResetPending ∧ result.2.deleted = []) := by
  have done : resetPasses settingsMaxNameLen order deleteRet (world.store.keys.length + 1)
      ⟨world.store, 0, []⟩ = some (resetResult settingsMaxNameLen order deleteRet world.store) :=
    (Option.some_get _).symm
  obtain ⟨names, deleted, same⟩ := resetPasses_deletedOnly done
  simp only [List.nil_append] at deleted
  refine ⟨rfl, fun name absent => same name (deleted ▸ absent), ?_⟩
  simp only [bridgeConfigFactoryReset]
  cases deletes : (resetResult settingsMaxNameLen order deleteRet world.store).1.deleted with
  | cons name rest => simp
  | nil => cases (resetResult settingsMaxNameLen order deleteRet world.store).2 <;> simp

end Calls

end EspNmeaBridge
