/-
# Saving after a boot that could not load

A boot whose load fails runs on the defaults, and the old records stay in the store.
The setters compare their argument with RAM, and skip a save that would change nothing
there. After such a boot RAM says nothing about the store, so a value that was reported
as saved is lost at the next clean boot when it happens to be the default and the store
holds another one.

A pending factory reset, after which RAM and store differ in the same way, turns the
comparison off; a failed load does not.
-/

import EspNmeaBridge.BridgeConfig.SurvivesReboot

namespace EspNmeaBridge

open CString Machine

/-! ## Boots that miss a record -/

/-- How a boot can come to run a group on its default although a record is stored: the
settings subsystem does not start, the load of the subtree ends before the record, or
the record cannot be read. -/
inductive LoadFailure (order : EnumerationOrder) (store : SettingsStore) (g : Group) where
  | subsysInit (err : Errno)
  | loadSubtree (handed : List SettingsLoad) (err : Errno)
      (begun : handed <+: storedLoads order store)
      (missed : ∀ load ∈ handed, load.name ≠ (configGroup g).name)
  | read (result : (size : ℕ) → ReadResult size)
      (failed : (result (configGroup g).recordLen).ret ≠ (configGroup g).recordLen)

/-- The record of the group is handed over, but reading it gives `result`. -/
def unreadable (g : Group) (result : (size : ℕ) → ReadResult size) (load : SettingsLoad) :
    SettingsLoad :=
  if load.name = (configGroup g).name then { load with read := result } else load

section Failure

variable {order : EnumerationOrder} {store : SettingsStore} {g : Group}

def LoadFailure.init (defaults : EffectiveConfig) :
    LoadFailure order store g → EffectiveConfig × Option Errno
  | .subsysInit err => bridgeConfigInit (some err) [] none defaults
  | .loadSubtree handed err _ _ => bridgeConfigInit none handed (some err) defaults
  | .read result _ =>
    bridgeConfigInit none ((storedLoads order store).map (unreadable g result)) none defaults

/-- Power-up with the failure; `main` goes on with what the load left in RAM. -/
def LoadFailure.boot (defaults : EffectiveConfig) (failure : LoadFailure order store g) :
    ConfigWorld where
  config := (failure.init defaults).1
  rebootRequired := false
  factoryResetPending := false
  listener := false
  store := store

/-- A record that cannot be read is no record. -/
theorem load_unreadable {result : (size : ℕ) → ReadResult size}
    (failed : (result (configGroup g).recordLen).ret ≠ (configGroup g).recordLen)
    {load : SettingsLoad} (named : load.name = (configGroup g).name) :
    (configGroup g).load (unreadable g result load) = none := by
  simp [unreadable, named, ConfigGroup.load, failed]

theorem name_unreadable (result : (size : ℕ) → ReadResult size) (load : SettingsLoad) :
    (unreadable g result load).name = load.name := by
  unfold unreadable
  split_ifs <;> rfl

/-- Whatever failed, the group runs on its default. -/
theorem LoadFailure.config_eq_default (defaults : EffectiveConfig)
    (failure : LoadFailure order store g) : (failure.boot defaults).config g = defaults g := by
  cases failure with
  | subsysInit err => rfl
  | loadSubtree handed err begun missed =>
    exact foldl_settingsSet_ignored handed fun load member named =>
      absurd named (missed load member)
  | read result failed =>
    refine foldl_settingsSet_ignored _ fun load member named => ?_
    obtain ⟨stored, -, rfl⟩ := List.mem_map.mp member
    rw [name_unreadable] at named
    exact load_unreadable failed named

end Failure

/-! ## What a setter leaves in the store -/

/-- The setter's value reaches the store or is there already: a reset is pending, or the
value differs from the one in RAM, or the store would load it anyway. -/
def SaveReachesStore (defaults : EffectiveConfig) (g : Group) (v : g.Config)
    (world : ConfigWorld) : Prop :=
  world.factoryResetPending = true ∨
    (configGroup g).value (world.config g) ≠ (configGroup g).value v ∨
    (configGroup g).value (bootValue defaults world.store g) = (configGroup g).value v

section Save

variable {defaults : EffectiveConfig} {g : Group} {world : ConfigWorld} {v : g.Config}
  {saveRet : Option Errno}

/-- With no reset pending and nothing changed in RAM, nothing is saved. -/
theorem bridgeConfigSet_skips (pending : world.factoryResetPending = false)
    (same : (configGroup g).value (world.config g) = (configGroup g).value v) :
    (bridgeConfigSet g world (some v) saveRet).2.saved = none := by
  have unchanged : (configGroup g).valueChanged (world.config g) v = false := by
    rw [Bool.eq_false_iff, ne_eq, (configGroup g).valueChanged_iff, not_not]
    exact same
  unfold bridgeConfigSet
  simp only [pending, unchanged, Bool.or_self, Bool.not_false, if_true]
  split_ifs <;> rfl

/-- A setter that returned 0 has its value in the store exactly when the value reaches it. -/
theorem bootsTo_set_iff (done : (bridgeConfigSet g world (some v) saveRet).2.ret = none) :
    BootsTo defaults g v (bridgeConfigSet g world (some v) saveRet).1 ↔
      SaveReachesStore defaults g v world := by
  rcases bridgeConfigSet_cases world (some v) saveRet with
    ⟨failed, -⟩ | ⟨v', same, accepted, -, ⟨unchanged, pending, -, -, equal⟩ | ⟨-, store, -, saved⟩⟩
  · exact absurd done failed
  · obtain rfl := Option.some.inj same
    rw [BootsTo, unchanged]
    simp [SaveReachesStore, pending, equal]
  · obtain rfl := Option.some.inj same
    refine iff_of_true ?_ ?_
    · rw [BootsTo, store]
      exact bootValue_insert accepted world.store
    · -- A save was made, so it was not skipped.
      by_contra skipped
      obtain ⟨pending, equal, -⟩ := by
        simpa only [SaveReachesStore, not_or, ne_eq, not_not] using skipped
      have unsaved : (bridgeConfigSet g world (some v) saveRet).2.saved = none :=
        bridgeConfigSet_skips (by simpa using pending) equal
      exact absurd (saved.symm.trans unsaved) (by simp)

end Save

/-- After any boot that failed to load the group and any calls since: the value that a
setter returned 0 for is the one a later clean boot makes effective, as long as the
group is not saved or reset in between, if and only if it reaches the store. -/
theorem save_after_failed_load_iff (build : ConfigBuild) {order : EnumerationOrder}
    {store : SettingsStore} {g : Group} (failure : LoadFailure order store g)
    (before after : List ConfigOp) (v : g.Config) (saveRet : Option Errno)
    (order' : EnumerationOrder)
    (done : (configStep build (stateAfter (configStep build) (failure.boot build.defaults) before)
      (.set g (some v) saveRet)).2.ret = none)
    (kept : ∀ event ∈ trace (configStep build)
        (stateAfter (configStep build) (failure.boot build.defaults)
          (before ++ [.set g (some v) saveRet])) after,
      overwrites g event = false) :
    (configGroup g).value
        ((stateAfter (configStep build) (failure.boot build.defaults)
          (before ++ [.set g (some v) saveRet] ++ after ++ [.boot order'])).config g) =
      (configGroup g).value v ↔
    SaveReachesStore build.defaults g v
      (stateAfter (configStep build) (failure.boot build.defaults) before) := by
  rw [stateAfter_snoc] at kept
  rw [stateAfter_snoc, stateAfter_append, stateAfter_snoc]
  -- What the group boots to right after the setter is what it boots to in the end.
  have settled := (show BootsTo build.defaults g (bootValue build.defaults _ g)
    (configStep build (stateAfter (configStep build) (failure.boot build.defaults) before)
      (.set g (some v) saveRet)).1 from rfl).stateAfter after kept
  rw [← bootsTo_set_iff done]
  simp only [configStep, boot_config]
  rw [BootsTo] at settled ⊢
  simp only [configStep] at settled
  rw [settled]

/-- A store with an AIS setting that differs from the default. -/
def filterStored : SettingsStore :=
  (∅ : SettingsStore).insert Group.ais.key (aisRecordPack ⟨true, 123456789⟩).bytes

/-- After a failed start of the settings subsystem, a new MMSI is saved and kept. -/
theorem save_after_failed_load_iff_changed :
    ((stateAfter (configStep sampleBuild)
      (LoadFailure.boot sampleBuild.defaults
        (.subsysInit (.other 5) : LoadFailure storageOrder filterStored .ais))
      ([] ++ [.set .ais (some ⟨true, 211000000⟩) none] ++ [.setListener true] ++
        [.boot storageOrder])).config .ais).value = (true, 211000000) :=
  (save_after_failed_load_iff sampleBuild
    (.subsysInit (.other 5) : LoadFailure storageOrder filterStored .ais) []
    [.setListener true] ⟨true, 211000000⟩ none storageOrder (by decide) (by decide)).mpr
    (Or.inr (Or.inl (show BridgeConfigAis.value _ ≠ BridgeConfigAis.value _ by decide)))

/-- After a failed start of the settings subsystem, turning the filter off returns 0 and saves
nothing; the next clean boot turns it on again. -/
theorem unchanged_save_reverts :
    ¬ ∀ (build : ConfigBuild) (order : EnumerationOrder) (store : SettingsStore) (g : Group)
      (failure : LoadFailure order store g) (before after : List ConfigOp) (v : g.Config)
      (saveRet : Option Errno) (order' : EnumerationOrder),
      (configStep build (stateAfter (configStep build) (failure.boot build.defaults) before)
        (.set g (some v) saveRet)).2.ret = none →
      (∀ event ∈ trace (configStep build)
          (stateAfter (configStep build) (failure.boot build.defaults)
            (before ++ [.set g (some v) saveRet])) after, overwrites g event = false) →
      (configGroup g).value
          ((stateAfter (configStep build) (failure.boot build.defaults)
            (before ++ [.set g (some v) saveRet] ++ after ++ [.boot order'])).config g) =
        (configGroup g).value v := by
  intro always
  have off := always sampleBuild storageOrder filterStored .ais (.subsysInit (.other 5)) [] []
    ⟨false, 0⟩ none storageOrder (by decide) (by simp)
  simp only [configGroup, aisGroup] at off
  exact absurd off (by decide)

end EspNmeaBridge
