/-
# A saved configuration survives the reboot

Setters skip the save when the argument equals the value in RAM. That is sound because
RAM agrees with what the store would load, unless a factory reset is pending, and then
nothing is skipped. Every call keeps this, whatever it returns.
-/

import EspNmeaBridge.BridgeConfig
import EspNmeaBridge.Lib.Machine

namespace EspNmeaBridge

open CString Machine

/-! ## What a boot loads -/

/-- The value a group has after a boot from the store. -/
def bootValue (defaults : EffectiveConfig) (store : SettingsStore) (g : Group) : g.Config :=
  match store.lookup g.key with
  | some bytes => ((configGroup g).load (storedLoad (configGroup g).name bytes)).getD (defaults g)
  | none => defaults g

section Boot

variable {g : Group} {config : EffectiveConfig}

/-- The handler finds the group that has the name. -/
theorem find?_name (g : Group) :
    groupsInOrder.find? (fun h => (configGroup h).name = (configGroup g).name) = some g := by
  cases g <;> decide

theorem bridgeConfigSettingsSet_other {load : SettingsLoad}
    (other : load.name ≠ (configGroup g).name) :
    (bridgeConfigSettingsSet config load).1 g = config g := by
  unfold bridgeConfigSettingsSet
  split
  · rfl
  · rename_i h found
    have named : (configGroup h).name = load.name := by simpa using List.find?_some found
    split
    · rfl
    · refine Function.update_of_ne ?_ _ _
      rintro rfl
      exact other named.symm

theorem bridgeConfigSettingsSet_self {load : SettingsLoad}
    (named : load.name = (configGroup g).name) :
    (bridgeConfigSettingsSet config load).1 g = ((configGroup g).load load).getD (config g) := by
  unfold bridgeConfigSettingsSet
  rw [named, find?_name]
  dsimp only
  cases (configGroup g).load load <;> simp

/-- Loads that leave the group alone one by one leave it alone together. -/
theorem foldl_settingsSet_ignored (loads : List SettingsLoad)
    (ignored : ∀ load ∈ loads,
      load.name = (configGroup g).name → (configGroup g).load load = none) :
    (loads.foldl (fun config load => (bridgeConfigSettingsSet config load).1) config) g =
      config g := by
  induction loads generalizing config with
  | nil => rfl
  | cons load loads ih =>
    rw [List.foldl_cons, ih fun l member => ignored l (List.mem_cons_of_mem _ member)]
    by_cases named : load.name = (configGroup g).name
    · rw [bridgeConfigSettingsSet_self named, ignored load (by simp) named, Option.getD_none]
    · exact bridgeConfigSettingsSet_other named

theorem subtreeKey_of_handedLoad {store : SettingsStore} {name : SettingsName}
    {load : SettingsLoad} (handed : handedLoad store name = some load) :
    subtreeKey load.name = name := by
  unfold handedLoad at handed
  split at handed
  · rename_i below found
    obtain rfl := Option.some.inj handed
    exact (subtreeKeyOf_eq_some below).symm
  · simp at handed

theorem handedLoad_key {store : SettingsStore} {bytes : List UInt8}
    (found : store.lookup g.key = some bytes) :
    handedLoad store g.key = some (storedLoad (configGroup g).name bytes) := by
  unfold handedLoad
  rw [found, Group.key, subtreeKeyOf_subtreeKey]

/-- Names other than the group's key hand over no record of the group. -/
theorem foldl_handedLoad_other {store : SettingsStore} {names : List SettingsName}
    (absent : g.key ∉ names) :
    ((names.filterMap (handedLoad store)).foldl
      (fun config load => (bridgeConfigSettingsSet config load).1) config) g = config g := by
  apply foldl_settingsSet_ignored
  intro load member named
  obtain ⟨name, visited, handed⟩ := List.mem_filterMap.mp member
  have key := subtreeKey_of_handedLoad handed
  refine absurd ?_ absent
  rwa [Group.key, ← named, key]

theorem boot_config (defaults : EffectiveConfig) (order : EnumerationOrder)
    (store : SettingsStore) (g : Group) :
    (boot defaults order store).config g = bootValue defaults store g := by
  have perm := order.visits store.keys
  have once : (order.visit store.keys).Nodup := perm.nodup_iff.mpr store.keys_nodup
  simp only [boot, bridgeConfigInit, storedLoads, bootValue]
  cases found : store.lookup g.key with
  | none =>
    apply foldl_handedLoad_other
    rw [perm.mem_iff, ← AList.mem_keys]
    exact AList.lookup_eq_none.mp found
  | some bytes =>
    have stored : g.key ∈ order.visit store.keys := by
      rw [perm.mem_iff, ← AList.mem_keys, ← AList.lookup_isSome, found]
      rfl
    -- the record is handed over once, and the records around it are other groups'
    obtain ⟨before, after, split⟩ := List.append_of_mem stored
    rw [split, List.nodup_append] at once
    obtain ⟨-, onceAfter, apart⟩ := once
    rw [split, List.filterMap_append, List.filterMap_cons_some (handedLoad_key found),
      List.foldl_append, List.foldl_cons, foldl_handedLoad_other (List.nodup_cons.mp onceAfter).1,
      bridgeConfigSettingsSet_self rfl, foldl_handedLoad_other]
    intro member
    exact apart _ member _ (by simp) rfl

/-- A group whose key is not stored boots to its default. -/
theorem bootValue_of_not_stored {defaults : EffectiveConfig} {store : SettingsStore}
    (absent : g.key ∉ store) : bootValue defaults store g = defaults g := by
  simp [bootValue, AList.lookup_eq_none.mpr absent]

/-- A record that can be read is loaded as it was packed. -/
theorem load_storedLoad {α : Type} (group : ConfigGroup α) (name : SettingsName)
    (record : CharArray group.recordLen) :
    group.load (storedLoad name record.bytes) = group.unpack record := by
  simp [ConfigGroup.load, storedLoad, record.size_eq]

end Boot

/-! ## RAM and store agree -/

/-- RAM holds what the next boot would load, or a factory reset is pending. -/
def Agrees (defaults : EffectiveConfig) (g : Group) (world : ConfigWorld) : Prop :=
  world.factoryResetPending = true ∨
    (configGroup g).value (world.config g) =
      (configGroup g).value (bootValue defaults world.store g)

/-- The next boot gives the group this value. -/
def BootsTo (defaults : EffectiveConfig) (g : Group) (v : g.Config) (world : ConfigWorld) : Prop :=
  (configGroup g).value (bootValue defaults world.store g) = (configGroup g).value v

/-- Records are handed over at boot only. -/
def ConfigOp.whileRunning : ConfigOp → Prop
  | .settingsSet _ => False
  | _ => True

/-- The call stored a new value for the group, or deleted the stored one. -/
def overwrites (g : Group) (event : ConfigOp × ConfigAnswer) : Bool :=
  (match event.1 with
    | .set h _ _ => h = g && event.2.ret.isNone
    | _ => false) ||
  event.2.deleted.contains g.key

section Steps

variable {build : ConfigBuild} {defaults : EffectiveConfig} {g : Group} {world next : ConfigWorld}

theorem bootValue_congr {store store' : SettingsStore}
    (same : store'.lookup g.key = store.lookup g.key) :
    bootValue defaults store' g = bootValue defaults store g := by
  simp [bootValue, same]

/-- An accepted value boots from the record it was packed into. -/
theorem bootValue_insert {v : g.Config} (accepted : (configGroup g).accepts v = true)
    (store : SettingsStore) :
    (configGroup g).value
        (bootValue defaults (store.insert g.key ((configGroup g).pack v).bytes) g) =
      (configGroup g).value v := by
  obtain ⟨stored, unpacked, same⟩ := (configGroup g).unpack_pack v accepted
  simp [bootValue, load_storedLoad, unpacked, same]

theorem bootValue_insert_other {h : Group} (other : g ≠ h) (store : SettingsStore)
    (bytes : List UInt8) :
    bootValue defaults (store.insert h.key bytes) g = bootValue defaults store g :=
  bootValue_congr (AList.lookup_insert_ne fun same => other (Group.key_injective same))

theorem Agrees.set {h : Group} (agrees : Agrees defaults g world) (arg : Option h.Config)
    (saveRet : Option Errno) : Agrees defaults g (bridgeConfigSet h world arg saveRet).1 := by
  rcases bridgeConfigSet_cases world arg saveRet with
    ⟨-, same, -⟩ | ⟨v, -, accepted, -, ⟨same, -⟩ | ⟨config, store, pending, -⟩⟩
  · rwa [same]
  · rwa [same]
  · unfold Agrees
    rw [config, store, pending]
    by_cases own : g = h
    · subst own
      right
      rw [Function.update_self, bootValue_insert accepted]
    · rw [Function.update_of_ne own, bootValue_insert_other own]
      exact agrees

theorem Agrees.step (agrees : Agrees build.defaults g world) {op : ConfigOp}
    (running : op.whileRunning) : Agrees build.defaults g (configStep build world op).1 := by
  cases op with
  | boot order => exact Or.inr (congrArg _ (boot_config build.defaults order world.store g))
  | setListener present => exact agrees
  | settingsSet load => exact running.elim
  | set h arg saveRet => exact agrees.set arg saveRet
  | factoryReset order deleteRet =>
    obtain ⟨config, kept, pending⟩ :=
      bridgeConfigFactoryReset_cases build.settingsMaxNameLen world order deleteRet
    rcases pending with pending | ⟨pending, none_deleted⟩
    · exact Or.inl pending
    · unfold Agrees
      rw [configStep, pending, config, bootValue_congr (kept g.key (by simp [none_deleted]))]
      exact agrees

/-- A setter that returned 0 has its argument in the store, saved now or earlier. -/
theorem Agrees.bootsTo_set (agrees : Agrees defaults g world) {v : g.Config}
    {saveRet : Option Errno} (done : (bridgeConfigSet g world (some v) saveRet).2.ret = none) :
    BootsTo defaults g v (bridgeConfigSet g world (some v) saveRet).1 := by
  rcases bridgeConfigSet_cases world (some v) saveRet with
    ⟨failed, -⟩ | ⟨v', same, accepted, -, ⟨unchanged, pending, -, -, equal⟩ | ⟨-, store, -⟩⟩
  · exact absurd done failed
  · -- Nothing was saved: RAM has the value, and what is stored boots to it.
    obtain rfl := Option.some.inj same
    rw [BootsTo, unchanged, ← equal]
    exact (agrees.resolve_left (by simp [pending])).symm
  · obtain rfl := Option.some.inj same
    rw [BootsTo, store]
    exact bootValue_insert accepted world.store

/-- Nothing but a setter of the group and a reset that deletes its key changes what it
boots to. -/
theorem BootsTo.step {v : g.Config} (boots : BootsTo build.defaults g v world) {op : ConfigOp}
    (kept : overwrites g (op, (configStep build world op).2) = false) :
    BootsTo build.defaults g v (configStep build world op).1 := by
  simp only [overwrites, Bool.or_eq_false_iff, List.contains_eq_mem, decide_eq_false_iff_not]
    at kept
  obtain ⟨unset, undeleted⟩ := kept
  cases op with
  | boot order => exact boots
  | setListener present => exact boots
  | settingsSet load => exact boots
  | set h arg saveRet =>
    simp only [configStep] at unset ⊢
    rcases bridgeConfigSet_cases world arg saveRet with
      ⟨-, same, -⟩ | ⟨v', -, -, done, ⟨same, -⟩ | ⟨-, store, -⟩⟩
    · rwa [same]
    · rwa [same]
    · -- It returned 0 and saved, so it was not a setter of this group.
      have other : g ≠ h := by
        rintro rfl
        simp [done] at unset
      rwa [BootsTo, store, bootValue_insert_other other]
  | factoryReset order deleteRet =>
    obtain ⟨-, same, -⟩ :=
      bridgeConfigFactoryReset_cases build.settingsMaxNameLen world order deleteRet
    rw [BootsTo, configStep, bootValue_congr (same g.key undeleted)]
    exact boots

end Steps

/-! ## Every run -/

section Runs

variable {build : ConfigBuild} {g : Group}

theorem agrees_stateAfter (build : ConfigBuild) (g : Group) (order : EnumerationOrder)
    (store : SettingsStore) (ops : List ConfigOp) (running : ∀ op ∈ ops, op.whileRunning) :
    Agrees build.defaults g
      (stateAfter (configStep build) (boot build.defaults order store) ops) :=
  trace_invariant (configStep build) (P := fun _ world => Agrees build.defaults g world)
    (fun _ _ _ allowed agrees => agrees.step allowed)
    (Or.inr (congrArg _ (boot_config build.defaults order store g))) ops running

theorem BootsTo.stateAfter {v : g.Config} {world : ConfigWorld}
    (boots : BootsTo build.defaults g v world) (ops : List ConfigOp)
    (kept : ∀ event ∈ trace (configStep build) world ops, overwrites g event = false) :
    BootsTo build.defaults g v (Machine.stateAfter (configStep build) world ops) := by
  induction ops generalizing world with
  | nil => exact boots
  | cons op ops ih =>
    rw [trace, List.forall_mem_cons] at kept
    exact ih (boots.step kept.1) kept.2

end Runs

/-- For every run from a boot: the value a setter returned 0 for is the group's value after
the next boot, unless it was overwritten or deleted in between. A setter that fails changes
nothing and notifies nobody, and a group that is not stored boots to its default. -/
theorem saved_configuration_survives_reboot (build : ConfigBuild) (order : EnumerationOrder)
    (store : SettingsStore) :
    (∀ (before after : List ConfigOp) (g : Group) (v : g.Config) (saveRet : Option Errno)
        (order' : EnumerationOrder),
      (∀ op ∈ before, op.whileRunning) →
      (configStep build (stateAfter (configStep build) (boot build.defaults order store) before)
        (.set g (some v) saveRet)).2.ret = none →
      (∀ event ∈ trace (configStep build)
          (stateAfter (configStep build) (boot build.defaults order store)
            (before ++ [.set g (some v) saveRet])) after,
        overwrites g event = false) →
      (configGroup g).value
          ((stateAfter (configStep build) (boot build.defaults order store)
            (before ++ [.set g (some v) saveRet] ++ after ++ [.boot order'])).config g) =
        (configGroup g).value v) ∧
    (∀ (world : ConfigWorld) (g : Group) (arg : Option g.Config) (saveRet : Option Errno),
      (bridgeConfigSet g world arg saveRet).2.ret ≠ none →
      (bridgeConfigSet g world arg saveRet).1 = world ∧
        (bridgeConfigSet g world arg saveRet).2.notified = false) ∧
    (∀ g : Group, g.key ∉ store → (boot build.defaults order store).config g = build.defaults g) := by
  refine ⟨?_, ?_, ?_⟩
  · intro before after g v saveRet order' running done kept
    have agrees := agrees_stateAfter build g order store before running
    rw [stateAfter_snoc] at kept
    -- In the store behind the setter, and no later operation touches it there.
    have boots := (agrees.bootsTo_set done).stateAfter after kept
    rw [stateAfter_snoc, stateAfter_append, stateAfter_snoc]
    exact (congrArg _ (boot_config build.defaults order' _ g)).trans boots
  · intro world g arg saveRet failed
    rcases bridgeConfigSet_cases world arg saveRet with ⟨-, same, quiet⟩ | ⟨-, -, -, done, -⟩
    · exact ⟨same, quiet⟩
    · exact absurd done failed
  · intro g absent
    rw [boot_config, bootValue_of_not_stored absent]

/-- The AIS setting outlives a refused hostname and a reset whose first delete failed. -/
theorem saved_configuration_survives_reboot_ais :
    ((stateAfter (configStep sampleBuild) (boot sampleBuild.defaults storageOrder ∅)
      ([.setListener true] ++ [.set .ais (some ⟨true, 123456789⟩) none] ++
        [.set .system (some ⟨.ofBytes _ [0x2D]⟩) none,
          .factoryReset storageOrder fun _ => some (.other 5)] ++
        [.boot storageOrder])).config .ais).value = (true, 123456789) :=
  (saved_configuration_survives_reboot sampleBuild storageOrder ∅).1 [.setListener true]
    [.set .system (some ⟨.ofBytes _ [0x2D]⟩) none,
      .factoryReset storageOrder fun _ => some (.other 5)] .ais ⟨true, 123456789⟩ none storageOrder
    (by simp [ConfigOp.whileRunning]) (by decide) (by decide)

end EspNmeaBridge
