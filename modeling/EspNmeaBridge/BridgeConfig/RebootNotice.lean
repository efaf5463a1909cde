/-
# No reboot notice

`bridge_config_reboot_required()` announces that a reboot would change something. The
flag is raised by every save of a group that is read at boot only, and by every reset
that deleted a record or succeeded. As long as it is down, the groups read at boot are
what they were then, no reset is pending, and RAM holds what the store would load.
-/

import EspNmeaBridge.BridgeConfig.SurvivesReboot

namespace EspNmeaBridge

open CString Machine

def bridgeConfigRebootRequired (world : ConfigWorld) : Bool := world.rebootRequired

/-- What happens between two boots: setter calls and factory resets. -/
def ConfigOp.isCall : ConfigOp → Prop
  | .set .. | .factoryReset .. | .setListener _ => True
  | _ => False

theorem ConfigOp.isCall.whileRunning {op : ConfigOp} (call : op.isCall) : op.whileRunning := by
  cases op with
  | settingsSet load => exact call.elim
  | _ => trivial

/-- While no notice is given, no reset is pending and the groups without a live consumer
are as at boot. -/
def Unnoticed (booted : EffectiveConfig) (world : ConfigWorld) : Prop :=
  world.rebootRequired = false →
    world.factoryResetPending = false ∧
      ∀ g : Group, (configGroup g).live = false → world.config g = booted g

section Steps

variable {booted : EffectiveConfig} {world : ConfigWorld} {g : Group}

/-- A save of a group without a live consumer raises the flag; every other outcome of a
setter leaves these groups alone. -/
theorem Unnoticed.set (unnoticed : Unnoticed booted world) (next : Option g.Config)
    (saveRet : Option Errno) : Unnoticed booted (bridgeConfigSet g world next saveRet).1 := by
  unfold bridgeConfigSet
  cases next with
  | none => exact unnoticed
  | some v =>
    dsimp only
    split_ifs
    · exact unnoticed
    · exact unnoticed
    · cases saveRet with
      | some err => exact unnoticed
      | none =>
        intro quiet
        obtain ⟨down, live⟩ := Bool.or_eq_false_iff.mp quiet
        obtain ⟨pending, same⟩ := unnoticed down
        refine ⟨pending, fun h bootOnly => ?_⟩
        -- The saved group is a live one, so it is not among those read at boot.
        have other : h ≠ g := by
          rintro rfl
          simp [bootOnly] at live
        rw [← same h bootOnly]
        exact Function.update_of_ne other _ _

/-- A reset that leaves the flag down changed nothing. -/
theorem Unnoticed.factoryReset (unnoticed : Unnoticed booted world) (settingsMaxNameLen : ℕ)
    (order : EnumerationOrder) (deleteRet : ℕ → Option Errno) :
    Unnoticed booted (bridgeConfigFactoryReset settingsMaxNameLen world order deleteRet).1 := by
  intro quiet
  obtain ⟨down, unmarked⟩ := Bool.or_eq_false_iff.mp quiet
  obtain ⟨pending, same⟩ := unnoticed down
  refine ⟨?_, same⟩
  simp only [bridgeConfigFactoryReset, pending, Bool.false_or]
  exact unmarked

theorem Unnoticed.step {build : ConfigBuild} (unnoticed : Unnoticed booted world) {op : ConfigOp}
    (call : op.isCall) : Unnoticed booted (configStep build world op).1 := by
  cases op with
  | boot order => exact call.elim
  | settingsSet load => exact call.elim
  | setListener present => exact unnoticed
  | set g next saveRet => exact unnoticed.set next saveRet
  | factoryReset order deleteRet => exact unnoticed.factoryReset _ order deleteRet

end Steps

/-- The groups that `wifi_manager` and the hostname read at boot. -/
theorem live_eq_false_iff (g : Group) :
    (configGroup g).live = false ↔ g = .sta ∨ g = .ap ∨ g = .system := by
  cases g <;> decide

/-- As long as no reboot is required, the STA, AP and system values are those of the boot,
and a reboot would leave every group as it is. -/
theorem no_notice_no_change (build : ConfigBuild) (order : EnumerationOrder)
    (store : SettingsStore) (ops : List ConfigOp) (calls : ∀ op ∈ ops, op.isCall)
    (quiet : bridgeConfigRebootRequired
      (stateAfter (configStep build) (boot build.defaults order store) ops) = false) :
    (∀ g : Group, g = .sta ∨ g = .ap ∨ g = .system →
      (stateAfter (configStep build) (boot build.defaults order store) ops).config g =
        (boot build.defaults order store).config g) ∧
    ∀ (order' : EnumerationOrder) (g : Group),
      (configGroup g).value ((boot build.defaults order'
          (stateAfter (configStep build) (boot build.defaults order store) ops).store).config g) =
        (configGroup g).value
          ((stateAfter (configStep build) (boot build.defaults order store) ops).config g) := by
  have unnoticed : Unnoticed (boot build.defaults order store).config
      (stateAfter (configStep build) (boot build.defaults order store) ops) :=
    trace_invariant (configStep build)
      (P := fun _ world => Unnoticed (boot build.defaults order store).config world)
      (fun _ _ _ call unnoticed => unnoticed.step call) (fun _ => ⟨rfl, fun _ _ => rfl⟩) ops calls
  obtain ⟨pending, same⟩ := unnoticed quiet
  refine ⟨fun g atBoot => same g ((live_eq_false_iff g).mpr atBoot), fun order' g => ?_⟩
  -- RAM agrees with the store unless a reset is pending, and then a reboot is required.
  have agrees := agrees_stateAfter build g order store ops fun op member =>
    (calls op member).whileRunning
  rw [boot_config]
  exact (agrees.resolve_left (by simp [pending])).symm

/-- A saved AIS setting, a hostname that could not be saved and a reset that could not
delete need no reboot. -/
theorem no_notice_no_change_live :
    (configGroup .ais).value ((boot sampleBuild.defaults storageOrder
      (stateAfter (configStep sampleBuild) (boot sampleBuild.defaults storageOrder ∅)
        [.set .ais (some ⟨true, 123456789⟩) none,
          .set .system (some ⟨.ofBytes _ [0x62]⟩) (some (.other 5)),
          .factoryReset storageOrder fun _ => some (.other 5)]).store).config .ais) =
      (configGroup .ais).value ((stateAfter (configStep sampleBuild)
        (boot sampleBuild.defaults storageOrder ∅)
        [.set .ais (some ⟨true, 123456789⟩) none,
          .set .system (some ⟨.ofBytes _ [0x62]⟩) (some (.other 5)),
          .factoryReset storageOrder fun _ => some (.other 5)]).config .ais) :=
  (no_notice_no_change sampleBuild storageOrder ∅ _ (by simp [ConfigOp.isCall]) (by decide)).2
    storageOrder .ais

end EspNmeaBridge
