/-
# Retrying the factory reset on a corrupt store

A name that is too long ends every scan at its place in the enumeration, and it is
never deleted itself. The names in front of it go with the first reset that deletes
all it collects; a legal name behind it is never seen, however often the reset is
retried. So the retries converge exactly when no legal name stands behind one that is
too long.
-/

import EspNmeaBridge.BridgeConfig.CompleteReset

namespace EspNmeaBridge

/-- The names that stay are enumerated in the order they had. -/
def EnumerationOrder.Fixed (order : EnumerationOrder) : Prop :=
  ∀ names remaining : List SettingsName, names.Nodup → remaining.Sublist names →
    order.visit remaining = (order.visit names).filter (· ∈ remaining)

/-- The state after some resets without a failing delete. -/
def resetRetries (settingsMaxNameLen : ℕ) (order : EnumerationOrder) (retries : ℕ)
    (world : ConfigWorld) : ConfigWorld :=
  (fun world => (bridgeConfigFactoryReset settingsMaxNameLen world order fun _ => none).1)^[retries]
    world

/-- No legal name is enumerated behind one that is too long. -/
def LegalFirst (settingsMaxNameLen : ℕ) (order : EnumerationOrder) (store : SettingsStore) :
    Prop :=
  (storedBelow order store).Pairwise fun earlier later =>
    legalName settingsMaxNameLen earlier = false → legalName settingsMaxNameLen later = false

instance (settingsMaxNameLen : ℕ) (order : EnumerationOrder) (store : SettingsStore) :
    Decidable (LegalFirst settingsMaxNameLen order store) :=
  inferInstanceAs (Decidable (List.Pairwise (fun earlier later =>
    legalName settingsMaxNameLen earlier = false → legalName settingsMaxNameLen later = false)
      (storedBelow order store)))

theorem storageOrder_fixed : storageOrder.Fixed := by
  intro names remaining distinct kept
  induction kept with
  | slnil => rfl
  | @cons remaining names name kept ih =>
    have absent : name ∉ remaining := fun member =>
      (List.nodup_cons.mp distinct).1 (kept.mem member)
    simpa [storageOrder, List.filter_cons, absent] using ih (List.nodup_cons.mp distinct).2
  | @cons_cons remaining names name kept ih =>
    obtain ⟨fresh, distinct⟩ := List.nodup_cons.mp distinct
    have rest := ih distinct
    simp only [storageOrder] at rest ⊢
    rw [List.filter_cons_of_pos (by simp)]
    refine congrArg (name :: ·) (rest.trans (List.filter_congr fun other member => ?_))
    have differs : other ≠ name := fun same => fresh (same ▸ member)
    simp [differs]

section Scan

variable {α : Type*} {p : α → Bool} {names : List α}

/-- What stands behind an entry that fails the test is not taken. -/
theorem notMem_takeWhile_of_behind {blocker name : α} (distinct : names.Nodup)
    (fails : p blocker = false) (behind : [blocker, name].Sublist names) :
    name ∉ names.takeWhile p := by
  induction names with
  | nil => simp
  | cons first names ih =>
    obtain ⟨fresh, distinct⟩ := List.nodup_cons.mp distinct
    rw [List.takeWhile_cons]
    split_ifs with taken
    · cases behind with
      | cons _ behind =>
        have later : name ∈ names := behind.mem (by simp)
        rw [List.mem_cons, not_or]
        exact ⟨fun same => fresh (same ▸ later), ih distinct behind⟩
      | cons_cons _ behind => simp [fails] at taken
    · simp

/-- Where the entries that pass come first, all of them are taken. -/
theorem mem_takeWhile_of_first (first : names.Pairwise fun a b => p a = false → p b = false)
    {name : α} (member : name ∈ names) (passes : p name = true) : name ∈ names.takeWhile p := by
  induction names with
  | nil => simp at member
  | cons head names ih =>
    obtain ⟨ahead, first⟩ := List.pairwise_cons.mp first
    have headPasses : p head = true := by
      rcases List.mem_cons.mp member with rfl | later
      · exact passes
      · by_contra fails
        have := ahead name later (by simpa using fails)
        simp [passes] at this
    rw [List.takeWhile_cons_of_pos headPasses]
    rcases List.mem_cons.mp member with rfl | later
    · exact List.mem_cons_self
    · exact List.mem_cons_of_mem _ (ih first later)

end Scan

section Retries

variable {settingsMaxNameLen : ℕ} {order : EnumerationOrder} {store smaller : SettingsStore}

theorem storedBelow_nodup (order : EnumerationOrder) (store : SettingsStore) :
    (storedBelow order store).Nodup :=
  ((order.visits _).nodup_iff.mpr store.keys_nodup).filter _

/-- A smaller store is enumerated in the order of the larger one. -/
theorem storedBelow_of_sublist (fixed : order.Fixed) (kept : smaller.keys.Sublist store.keys) :
    storedBelow order smaller = (storedBelow order store).filter (· ∈ smaller.keys) := by
  rw [storedBelow, fixed _ _ store.keys_nodup kept, storedBelow, List.filter_comm]

theorem LegalFirst.of_sublist (first : LegalFirst settingsMaxNameLen order store)
    (fixed : order.Fixed) (kept : smaller.keys.Sublist store.keys) :
    LegalFirst settingsMaxNameLen order smaller := by
  rw [LegalFirst, storedBelow_of_sublist fixed kept]
  exact first.filter _

/-- Names no scan sees survive every pass. -/
theorem resetPasses_blocked {fuel : ℕ} {progress later : ResetProgress} {ret : Option Errno}
    {blocker name : SettingsName} (fixed : order.Fixed)
    (long : legalName settingsMaxNameLen blocker = false)
    (behind : [blocker, name].Sublist (storedBelow order progress.store))
    (done : resetPasses settingsMaxNameLen order (fun _ => none) fuel progress =
      some (later, ret)) :
    [blocker, name].Sublist (storedBelow order later.store) := by
  induction fuel generalizing progress with
  | zero => simp [resetPasses] at done
  | succ fuel ih =>
    obtain ⟨middle, passRet, pass, rest⟩ := resetPasses_succ done
    have survives : [blocker, name].Sublist (storedBelow order middle.store) := by
      obtain rfl : passRet = none := by
        by_contra failed
        obtain ⟨i, -, -, isFailed⟩ := (resetDelete_ret pass).2.2 failed
        exact isFailed rfl
      have kept := resetDelete_keys (fun _ => none)
        (resetCollect settingsMaxNameLen order progress.store).names progress
      rw [pass] at kept
      rw [storedBelow_of_sublist fixed kept]
      -- Neither the blocker nor what stands behind it is collected.
      have spared : ∀ other ∈ [blocker, name],
          other ∉ (resetCollect settingsMaxNameLen order progress.store).names := by
        rw [resetCollect_eq]
        intro other member collected
        have seen := List.mem_of_mem_take collected
        simp only [List.mem_cons, List.not_mem_nil, or_false] at member
        rcases member with rfl | rfl
        · have legal := List.mem_takeWhile_imp seen
          rw [long] at legal
          exact Bool.false_ne_true legal
        · exact notMem_takeWhile_of_behind (storedBelow_nodup _ _) long behind seen
      have all : [blocker, name].filter (· ∈ middle.store.keys) = [blocker, name] := by
        rw [List.filter_eq_self]
        intro other member
        have stored := (mem_storedBelow.mp (behind.mem member)).1
        exact decide_eq_true ((resetDelete_all pass).mpr ⟨stored, spared other member⟩)
      exact all ▸ behind.filter _
    rcases rest with ⟨-, -, -, rest⟩ | ⟨rfl, -, -⟩
    · exact ih survives rest
    · exact survives

/-- The reset as the run of its passes. -/
theorem factoryReset_passes (settingsMaxNameLen : ℕ) (order : EnumerationOrder)
    (world : ConfigWorld) :
    ∃ progress ret,
      resetPasses settingsMaxNameLen order (fun _ => none) (world.store.keys.length + 1)
          ⟨world.store, 0, []⟩ = some (progress, ret) ∧
        (bridgeConfigFactoryReset settingsMaxNameLen world order fun _ => none).1.store =
          progress.store := by
  exact ⟨_, _, (Option.some_get _).symm, rfl⟩

theorem resetRetries_blocked {world : ConfigWorld} {blocker name : SettingsName}
    (fixed : order.Fixed) (long : legalName settingsMaxNameLen blocker = false)
    (behind : [blocker, name].Sublist (storedBelow order world.store)) (retries : ℕ) :
    [blocker, name].Sublist
      (storedBelow order (resetRetries settingsMaxNameLen order retries world).store) := by
  induction retries generalizing world with
  | zero => exact behind
  | succ retries ih =>
    obtain ⟨progress, ret, done, store⟩ := factoryReset_passes settingsMaxNameLen order world
    apply ih
    rw [store]
    exact resetPasses_blocked fixed long behind done

/-- One reset deletes every legal name, when all of them come first. -/
theorem reset_deletes_legal {world : ConfigWorld} (fixed : order.Fixed)
    (first : LegalFirst settingsMaxNameLen order world.store) :
    ∀ name ∈ (resetRetries settingsMaxNameLen order 1 world).store.keys,
      legalName settingsMaxNameLen name = false := by
  obtain ⟨progress, ret, done, store⟩ := factoryReset_passes settingsMaxNameLen order world
  obtain ⟨last, kept, left, -⟩ := resetPasses_last done fun _ _ _ => rfl
  intro name member
  rw [show (resetRetries settingsMaxNameLen order 1 world).store = progress.store from store,
    left] at member
  by_contra legal
  rw [Bool.not_eq_false] at legal
  apply member.2
  apply mem_takeWhile_of_first (first.of_sublist fixed kept) _ legal
  exact mem_storedBelow.mpr ⟨member.1, belowSubtree_of_legalName legal⟩

end Retries

/-- Under a fixed order of enumeration, retried resets whose deletes all succeed leave no
legal name in the end exactly when no legal name stands behind one that is too long. -/
theorem reset_retries_converge_iff (settingsMaxNameLen : ℕ) (order : EnumerationOrder)
    (fixed : order.Fixed) (world : ConfigWorld) :
    (∃ retries, ∀ name ∈ (resetRetries settingsMaxNameLen order retries world).store.keys,
        legalName settingsMaxNameLen name = false) ↔
      LegalFirst settingsMaxNameLen order world.store := by
  constructor
  · rintro ⟨retries, none⟩
    rw [LegalFirst, List.pairwise_iff_forall_sublist]
    intro blocker name behind long
    have stays := resetRetries_blocked fixed long behind retries
    exact none name (mem_storedBelow.mp (stays.mem (by simp))).1
  · exact fun first => ⟨1, reset_deletes_legal fixed first⟩

/-- A name that is too long, enumerated before the record of a group. -/
def corruptStore : SettingsStore :=
  storeOf [Group.ais.key, subtreeKey (List.replicate 65 'x')]

/-- The record of the group is never deleted. -/
theorem reset_retries_stuck :
    ¬ ∃ retries, ∀ name ∈ (resetRetries 64 storageOrder retries
        (boot sampleBuild.defaults storageOrder corruptStore)).store.keys,
      legalName 64 name = false := by
  rintro ⟨retries, none⟩
  have behind : [subtreeKey (List.replicate 65 'x'), Group.ais.key].Sublist
      (storedBelow storageOrder corruptStore) := by decide
  have long : legalName 64 (subtreeKey (List.replicate 65 'x')) = false := by decide
  have stays : [subtreeKey (List.replicate 65 'x'), Group.ais.key].Sublist
      (storedBelow storageOrder (resetRetries 64 storageOrder retries
        (boot sampleBuild.defaults storageOrder corruptStore)).store) :=
    resetRetries_blocked storageOrder_fixed long behind retries
  exact absurd (none Group.ais.key (mem_storedBelow.mp (stays.mem (by simp))).1) (by decide)

/-- The same two records, enumerated the other way round. -/
def orderlyStore : SettingsStore :=
  storeOf [subtreeKey (List.replicate 65 'x'), Group.ais.key]

theorem reset_retries_converge_iff_orderlyStore :
    storageOrder.Fixed ∧
      ∃ retries, ∀ name ∈ (resetRetries 64 storageOrder retries
          (boot sampleBuild.defaults storageOrder orderlyStore)).store.keys,
        legalName 64 name = false :=
  have first : LegalFirst 64 storageOrder orderlyStore := by decide
  ⟨storageOrder_fixed, (reset_retries_converge_iff 64 storageOrder storageOrder_fixed
    (boot sampleBuild.defaults storageOrder orderlyStore)).mpr first⟩

end EspNmeaBridge
