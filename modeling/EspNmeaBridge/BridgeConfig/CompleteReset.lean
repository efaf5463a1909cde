/-
# What a factory reset leaves

A scan collects the stored names of the subtree up to the first one that is too long,
and at most eight of them. So a store whose names all have a legal length is emptied
pass by pass, unless a delete fails, and the reset then returns that error.
-/

import EspNmeaBridge.BridgeConfig

namespace EspNmeaBridge

/-! ## What a scan collects -/

def belowSubtree (name : SettingsName) : Bool := (subtreeKeyOf name).isSome

/-- The key below the subtree is no longer than the settings core accepts. -/
def legalKey (settingsMaxNameLen : ℕ) (key : Option SettingsName) : Bool :=
  key.all fun key => key.length ≤ settingsMaxNameLen

/-- A name below the subtree whose key has a legal length. -/
def legalName (settingsMaxNameLen : ℕ) (name : SettingsName) : Bool :=
  (subtreeKeyOf name).any (legalKey settingsMaxNameLen)

section Collect

variable {settingsMaxNameLen : ℕ} {name : SettingsName} {key : Option SettingsName}

theorem belowSubtree_of_legalName (legal : legalName settingsMaxNameLen name = true) :
    belowSubtree name = true := by
  obtain ⟨key, below, -⟩ := (Option.any_eq_true _ _).mp legal
  simp [belowSubtree, below]

theorem legalName_of_key (below : subtreeKeyOf name = some key) :
    legalName settingsMaxNameLen name = legalKey settingsMaxNameLen key := by
  rw [legalName, below, Option.any_some]

/-- The callback stops at a name that is too long, stops at a full batch, or adds the name. -/
theorem resetCollectCb_eq (batch : ResetKeyBatch) (below : subtreeKeyOf name = some key) :
    resetCollectCb settingsMaxNameLen batch key =
      if legalName settingsMaxNameLen name = false then
        ({ batch with err := some .enametoolong }, true)
      else if batch.names.length = resetKeysPerPass then ({ batch with more := true }, true)
      else ({ batch with names := batch.names ++ [name] }, false) := by
  have stored := subtreeKeyOf_eq_some below
  rw [legalName_of_key below]
  unfold resetCollectCb
  cases key with
  | none => simp [legalKey, stored]
  | some key =>
    by_cases fits : key.length ≤ settingsMaxNameLen
    · simp [legalKey, fits, stored, subtreeKey_take fits]
    · simp [legalKey, fits, Nat.lt_of_not_le fits]

/-- A scan that starts with `batch` and is shown these names. -/
theorem loadSubtreeDirect_eq (names : List SettingsName) {batch : ResetKeyBatch}
    (room : batch.names.length ≤ resetKeysPerPass) (fresh : batch.more = false)
    (ok : batch.err = none) :
    let below := names.filter belowSubtree
    let legal := below.takeWhile (legalName settingsMaxNameLen)
    let total := batch.names.length + legal.length
    loadSubtreeDirect settingsMaxNameLen batch (names.filterMap subtreeKeyOf) =
      { names := batch.names ++ legal.take (resetKeysPerPass - batch.names.length)
        more := decide (resetKeysPerPass < total)
        err := if total ≤ resetKeysPerPass ∧ legal.length < below.length then
          some .enametoolong else none } := by
  induction names generalizing batch with
  | nil =>
    obtain ⟨collected, more, err⟩ := batch
    simp_all [loadSubtreeDirect]
  | cons name names ih =>
    cases below : subtreeKeyOf name with
    | none =>
      have outside : belowSubtree name = false := by simp [belowSubtree, below]
      simpa [below, outside] using ih room fresh ok
    | some key =>
      have inside : belowSubtree name = true := by simp [belowSubtree, below]
      simp only [List.filterMap_cons, below, List.filter_cons, inside, if_true,
        List.takeWhile_cons, loadSubtreeDirect, resetCollectCb_eq batch below]
      by_cases long : legalName settingsMaxNameLen name = false
      · obtain ⟨collected, more, err⟩ := batch
        simp_all
      · rw [Bool.not_eq_false] at long
        by_cases full : batch.names.length = resetKeysPerPass
        · obtain ⟨collected, more, err⟩ := batch
          simp_all
        · -- One more name collected: the rest of the scan has one place less.
          have added : (batch.names ++ [name]).length = batch.names.length + 1 := by simp
          have place : resetKeysPerPass - batch.names.length =
              resetKeysPerPass - (batch.names.length + 1) + 1 := by omega
          have rest := @ih { batch with names := batch.names ++ [name] } (by rw [added]; omega)
            fresh ok
          dsimp only at rest
          rw [if_neg (by simp [long]), if_neg full]
          simp only [long, if_true, rest, added, place, List.take_succ_cons, List.append_assoc,
            List.singleton_append, List.length_cons, Nat.add_lt_add_iff_right,
            Nat.add_right_comm _ 1, Nat.add_assoc]

variable (settingsMaxNameLen) (order : EnumerationOrder) (store : SettingsStore)

/-- The names of the subtree, in the order of the enumeration. -/
def storedBelow : List SettingsName := (order.visit store.keys).filter belowSubtree

/-- The names a scan can see: those before the first one that is too long. -/
def legalRun : List SettingsName :=
  (storedBelow order store).takeWhile (legalName settingsMaxNameLen)

theorem resetCollect_eq :
    resetCollect settingsMaxNameLen order store =
      { names := (legalRun settingsMaxNameLen order store).take resetKeysPerPass
        more := decide (resetKeysPerPass < (legalRun settingsMaxNameLen order store).length)
        err := if (legalRun settingsMaxNameLen order store).length ≤ resetKeysPerPass ∧
            (legalRun settingsMaxNameLen order store).length < (storedBelow order store).length
          then some .enametoolong else none } := by
  have scan := @loadSubtreeDirect_eq settingsMaxNameLen (order.visit store.keys)
    ⟨[], false, none⟩ (Nat.zero_le _) rfl rfl
  simp only [List.length_nil, Nat.zero_add, Nat.sub_zero, List.nil_append] at scan
  exact scan

variable {settingsMaxNameLen order store}

theorem mem_storedBelow :
    name ∈ storedBelow order store ↔ name ∈ store.keys ∧ belowSubtree name = true := by
  rw [storedBelow, List.mem_filter, (order.visits _).mem_iff]

theorem mem_storedBelow_of_mem_legalRun (member : name ∈ legalRun settingsMaxNameLen order store) :
    name ∈ storedBelow order store := (List.takeWhile_prefix _).mem member

end Collect

/-! ## What the deletes of a pass do -/

section Delete

variable {deleteRet : ℕ → Option Errno} {names : List SettingsName} {name : SettingsName}
  {progress later : ResetProgress} {ret : Option Errno}

/-- The loop ends with the first delete that fails and returns its error. -/
theorem resetDelete_ret (done : resetDelete deleteRet names progress = (later, ret)) :
    progress.calls ≤ later.calls ∧
      (∀ i, progress.calls ≤ i → i < later.calls → deleteRet i ≠ none → ret = deleteRet i) ∧
      (ret ≠ none → ∃ i, progress.calls ≤ i ∧ i < later.calls ∧ deleteRet i ≠ none) := by
  induction names generalizing progress with
  | nil =>
    obtain ⟨rfl, rfl⟩ := Prod.mk.inj done
    exact ⟨le_refl _, fun i _ _ => by omega, fun failed => absurd rfl failed⟩
  | cons name names ih =>
    unfold resetDelete at done
    cases result : deleteRet progress.calls with
    -- This delete fails and is the last one made.
    | some err =>
      rw [result] at done
      obtain ⟨rfl, rfl⟩ := Prod.mk.inj done
      refine ⟨Nat.le_succ _, fun i lower upper _ => ?_, fun _ => ?_⟩
      · obtain rfl : i = progress.calls := Nat.le_antisymm (Nat.lt_succ_iff.mp upper) lower
        exact result.symm
      · exact ⟨progress.calls, le_refl _, Nat.lt_succ_self _, by simp [result]⟩
    | none =>
      rw [result] at done
      -- This delete succeeded, so every failing one comes later.
      obtain ⟨grows, reported, failing⟩ := ih done
      dsimp only at grows reported failing
      refine ⟨by omega, fun i lower upper failed => ?_, fun failed => ?_⟩
      · rcases Nat.eq_or_lt_of_le lower with rfl | beyond
        · exact absurd result failed
        · exact reported i beyond upper failed
      · obtain ⟨i, lower, upper, isFailed⟩ := failing failed
        exact ⟨i, by omega, upper, isFailed⟩

theorem mem_deleted_of_resetDelete
    (done : resetDelete deleteRet names progress = (later, ret)) (member : name ∈ later.deleted) :
    name ∈ progress.deleted ∨ name ∈ names := by
  induction names generalizing progress with
  | nil =>
    obtain ⟨rfl, -⟩ := Prod.mk.inj done
    exact .inl member
  | cons first names ih =>
    unfold resetDelete at done
    cases result : deleteRet progress.calls with
    | some err =>
      rw [result] at done
      obtain ⟨rfl, -⟩ := Prod.mk.inj done
      exact .inl member
    | none =>
      rw [result] at done
      rcases ih done with earlier | rest
      · refine (List.mem_append.mp earlier).imp_right fun last => ?_
        rw [List.mem_singleton.mp last]
        exact List.mem_cons_self
      · exact .inr (List.mem_cons_of_mem _ rest)

/-- Without a failing delete exactly the names of the batch are gone. -/
theorem resetDelete_all (done : resetDelete deleteRet names progress = (later, none)) :
    name ∈ later.store.keys ↔ name ∈ progress.store.keys ∧ name ∉ names := by
  induction names generalizing progress with
  | nil =>
    obtain ⟨rfl, -⟩ := Prod.mk.inj done
    simp
  | cons first names ih =>
    unfold resetDelete at done
    cases result : deleteRet progress.calls with
    | some err =>
      rw [result] at done
      exact absurd (Prod.mk.inj done).2 (by simp)
    | none =>
      rw [result] at done
      rw [ih done, ← AList.mem_keys, AList.mem_erase, List.mem_cons, not_or, ← AList.mem_keys]
      tauto

end Delete

/-- A scan collects stored names of the subtree, uncut. -/
theorem stored_of_mem_resetCollect {settingsMaxNameLen : ℕ} {order : EnumerationOrder}
    {store : SettingsStore} {name : SettingsName}
    (member : name ∈ (resetCollect settingsMaxNameLen order store).names) :
    name ∈ store.keys ∧ belowSubtree name = true := by
  rw [resetCollect_eq] at member
  exact mem_storedBelow.mp (mem_storedBelow_of_mem_legalRun (List.mem_of_mem_take member))

/-! ## What the passes do -/

section Passes

variable {settingsMaxNameLen : ℕ} {order : EnumerationOrder} {deleteRet : ℕ → Option Errno}
  {fuel : ℕ} {progress later : ResetProgress} {ret : Option Errno}

/-- One pass, and the others if there are any. -/
theorem resetPasses_succ
    (done : resetPasses settingsMaxNameLen order deleteRet (fuel + 1) progress =
      some (later, ret)) :
    ∃ middle passRet,
      resetDelete deleteRet (resetCollect settingsMaxNameLen order progress.store).names
        progress = (middle, passRet) ∧
      ((passRet = none ∧ (resetCollect settingsMaxNameLen order progress.store).err = none ∧
          (resetCollect settingsMaxNameLen order progress.store).more = true ∧
          resetPasses settingsMaxNameLen order deleteRet fuel middle = some (later, ret)) ∨
        (middle = later ∧
          ret = passRet.or (resetCollect settingsMaxNameLen order progress.store).err ∧
          (ret = none → (resetCollect settingsMaxNameLen order progress.store).more = false))) := by
  refine ⟨_, _, rfl, ?_⟩
  simp only [resetPasses] at done
  split_ifs at done with again
  · obtain ⟨unfailed, more⟩ := again
    rw [Option.or_eq_none_iff] at unfailed
    exact .inl ⟨unfailed.1, unfailed.2, more, done⟩
  · obtain ⟨rfl, rfl⟩ := Prod.mk.inj (Option.some.inj done)
    refine .inr ⟨rfl, rfl, fun ok => ?_⟩
    simpa [ok] using again

/-- The reset returns the error of the delete that failed. -/
theorem resetPasses_ret
    (done : resetPasses settingsMaxNameLen order deleteRet fuel progress = some (later, ret)) :
    progress.calls ≤ later.calls ∧
      ∀ i, progress.calls ≤ i → i < later.calls → deleteRet i ≠ none → ret = deleteRet i := by
  induction fuel generalizing progress with
  | zero => simp [resetPasses] at done
  | succ fuel ih =>
    obtain ⟨middle, passRet, pass, rest⟩ := resetPasses_succ done
    obtain ⟨grows, reported, -⟩ := resetDelete_ret pass
    rcases rest with ⟨rfl, -, -, rest⟩ | ⟨rfl, rfl, -⟩
    · obtain ⟨grows', reported'⟩ := ih rest
      refine ⟨grows.trans grows', fun i lower upper failed => ?_⟩
      rcases Nat.lt_or_ge i middle.calls with inPass | after
      · exact absurd (reported i lower inPass failed).symm failed
      · exact reported' i after upper failed
    · refine ⟨grows, fun i lower upper failed => ?_⟩
      rw [reported i lower upper failed]
      obtain ⟨err, result⟩ := Option.ne_none_iff_exists'.mp failed
      rw [result, Option.some_or]

/-- Without a failing delete the last pass saw at most eight names and deleted them all. -/
theorem resetPasses_last
    (done : resetPasses settingsMaxNameLen order deleteRet fuel progress = some (later, ret))
    (succeed : ∀ i, progress.calls ≤ i → i < later.calls → deleteRet i = none) :
    ∃ last : SettingsStore, last.keys.Sublist progress.store.keys ∧
      (∀ name, name ∈ later.store.keys ↔
        name ∈ last.keys ∧ name ∉ legalRun settingsMaxNameLen order last) ∧
      ret = if (legalRun settingsMaxNameLen order last).length < (storedBelow order last).length
        then some .enametoolong else none := by
  induction fuel generalizing progress with
  | zero => simp [resetPasses] at done
  | succ fuel ih =>
    obtain ⟨middle, passRet, pass, rest⟩ := resetPasses_succ done
    obtain ⟨grows, -, failing⟩ := resetDelete_ret pass
    have reaches : middle.calls ≤ later.calls := by
      rcases rest with ⟨-, -, -, rest⟩ | ⟨rfl, -, -⟩
      · exact (resetPasses_ret rest).1
      · exact le_refl _
    obtain rfl : passRet = none := by
      by_contra failed
      obtain ⟨i, lower, upper, isFailed⟩ := failing failed
      exact isFailed (succeed i lower (by omega))
    rcases rest with ⟨-, -, -, rest⟩ | ⟨rfl, returned, stopped⟩
    · obtain ⟨last, smaller, left, result⟩ := ih rest fun i lower => succeed i (by omega)
      have shrunk := resetDelete_keys deleteRet
        (resetCollect settingsMaxNameLen order progress.store).names progress
      rw [pass] at shrunk
      exact ⟨last, smaller.trans shrunk, left, result⟩
    · rw [Option.none_or] at returned
      rw [resetCollect_eq] at pass returned stopped
      dsimp only at pass returned stopped
      -- Neither a scan that ends in an error nor one without more to come fills the batch.
      have short :
          (legalRun settingsMaxNameLen order progress.store).length ≤ resetKeysPerPass := by
        by_contra full
        simp [full] at returned
        simp [Nat.lt_of_not_le full, returned] at stopped
      rw [List.take_of_length_le short] at pass
      refine ⟨progress.store, .refl _, fun name => resetDelete_all pass, ?_⟩
      simpa [short] using returned

/-- Only stored names of the subtree are deleted. -/
theorem mem_deleted_of_resetPasses {name : SettingsName}
    (done : resetPasses settingsMaxNameLen order deleteRet fuel progress = some (later, ret))
    (member : name ∈ later.deleted) :
    name ∈ progress.deleted ∨ name ∈ progress.store.keys ∧ belowSubtree name = true := by
  induction fuel generalizing progress with
  | zero => simp [resetPasses] at done
  | succ fuel ih =>
    obtain ⟨middle, passRet, pass, rest⟩ := resetPasses_succ done
    have inPass : name ∈ middle.deleted →
        name ∈ progress.deleted ∨ name ∈ progress.store.keys ∧ belowSubtree name = true :=
      fun deleted => (mem_deleted_of_resetDelete pass deleted).imp_right stored_of_mem_resetCollect
    rcases rest with ⟨-, -, -, rest⟩ | ⟨rfl, -, -⟩
    · rcases ih rest with deleted | ⟨stored, below⟩
      · exact inPass deleted
      · have shrunk := resetDelete_keys deleteRet
          (resetCollect settingsMaxNameLen order progress.store).names progress
        rw [pass] at shrunk
        exact .inr ⟨shrunk.mem stored, below⟩
    · exact inPass member

end Passes

/-! ## The reset -/

/-- Every name of the subtree has a key of legal length. -/
def AllLegal (settingsMaxNameLen : ℕ) (store : SettingsStore) : Prop :=
  ∀ name ∈ store.keys, belowSubtree name = true → legalName settingsMaxNameLen name = true

instance (settingsMaxNameLen : ℕ) (store : SettingsStore) :
    Decidable (AllLegal settingsMaxNameLen store) :=
  inferInstanceAs (Decidable (∀ name ∈ store.keys, _))

section Reset

variable {settingsMaxNameLen : ℕ} {order : EnumerationOrder} {store : SettingsStore}

/-- Names of legal length do not stop a scan. -/
theorem legalRun_of_allLegal (legal : AllLegal settingsMaxNameLen store) :
    legalRun settingsMaxNameLen order store = storedBelow order store := by
  rw [legalRun, List.takeWhile_eq_self_iff]
  intro name member
  obtain ⟨stored, below⟩ := mem_storedBelow.mp member
  exact legal name stored below

end Reset

/-- A reset of a store with legal names ends, after no more passes than there are stored
names and one. It hands stored names of the subtree to the delete function and no others.
When no delete fails it returns 0 and leaves the subtree empty, and when one fails it
returns that error. It sets both flags when it returned 0 or deleted anything. -/
theorem factory_reset_complete (settingsMaxNameLen : ℕ) (world : ConfigWorld)
    (order : EnumerationOrder) (deleteRet : ℕ → Option Errno)
    (legal : AllLegal settingsMaxNameLen world.store) :
    let result := bridgeConfigFactoryReset settingsMaxNameLen world order deleteRet
    ∃ progress : ResetProgress,
      resetPasses settingsMaxNameLen order deleteRet (world.store.keys.length + 1)
          ⟨world.store, 0, []⟩ = some (progress, result.2.ret) ∧
        result.1.store = progress.store ∧ result.2.deleted = progress.deleted ∧
      (∀ store, ∀ name ∈ (resetCollect settingsMaxNameLen order store).names,
        name ∈ store.keys ∧ belowSubtree name = true) ∧
      (∀ name ∈ result.2.deleted, name ∈ world.store.keys ∧ belowSubtree name = true) ∧
      ((∀ i < progress.calls, deleteRet i = none) →
        result.2.ret = none ∧ ∀ name ∈ result.1.store.keys, belowSubtree name = false) ∧
      (∀ i < progress.calls, ∀ err, deleteRet i = some err → result.2.ret = some err) ∧
      (if result.2.ret = none ∨ result.2.deleted ≠ [] then
        result.1.rebootRequired = true ∧ result.1.factoryResetPending = true
      else
        result.1.rebootRequired = world.rebootRequired ∧
          result.1.factoryResetPending = world.factoryResetPending) := by
  intro result
  obtain ⟨⟨progress, ret⟩, ended⟩ : ∃ reset,
      resetResult settingsMaxNameLen order deleteRet world.store = reset := ⟨_, rfl⟩
  have done : resetPasses settingsMaxNameLen order deleteRet (world.store.keys.length + 1)
      ⟨world.store, 0, []⟩ = some (progress, ret) := ended ▸ (Option.some_get _).symm
  obtain ⟨returned, kept, names⟩ : result.2.ret = ret ∧ result.1.store = progress.store ∧
      result.2.deleted = progress.deleted := by
    simp only [result, bridgeConfigFactoryReset, ended, and_self]
  rw [returned, kept, names]
  -- The passes ended with `progress`; each clause is a fact about such a run of passes.
  refine ⟨progress, done, rfl, rfl, fun store name => stored_of_mem_resetCollect, ?_, ?_, ?_, ?_⟩
  · intro name member
    simpa using mem_deleted_of_resetPasses done member
  · intro succeed
    -- The last pass saw every stored name, for the names are legal, and deleted them all.
    obtain ⟨last, smaller, left, final⟩ := resetPasses_last done fun i _ => succeed i
    have lastLegal : AllLegal settingsMaxNameLen last :=
      fun name member => legal name (smaller.mem member)
    rw [legalRun_of_allLegal lastLegal] at left final
    refine ⟨by simpa using final, fun name member => ?_⟩
    by_contra below
    rw [Bool.not_eq_false] at below
    obtain ⟨stored, survived⟩ := (left name).mp member
    exact survived (mem_storedBelow.mpr ⟨stored, below⟩)
  · intro i made err failed
    rw [(resetPasses_ret done).2 i (Nat.zero_le _) made (by simp [failed]), failed]
  · simp only [result, bridgeConfigFactoryReset, ended]
    cases ret <;> cases progress.deleted <;> simp

/-- Empty records under these names. -/
def storeOf (names : List SettingsName) : SettingsStore :=
  names.foldl (fun store name => store.insert name []) ∅

/-- The bare record, two groups and a record of somebody else. -/
def mixedStore : SettingsStore :=
  storeOf [bridgeConfigSubtree, Group.ais.key, Group.sta.key, ['n', 'e', 't']]

/-- A reset of that store whose second delete fails. -/
theorem factory_reset_complete_mixedStore :
    let world := boot sampleBuild.defaults storageOrder mixedStore
    let deleteRet := fun i => if i = 1 then some Errno.enoent else none
    let result := bridgeConfigFactoryReset 64 world storageOrder deleteRet
    AllLegal 64 mixedStore ∧
    ∃ progress : ResetProgress,
      resetPasses 64 storageOrder deleteRet (mixedStore.keys.length + 1)
          ⟨mixedStore, 0, []⟩ = some (progress, result.2.ret) ∧
        result.1.store = progress.store ∧ result.2.deleted = progress.deleted ∧
      (∀ store, ∀ name ∈ (resetCollect 64 storageOrder store).names,
        name ∈ store.keys ∧ belowSubtree name = true) ∧
      (∀ name ∈ result.2.deleted, name ∈ mixedStore.keys ∧ belowSubtree name = true) ∧
      ((∀ i < progress.calls, deleteRet i = none) →
        result.2.ret = none ∧ ∀ name ∈ result.1.store.keys, belowSubtree name = false) ∧
      (∀ i < progress.calls, ∀ err, deleteRet i = some err → result.2.ret = some err) ∧
      (if result.2.ret = none ∨ result.2.deleted ≠ [] then
        result.1.rebootRequired = true ∧ result.1.factoryResetPending = true
      else
        result.1.rebootRequired = world.rebootRequired ∧
          result.1.factoryResetPending = world.factoryResetPending) :=
  have legal : AllLegal 64 mixedStore := by decide
  ⟨legal, factory_reset_complete 64 (boot sampleBuild.defaults storageOrder mixedStore)
    storageOrder _ legal⟩

end EspNmeaBridge
