/-
# Factory reset of the settings subtree

`bridge_config_factory_reset` collects up to eight names a pass, deletes them and scans
again while there were more. A pass ends early at a name that is too long, a failed
delete ends the reset. Every further pass starts from a smaller store, so there are
never more passes than stored keys, and one.
-/

import EspNmeaBridge.BridgeConfig.Groups

namespace EspNmeaBridge

/-- The order in which the backend visits the stored names: any, each name once. -/
structure EnumerationOrder where
  visit : List SettingsName → List SettingsName
  visits : ∀ names, (visit names).Perm names

/-- The order in which the names are stored. -/
def storageOrder : EnumerationOrder where
  visit names := names
  visits _ := .refl _

/-- `settings_name_steq` for the subtree: whether a name is below it, and with which key.
The bare name has no key. -/
def subtreeKeyOf (name : SettingsName) : Option (Option SettingsName) :=
  if bridgeConfigSubtree <+: name then
    match name.drop bridgeConfigSubtree.length with
    | [] => some none
    | '/' :: key => some (some key)
    | _ => none
  else none

def resetKeysPerPass : ℕ := 8

/-- `sizeof("bridge")` counts the terminator. -/
def resetFullNameLen (settingsMaxNameLen : ℕ) : ℕ := 7 + settingsMaxNameLen + 1

structure ResetKeyBatch where
  names : List SettingsName
  more : Bool
  err : Option Errno

/-- The second component says that the callback returned non-zero. -/
def resetCollectCb (settingsMaxNameLen : ℕ) (batch : ResetKeyBatch) (key : Option SettingsName) :
    ResetKeyBatch × Bool :=
  if key.any fun key => settingsMaxNameLen < key.length then
    ({ batch with err := some .enametoolong }, true)
  else if batch.names.length = resetKeysPerPass then ({ batch with more := true }, true)
  else
    let name :=
      match key with
      | none => bridgeConfigSubtree
      -- `snprintk` keeps one byte for the terminator
      | some key => (subtreeKey key).take (resetFullNameLen settingsMaxNameLen - 1)
    ({ batch with names := batch.names ++ [name] }, false)

/-- `settings_load_subtree_direct` stops where the callback returns non-zero. -/
def loadSubtreeDirect (settingsMaxNameLen : ℕ) (batch : ResetKeyBatch) :
    List (Option SettingsName) → ResetKeyBatch
  | [] => batch
  | key :: rest =>
    match resetCollectCb settingsMaxNameLen batch key with
    | (batch, true) => batch
    | (batch, false) => loadSubtreeDirect settingsMaxNameLen batch rest

/-- The store, the number of delete calls made and the names deleted. -/
structure ResetProgress where
  store : SettingsStore
  calls : ℕ
  deleted : List SettingsName

/-- The delete loop of one pass; `deleteRet` gives each delete call its result. -/
def resetDelete (deleteRet : ℕ → Option Errno) :
    List SettingsName → ResetProgress → ResetProgress × Option Errno
  | [], progress => (progress, none)
  | name :: rest, progress =>
    match deleteRet progress.calls with
    | some err => ({ progress with calls := progress.calls + 1 }, some err)
    | none =>
      resetDelete deleteRet rest
        { store := progress.store.erase name
          calls := progress.calls + 1
          deleted := progress.deleted ++ [name] }

section Passes

variable (settingsMaxNameLen : ℕ) (order : EnumerationOrder) (deleteRet : ℕ → Option Errno)

/-- What one scan collects. -/
def resetCollect (store : SettingsStore) : ResetKeyBatch :=
  loadSubtreeDirect settingsMaxNameLen ⟨[], false, none⟩
    ((order.visit store.keys).filterMap subtreeKeyOf)

/-- The passes of the `do` loop, with no result when there are more than the fuel allows. -/
def resetPasses : (fuel : ℕ) → ResetProgress → Option (ResetProgress × Option Errno)
  | 0, _ => none
  | fuel + 1, progress =>
    let batch := resetCollect settingsMaxNameLen order progress.store
    match resetDelete deleteRet batch.names progress with
    | (progress, ret) =>
      let ret := ret.or batch.err
      if ret = none ∧ batch.more = true then resetPasses fuel progress else some (progress, ret)

end Passes

/-! ## Names -/

@[simp] theorem subtreeKeyOf_subtreeKey (key : SettingsName) :
    subtreeKeyOf (subtreeKey key) = some (some key) := by
  simp [subtreeKeyOf, subtreeKey]

theorem subtreeKeyOf_eq_some {name : SettingsName} {key : Option SettingsName}
    (below : subtreeKeyOf name = some key) :
    name = key.elim bridgeConfigSubtree subtreeKey := by
  unfold subtreeKeyOf at below
  split_ifs at below with isPrefix
  obtain ⟨rest, rfl⟩ := isPrefix
  rw [List.drop_left] at below
  split at below
  · obtain rfl := Option.some.inj below
    simp
  · obtain rfl := Option.some.inj below
    rfl
  · simp at below

theorem subtreeKey_take {settingsMaxNameLen : ℕ} {key : SettingsName}
    (fits : key.length ≤ settingsMaxNameLen) :
    (subtreeKey key).take (resetFullNameLen settingsMaxNameLen - 1) = subtreeKey key := by
  apply List.take_of_length_le
  simp only [subtreeKey, bridgeConfigSubtree, resetFullNameLen, List.length_append,
    List.length_cons, List.length_nil]
  omega

/-! ## One pass -/

section Collect

variable {settingsMaxNameLen : ℕ} {batch after : ResetKeyBatch} {key : Option SettingsName}

/-- The callback stops the scan with the batch it has, or adds one name, uncut. -/
theorem resetCollectCb_cases {stop : Bool}
    (collected : resetCollectCb settingsMaxNameLen batch key = (after, stop)) :
    (stop = true ∧ after.names = batch.names ∧
      (after.more = true → batch.more = true ∨ batch.names.length = resetKeysPerPass)) ∨
    (stop = false ∧ after.names = batch.names ++ [key.elim bridgeConfigSubtree subtreeKey] ∧
      after.more = batch.more) := by
  unfold resetCollectCb at collected
  split_ifs at collected with long full
  · obtain ⟨rfl, rfl⟩ := Prod.mk.inj collected
    exact Or.inl ⟨rfl, rfl, Or.inl⟩
  · obtain ⟨rfl, rfl⟩ := Prod.mk.inj collected
    exact Or.inl ⟨rfl, rfl, fun _ => Or.inr full⟩
  · obtain ⟨rfl, rfl⟩ := Prod.mk.inj collected
    refine Or.inr ⟨rfl, ?_, rfl⟩
    cases key with
    | none => rfl
    | some key => simp [subtreeKey_take (by simpa using long : key.length ≤ settingsMaxNameLen)]

/-- What a scan adds are names it was shown, and it asks for more only with a full batch. -/
theorem loadSubtreeDirect_names (batch : ResetKeyBatch) (keys : List (Option SettingsName)) :
    (∀ name ∈ (loadSubtreeDirect settingsMaxNameLen batch keys).names,
      name ∈ batch.names ∨ ∃ key ∈ keys, name = key.elim bridgeConfigSubtree subtreeKey) ∧
    ((loadSubtreeDirect settingsMaxNameLen batch keys).more = true → batch.more = true ∨
      (loadSubtreeDirect settingsMaxNameLen batch keys).names.length = resetKeysPerPass) := by
  induction keys generalizing batch with
  | nil => exact ⟨fun name member => Or.inl member, Or.inl⟩
  | cons key rest ih =>
    unfold loadSubtreeDirect
    match collected : resetCollectCb settingsMaxNameLen batch key with
    | (after, stop) =>
    -- The callback stops the scan, or takes the key's name into the batch.
    rcases resetCollectCb_cases collected with ⟨rfl, names, more⟩ | ⟨rfl, names, more⟩
    · dsimp only
      rw [names]
      exact ⟨fun name member => Or.inl member, more⟩
    · dsimp only
      obtain ⟨members, full⟩ := ih after
      rw [more] at full
      refine ⟨?_, full⟩
      intro name member
      rcases members name member with earlier | ⟨key', member', same⟩
      · rw [names, List.mem_append, List.mem_singleton] at earlier
        exact earlier.imp_right fun same => ⟨key, by simp, same⟩
      · exact Or.inr ⟨key', List.mem_cons_of_mem _ member', same⟩

variable {order : EnumerationOrder} {store : SettingsStore}

/-- A scan of the store collects stored names only. -/
theorem mem_of_mem_resetCollect {name : SettingsName}
    (member : name ∈ (resetCollect settingsMaxNameLen order store).names) : name ∈ store.keys := by
  rcases (loadSubtreeDirect_names _ _).1 name member with inBatch | ⟨key, shown, same⟩
  · simp at inBatch
  · obtain ⟨stored, visited, below⟩ := List.mem_filterMap.mp shown
    rw [same, ← subtreeKeyOf_eq_some below]
    exact (order.visits _).mem_iff.mp visited

theorem resetCollect_nonempty
    (more : (resetCollect settingsMaxNameLen order store).more = true) :
    (resetCollect settingsMaxNameLen order store).names ≠ [] := by
  intro empty
  rcases (loadSubtreeDirect_names _ _).2 more with initially | full
  · simp at initially
  · rw [show (loadSubtreeDirect _ _ _).names = [] from empty] at full
    simp [resetKeysPerPass] at full

end Collect

/-- The reset went on from `progress` to `later`: it deleted some names and left the
records under all others. -/
def ResetProgress.DeletedOnly (progress later : ResetProgress) : Prop :=
  ∃ names, later.deleted = progress.deleted ++ names ∧
    ∀ name, name ∉ names → later.store.lookup name = progress.store.lookup name

theorem ResetProgress.DeletedOnly.refl (progress : ResetProgress) :
    progress.DeletedOnly progress := ⟨[], by simp, fun _ _ => rfl⟩

theorem ResetProgress.DeletedOnly.trans {progress middle later : ResetProgress}
    (first : progress.DeletedOnly middle) (second : middle.DeletedOnly later) :
    progress.DeletedOnly later := by
  obtain ⟨names, deleted, same⟩ := first
  obtain ⟨names', deleted', same'⟩ := second
  refine ⟨names ++ names', by rw [deleted', deleted, List.append_assoc], ?_⟩
  intro name absent
  rw [List.mem_append, not_or] at absent
  rw [same' name absent.2, same name absent.1]

section Delete

theorem keys_erase_sublist (name : SettingsName) (store : SettingsStore) :
    (store.erase name).keys.Sublist store.keys := by
  rw [AList.keys_erase]
  exact @List.erase_sublist _ instBEqOfDecidableEq name _

theorem length_keys_erase_lt {name : SettingsName} {store : SettingsStore}
    (member : name ∈ store.keys) : (store.erase name).keys.length < store.keys.length := by
  have positive := List.length_pos_of_mem member
  rw [AList.keys_erase, @List.length_erase_of_mem _ instBEqOfDecidableEq _ _ _ member]
  omega

variable {deleteRet : ℕ → Option Errno}

theorem resetDelete_deletedOnly (deleteRet : ℕ → Option Errno) (names : List SettingsName)
    (progress : ResetProgress) :
    progress.DeletedOnly (resetDelete deleteRet names progress).1 := by
  induction names generalizing progress with
  | nil => exact .refl progress
  | cons name rest ih =>
    unfold resetDelete
    cases deleteRet progress.calls with
    | some err => exact ⟨[], by simp, fun _ _ => rfl⟩
    | none =>
      refine ResetProgress.DeletedOnly.trans ⟨[name], rfl, ?_⟩ (ih _)
      intro other absent
      exact AList.lookup_erase_ne (by simpa using absent)

/-- Deleting never adds a key. -/
theorem resetDelete_keys (deleteRet : ℕ → Option Errno) (names : List SettingsName)
    (progress : ResetProgress) :
    (resetDelete deleteRet names progress).1.store.keys.Sublist progress.store.keys := by
  induction names generalizing progress with
  | nil => exact .refl _
  | cons name rest ih =>
    unfold resetDelete
    cases deleteRet progress.calls with
    | some err => exact .refl _
    | none =>
      exact (ih _).trans (keys_erase_sublist name progress.store)

/-- A pass that deleted all it collected, and collected a stored name, shrank the store. -/
theorem resetDelete_keys_lt {names : List SettingsName} {progress later : ResetProgress}
    (nonempty : names ≠ []) (stored : ∀ name ∈ names, name ∈ progress.store.keys)
    (all : resetDelete deleteRet names progress = (later, none)) :
    later.store.keys.length < progress.store.keys.length := by
  obtain ⟨name, rest, rfl⟩ := List.exists_cons_of_ne_nil nonempty
  have member : name ∈ progress.store.keys := stored name (by simp)
  unfold resetDelete at all
  cases ret : deleteRet progress.calls with
  | some err => simp [ret] at all
  | none =>
    simp only [ret] at all
    have shrunk := (resetDelete_keys deleteRet rest
      { store := progress.store.erase name
        calls := progress.calls + 1
        deleted := progress.deleted ++ [name] }).length_le
    rw [all] at shrunk
    exact Nat.lt_of_le_of_lt shrunk (length_keys_erase_lt member)

end Delete

/-! ## All passes -/

section Passes

variable {settingsMaxNameLen : ℕ} {order : EnumerationOrder} {deleteRet : ℕ → Option Errno}

/-- More fuel than stored keys is enough. -/
theorem resetPasses_isSome {fuel : ℕ} {progress : ResetProgress}
    (enough : progress.store.keys.length < fuel) :
    (resetPasses settingsMaxNameLen order deleteRet fuel progress).isSome := by
  induction fuel generalizing progress with
  | zero => omega
  | succ fuel ih =>
    obtain ⟨later, ret, deleted⟩ : ∃ later ret, resetDelete deleteRet
        (resetCollect settingsMaxNameLen order progress.store).names progress = (later, ret) :=
      ⟨_, _, rfl⟩
    simp only [resetPasses, deleted]
    split_ifs with again
    · obtain ⟨unfailed, more⟩ := again
      obtain rfl : ret = none := by
        cases ret <;> simp_all
      have shrunk := resetDelete_keys_lt (resetCollect_nonempty more)
        (fun name => mem_of_mem_resetCollect) deleted
      exact ih (by omega)
    · rfl

theorem resetPasses_deletedOnly {fuel : ℕ} {progress later : ResetProgress} {ret : Option Errno}
    (done : resetPasses settingsMaxNameLen order deleteRet fuel progress = some (later, ret)) :
    progress.DeletedOnly later := by
  induction fuel generalizing progress with
  | zero => simp [resetPasses] at done
  | succ fuel ih =>
    have pass := resetDelete_deletedOnly deleteRet
      (resetCollect settingsMaxNameLen order progress.store).names progress
    unfold resetPasses at done
    dsimp only at done
    split_ifs at done with again
    · exact pass.trans (ih done)
    · obtain ⟨rfl, -⟩ := Prod.mk.inj (Option.some.inj done)
      exact pass

/-- A reset adds no key either. -/
theorem resetPasses_keys {fuel : ℕ} {progress later : ResetProgress} {ret : Option Errno}
    (done : resetPasses settingsMaxNameLen order deleteRet fuel progress = some (later, ret)) :
    later.store.keys.Sublist progress.store.keys := by
  induction fuel generalizing progress with
  | zero => simp [resetPasses] at done
  | succ fuel ih =>
    have pass := resetDelete_keys deleteRet
      (resetCollect settingsMaxNameLen order progress.store).names progress
    unfold resetPasses at done
    dsimp only at done
    split_ifs at done with again
    · exact (ih done).trans pass
    · obtain ⟨rfl, -⟩ := Prod.mk.inj (Option.some.inj done)
      exact pass

end Passes

end EspNmeaBridge
