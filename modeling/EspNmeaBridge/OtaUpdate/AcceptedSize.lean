/-
# Which sizes an upload may have

The upload slot is erased before the first byte of an image arrives, so its announced size
is all there is to check. The limit has two sources: a ceiling configured at build time,
or, without one, the size of the slot. The ceiling takes the place of the slot size; one
above it lets an image through that the slot cannot hold.
-/

import EspNmeaBridge.OtaUpdate

namespace EspNmeaBridge

/-- The size keeps to a configured ceiling, and to a slot that the ceiling does not exceed.
A ceiling of zero or less is none. -/
structure FitsLimits (cfg : OtaKconfig) (faSize contentLength : UInt32) : Prop where
  nonempty : 1 ≤ contentLength.toNat
  ceiling : 0 < cfg.otaMaxUploadBytes → (contentLength.toNat : ℤ) ≤ cfg.otaMaxUploadBytes
  slot : 0 < faSize.toNat → cfg.otaMaxUploadBytes ≤ faSize.toNat →
    contentLength.toNat ≤ faSize.toNat

section Begin

variable {cfg : OtaKconfig} {runtime : OtaUpdateRuntime} {contentLength faSize : UInt32}

/-- The limit, as a number. -/
theorem toNat_configuredLimitOrSlotSize (cfg : OtaKconfig) (faSize : UInt32) :
    ((configuredLimitOrSlotSize cfg faSize).toNat : ℤ) =
      if 0 < cfg.otaMaxUploadBytes then cfg.otaMaxUploadBytes else faSize.toNat := by
  have int := cfg.otaMaxUploadBytes_int
  unfold configuredLimitOrSlotSize
  split_ifs with configured
  · rw [UInt32.toNat_ofNat']
    omega
  · rfl

/-- A size that passes the check fits. -/
theorem fitsLimits_of_valid
    (valid : otaUpdateValidateUploadSize contentLength (configuredLimitOrSlotSize cfg faSize) =
      none) : FitsLimits cfg faSize contentLength := by
  obtain ⟨nonzero, within⟩ := otaUpdateValidateUploadSize_eq_none.mp valid
  have limit := toNat_configuredLimitOrSlotSize cfg faSize
  rw [UInt32.lt_iff_toNat_lt, UInt32.le_iff_toNat_le, UInt32.toNat_zero] at within
  have positive : contentLength.toNat ≠ 0 := fun zero => nonzero (UInt32.toNat_inj.mp zero)
  refine ⟨by omega, fun configured => ?_, fun room unexceeded => ?_⟩
  · rw [if_pos configured] at limit
    omega
  · -- with a ceiling the size keeps to it, and it to the slot
    by_cases configured : 0 < cfg.otaMaxUploadBytes
    · rw [if_pos configured] at limit
      omega
    · rw [if_neg configured] at limit
      omega

/-- Behind a slot that could be opened and a size that passed the check come the erase and
the return of 0; nothing is called before. -/
theorem otaUpdateBegin_accepted {slot : UInt8} {area : Except Errno UInt32}
    {eraseRet initRet : Option Errno}
    (accepted : (runtime.otaUpdateBegin cfg contentLength slot area eraseRet initRet).2.ret = none ∨
      (runtime.otaUpdateBegin cfg contentLength slot area eraseRet initRet).2.calls ≠ []) :
    ∃ faSize, area = .ok faSize ∧ FitsLimits cfg faSize contentLength ∧
      ∀ erased, .bootEraseImgBank erased ∈
        (runtime.otaUpdateBegin cfg contentLength slot area eraseRet initRet).2.calls →
        erased = slot := by
  cases area with
  | error err => simp [OtaUpdateRuntime.otaUpdateBegin, OtaUpdateRuntime.fail] at accepted
  | ok faSize =>
    cases valid : otaUpdateValidateUploadSize contentLength
        (configuredLimitOrSlotSize cfg faSize) with
    | some err =>
      simp [OtaUpdateRuntime.otaUpdateBegin, OtaUpdateRuntime.fail, valid] at accepted
    | none =>
      refine ⟨faSize, rfl, fitsLimits_of_valid valid, ?_⟩
      cases eraseRet <;> cases initRet <;>
        simp [OtaUpdateRuntime.otaUpdateBegin, OtaUpdateRuntime.fail, valid]

end Begin

theorem otaUpdateWrite_no_erase (runtime : OtaUpdateRuntime) (data : OtaData)
    (writeRet : Option Errno) (slot : UInt8) :
    .bootEraseImgBank slot ∉ (runtime.otaUpdateWrite data writeRet).2.calls := by
  unfold OtaUpdateRuntime.otaUpdateWrite OtaUpdateRuntime.fail
  split_ifs
  · simp
  · simp
  · cases writeRet <;> simp

theorem otaUpdateFinish_no_erase (runtime : OtaUpdateRuntime) (flushRet upgradeRet : Option Errno)
    (slot : UInt8) :
    .bootEraseImgBank slot ∉ (runtime.otaUpdateFinish flushRet upgradeRet).2.calls := by
  unfold OtaUpdateRuntime.otaUpdateFinish OtaUpdateRuntime.fail
  split_ifs
  · simp
  · simp
  · cases flushRet <;> cases upgradeRet <;> simp

/-- A size for which an upload begins fits, and the slot is erased for no other; nothing but
the begin of an upload erases it. -/
theorem accepted_upload_fits (cfg : OtaKconfig) (runtime : OtaUpdateRuntime) (input : OtaInput) :
    (∀ contentLength slot area eraseRet initRet,
      input.op = .begin contentLength slot area eraseRet initRet →
      (otaStep cfg runtime input).2.ret = none →
      ∃ faSize, area = .ok faSize ∧ FitsLimits cfg faSize contentLength) ∧
    ∀ slot, .bootEraseImgBank slot ∈ (otaStep cfg runtime input).2.calls →
      ∃ contentLength faSize eraseRet initRet,
        input.op = .begin contentLength slot (.ok faSize) eraseRet initRet ∧
        FitsLimits cfg faSize contentLength := by
  obtain ⟨init, op⟩ := input
  refine ⟨?_, fun slot erased => ?_⟩
  · rintro contentLength slot area eraseRet initRet rfl begun
    obtain ⟨faSize, opened, fits, -⟩ := otaUpdateBegin_accepted (Or.inl begun)
    exact ⟨faSize, opened, fits⟩
  · cases op with
    | begin contentLength slot' area eraseRet initRet =>
      obtain ⟨faSize, rfl, fits, same⟩ :=
        otaUpdateBegin_accepted (Or.inr (List.ne_nil_of_mem erased))
      obtain rfl := same slot erased
      exact ⟨contentLength, faSize, eraseRet, initRet, rfl, fits⟩
    | write data writeRet =>
      cases data with
      | null len =>
        by_cases positive : 0 < len
        · simp [otaStep, positive] at erased
        · simp only [otaStep, if_neg positive] at erased
          exact absurd erased (otaUpdateWrite_no_erase _ _ _ slot)
      | bytes data => exact absurd erased (otaUpdateWrite_no_erase _ _ _ slot)
    | finish flushRet upgradeRet => exact absurd erased (otaUpdateFinish_no_erase _ _ _ slot)
    | abort reason => simp [otaStep, OtaUpdateRuntime.otaUpdateAbort] at erased
    | selfCheckWebReachable imgConfirmed writeConfirmedRet =>
      exact absurd ((otaUpdateSelfCheckWebReachable_cases _ _ _).1 _ erased) (by simp)
    | scheduleReboot => simp [otaStep] at erased
    | getStatus => simp [otaStep] at erased

/-- A ceiling of 2 MiB over a slot of 1 MiB. -/
def ceilingAboveSlot : OtaKconfig where
  otaMaxUploadBytes := 0x200000
  otaMaxUploadBytes_int := by decide

/-- The ceiling alone is compared: 1.5 MiB are accepted for that slot, which is erased. -/
theorem accepted_upload_exceeds_slot :
    ¬ ∀ (cfg : OtaKconfig) (faSize contentLength : UInt32) (runtime : OtaUpdateRuntime)
        (slot : UInt8) (eraseRet initRet : Option Errno),
      let result := runtime.otaUpdateBegin cfg contentLength slot (.ok faSize) eraseRet initRet
      result.2.ret = none ∨ .bootEraseImgBank slot ∈ result.2.calls →
        1 ≤ contentLength.toNat ∧ contentLength.toNat ≤ faSize.toNat ∧
          (cfg.otaMaxUploadBytes ≠ 0 → (contentLength.toNat : ℤ) ≤ cfg.otaMaxUploadBytes) := by
  intro fits
  have claimed := fits ceilingAboveSlot 0x100000 0x180000 otaRuntimeZero 1 none none
    (Or.inl (by decide))
  exact absurd claimed.2.1 (by decide)

end EspNmeaBridge
