/-
# A failed upload stays visible

An operation that fails leaves the state `error` behind, for the status page to show. Writes
and finishes look at the state and leave it alone; the self check behind every status page
does not look: it replaces whatever stands there by its own verdict on the running image.
The outcome of an upload stays visible exactly as long as no self check replaces it.
-/

import EspNmeaBridge.OtaUpdate.Committed

namespace EspNmeaBridge

open Machine

/-- The state `ota_update_get_status` reports, with what `init_once` would find. -/
def otaUpdateGetStatus (cfg : OtaKconfig) (runtime : OtaUpdateRuntime) (init : OtaInit) :
    OtaUpdateState :=
  (otaStep cfg runtime ⟨init, .getStatus⟩).1.status.state

/-- A begin, write or finish that returns an error, or an abort. -/
def FailedCall (cfg : OtaKconfig) (runtime : OtaUpdateRuntime) (input : OtaInput) : Prop :=
  match input.op with
  | .begin _ _ _ _ _ | .write _ _ | .finish _ _ => (otaStep cfg runtime input).2.ret ≠ none
  | .abort _ => True
  | .selfCheckWebReachable _ _ | .scheduleReboot | .getStatus => False

/-- A write or finish while no upload runs, or a write without a buffer: it is turned away
and no upload fails by it. -/
def RefusedCall (runtime : OtaUpdateRuntime) (input : OtaInput) : Prop :=
  match input.op with
  | .write (.null len) _ =>
    0 < len ∨ (initOnce input.init runtime).status.state ≠ .uploading
  | .write (.bytes _) _ | .finish _ _ =>
    (initOnce input.init runtime).status.state ≠ .uploading
  | _ => False

/-- An input with its answer is a begin that succeeded. -/
def SuccessfulBegin (event : OtaInput × OtaAnswer) : Prop :=
  match event.1.op with
  | .begin _ _ _ _ _ => event.2.ret = none
  | _ => False

/-! ## The outcome of an upload over a run -/

/-- No self check of the run moves the state away from `uploading` or `error`. -/
def SelfChecksKeepOutcome (cfg : OtaKconfig) (inputs : List OtaInput) : Prop :=
  ∀ front init imgConfirmed writeConfirmedRet back,
    inputs = front ++ ⟨init, .selfCheckWebReachable imgConfirmed writeConfirmedRet⟩ :: back →
    let before := stateAfter (otaStep cfg) otaRuntimeZero front
    before.status.state = .uploading ∨ before.status.state = .error →
    (otaStep cfg before
      ⟨init, .selfCheckWebReachable imgConfirmed writeConfirmedRet⟩).1.status.state =
        before.status.state

/-- Behind every failure of the run that counts, the status reports `error` until a begin
succeeds. -/
def FailuresStayVisible (Counts : OtaUpdateRuntime → OtaInput → Prop) (cfg : OtaKconfig)
    (inputs : List OtaInput) : Prop :=
  ∀ front input later rest, inputs = front ++ input :: (later ++ rest) →
    let before := stateAfter (otaStep cfg) otaRuntimeZero front
    FailedCall cfg before input → Counts before input →
    (∀ event ∈ trace (otaStep cfg) (otaStep cfg before input).1 later,
      ¬SuccessfulBegin event) →
    ∀ init, otaUpdateGetStatus cfg
      (stateAfter (otaStep cfg) (otaStep cfg before input).1 later) init = .error

/-- The self check is not made during an upload; and behind a failure it is made only where
it can neither find nor make the running image confirmed. -/
def HarmlessSelfCheck (runtime : OtaUpdateRuntime) (input : OtaInput) : Prop :=
  match input.op with
  | .selfCheckWebReachable imgConfirmed writeConfirmedRet =>
    runtime.status.state ≠ .uploading ∧
      (runtime.status.state = .error → imgConfirmed = false ∧ writeConfirmedRet ≠ none)
  | _ => True

/-- Every call of the run meets the condition in the state it is made in. -/
def EveryCall (Meets : OtaUpdateRuntime → OtaInput → Prop) (cfg : OtaKconfig)
    (inputs : List OtaInput) : Prop :=
  ∀ front input back, inputs = front ++ input :: back →
    Meets (stateAfter (otaStep cfg) otaRuntimeZero front) input

/-! ## One call -/

section Step

variable {cfg : OtaKconfig} {runtime : OtaUpdateRuntime} {input : OtaInput}

/-- Only `init_once` leaves the state a boot starts with. -/
def Started (runtime : OtaUpdateRuntime) : Prop :=
  runtime.initialized = true ∨ runtime.status.state = .disabled

theorem Started.initialized (started : Started runtime)
    (outcome : runtime.status.state = .uploading ∨ runtime.status.state = .error) :
    runtime.initialized = true := by
  rcases started with started | fresh
  · exact started
  · rw [fresh] at outcome
    simp at outcome

theorem Started.step (cfg : OtaKconfig) (started : Started runtime) (input : OtaInput) :
    Started (otaStep cfg runtime input).1 := by
  obtain ⟨init, op⟩ := input
  have ready := initOnce_initialized init runtime
  cases op with
  | write data writeRet =>
    cases data with
    | null len =>
      by_cases positive : 0 < len
      · simpa [otaStep, positive] using started
      · simp [Started, otaStep, positive, ready]
    | bytes data => simp [Started, otaStep, ready]
  | abort reason => simp [Started, otaStep, OtaUpdateRuntime.otaUpdateAbort, ready]
  | _ => simp [Started, otaStep, ready]

theorem started_stateAfter (cfg : OtaKconfig) (inputs : List OtaInput) :
    Started (stateAfter (otaStep cfg) otaRuntimeZero inputs) :=
  invariant (otaStep cfg) (fun _ input started => started.step cfg input) (.inr rfl) inputs

/-- A self check keeps the outcome of an upload exactly when it is harmless. -/
theorem selfCheck_keeps_iff (started : runtime.initialized = true)
    (outcome : runtime.status.state = .uploading ∨ runtime.status.state = .error)
    (init : OtaInit) (imgConfirmed : Bool) (writeConfirmedRet : Option Errno) :
    (otaStep cfg runtime
        ⟨init, .selfCheckWebReachable imgConfirmed writeConfirmedRet⟩).1.status.state =
        runtime.status.state ↔
      HarmlessSelfCheck runtime
        ⟨init, .selfCheckWebReachable imgConfirmed writeConfirmedRet⟩ := by
  simp only [otaStep, initOnce_of_initialized started,
    OtaUpdateRuntime.otaUpdateSelfCheckWebReachable, HarmlessSelfCheck]
  rcases outcome with uploading | failed
  · cases imgConfirmed <;> cases writeConfirmedRet <;> simp [uploading]
  · cases imgConfirmed <;> cases writeConfirmedRet <;> simp [failed]

/-- A write during an upload fails the upload. -/
theorem error_of_failed_write {data : OtaData} {writeRet : Option Errno}
    (running : runtime.status.state = .uploading)
    (failed : (runtime.otaUpdateWrite data writeRet).2.ret ≠ none) :
    (runtime.otaUpdateWrite data writeRet).1.status.state = .error := by
  obtain ⟨-, outcome⟩ := otaUpdateWrite_cases runtime data writeRet
  rcases outcome with ⟨idle, -⟩ | final | ⟨-, -, answer⟩
  · exact absurd running idle
  · exact final
  · exact absurd (congrArg (·.2.ret) answer) failed

/-- A failure that is not a refusal leaves the state `error`. -/
theorem error_of_failed (failed : FailedCall cfg runtime input)
    (counts : ¬RefusedCall runtime input) :
    (otaStep cfg runtime input).1.status.state = .error := by
  obtain ⟨init, op⟩ := input
  cases op with
  | «begin» contentLength slot area eraseRet initRet =>
    obtain ⟨-, outcome⟩ := otaUpdateBegin_cases cfg (initOnce init runtime) contentLength slot area
      eraseRet initRet
    rcases outcome with ⟨final, -⟩ | ⟨-, -, -, answer, -⟩
    · exact final
    · exact absurd (congrArg OtaAnswer.ret answer) failed
  | write data writeRet =>
    cases data with
    | null len =>
      rw [RefusedCall, not_or, not_not] at counts
      have running : otaStep cfg runtime ⟨init, .write (.null len) writeRet⟩ =
          (initOnce init runtime).otaUpdateWrite (.null len) writeRet := if_neg counts.1
      rw [FailedCall, running] at failed
      rw [running]
      exact error_of_failed_write counts.2 failed
    | bytes data => exact error_of_failed_write (not_not.mp counts) failed
  | finish flushRet upgradeRet =>
    rcases otaUpdateFinish_cases (initOnce init runtime) flushRet upgradeRet with
      ⟨idle, -⟩ | ⟨final, -⟩ | ⟨-, -, -, ret, final⟩
    · exact absurd idle counts
    · exact final
    · -- The image is written, and only the request for its test boot failed.
      have request : upgradeRet ≠ none := ret ▸ failed
      exact final.trans (if_neg request)
  | abort reason => rfl
  | _ => exact failed.elim

/-- Behind a failure, only a begin that succeeds or a self check changes the state. -/
theorem error_stays (started : runtime.initialized = true)
    (isError : runtime.status.state = .error)
    (noBegin : ¬SuccessfulBegin (input, (otaStep cfg runtime input).2))
    (harmless : HarmlessSelfCheck runtime input) :
    (otaStep cfg runtime input).1.status.state = .error := by
  have idle : runtime.status.state ≠ .uploading := by simp [isError]
  obtain ⟨init, op⟩ := input
  cases op with
  | «begin» contentLength slot area eraseRet initRet =>
    obtain ⟨-, outcome⟩ := otaUpdateBegin_cases cfg (initOnce init runtime) contentLength slot area
      eraseRet initRet
    rcases outcome with ⟨final, -⟩ | ⟨-, -, -, answer, -⟩
    · exact final
    · exact absurd (congrArg OtaAnswer.ret answer) noBegin
  | abort reason => rfl
  | selfCheckWebReachable imgConfirmed writeConfirmedRet =>
    exact ((selfCheck_keeps_iff started (.inr isError) _ _ _).mpr harmless).trans isError
  | _ => rw [(otaStep_eq_self cfg started idle rfl).1, isError]

theorem otaUpdateWrite_idle (idle : runtime.status.state ≠ .uploading) (data : OtaData)
    (writeRet : Option Errno) :
    runtime.otaUpdateWrite data writeRet = (runtime, ⟨some .ealready, []⟩) :=
  if_pos idle

theorem otaUpdateFinish_idle (idle : runtime.status.state ≠ .uploading)
    (flushRet upgradeRet : Option Errno) :
    runtime.otaUpdateFinish flushRet upgradeRet = (runtime, ⟨some .ealready, []⟩) :=
  if_pos idle

@[simp] theorem initOnce_initOnce (init : OtaInit) (runtime : OtaUpdateRuntime) :
    initOnce init (initOnce init runtime) = initOnce init runtime :=
  initOnce_of_initialized (initOnce_initialized init runtime) init

/-- A call that is turned away fails, and does nothing but `init_once`. -/
theorem refused_failed (refused : RefusedCall runtime input) :
    FailedCall cfg runtime input ∧
      initOnce input.init (otaStep cfg runtime input).1 = initOnce input.init runtime := by
  obtain ⟨init, op⟩ := input
  cases op with
  | write data writeRet =>
    cases data with
    | null len =>
      by_cases positive : 0 < len
      · simp [FailedCall, otaStep, positive]
      · have idle : (initOnce init runtime).status.state ≠ .uploading :=
          refused.resolve_left positive
        simp [FailedCall, otaStep, positive, otaUpdateWrite_idle idle]
    | bytes data => simp [FailedCall, otaStep, otaUpdateWrite_idle refused]
  | finish flushRet upgradeRet => simp [FailedCall, otaStep, otaUpdateFinish_idle refused]
  | _ => exact refused.elim

theorem RefusedCall.looksAtState (refused : RefusedCall runtime input) :
    input.op.looksAtState = true := by
  obtain ⟨init, op⟩ := input
  cases op with
  | write data writeRet => rfl
  | finish flushRet upgradeRet => rfl
  | _ => exact refused.elim

/-- `init_once` itself reports no error. -/
theorem error_of_initOnce {init : OtaInit}
    (reported : (initOnce init runtime).status.state = .error) :
    runtime.status.state = .error := by
  by_cases started : runtime.initialized = true
  · rwa [initOnce_of_initialized started] at reported
  · cases found : init.confirmedForState <;> simp [initOnce, started, found] at reported

end Step

/-! ## Every run -/

section Run

variable {cfg : OtaKconfig} {inputs : List OtaInput}

/-- A refused call counts only where the state is `error` already. -/
def RefusedInError (runtime : OtaUpdateRuntime) (input : OtaInput) : Prop :=
  RefusedCall runtime input → runtime.status.state = .error

theorem selfChecksKeepOutcome_iff :
    SelfChecksKeepOutcome cfg inputs ↔ EveryCall HarmlessSelfCheck cfg inputs := by
  constructor
  · rintro keep front ⟨init, op⟩ back split
    cases op with
    | selfCheckWebReachable imgConfirmed writeConfirmedRet =>
      have kept := keep front init imgConfirmed writeConfirmedRet back split
      have started := started_stateAfter cfg front
      by_cases outcome : (stateAfter (otaStep cfg) otaRuntimeZero front).status.state =
          .uploading ∨ (stateAfter (otaStep cfg) otaRuntimeZero front).status.state = .error
      · exact (selfCheck_keeps_iff (started.initialized outcome) outcome _ _ _).mp (kept outcome)
      · rw [not_or] at outcome
        exact ⟨outcome.1, fun failed => absurd failed outcome.2⟩
    | _ => trivial
  · intro harmless front init imgConfirmed writeConfirmedRet back split before outcome
    have started := (started_stateAfter cfg front).initialized outcome
    exact (selfCheck_keeps_iff started outcome _ _ _).mpr (harmless front _ back split)

/-- What a failure left stays there: no self check of the run replaces it. -/
theorem failuresStayVisible {Counts : OtaUpdateRuntime → OtaInput → Prop}
    (harmless : EveryCall HarmlessSelfCheck cfg inputs)
    (fails : ∀ front input back, inputs = front ++ input :: back →
      let before := stateAfter (otaStep cfg) otaRuntimeZero front
      FailedCall cfg before input → Counts before input →
        (otaStep cfg before input).1.status.state = .error) :
    FailuresStayVisible Counts cfg inputs := by
  intro front input later rest split before failed counts noBegin init
  suffices isError : (stateAfter (otaStep cfg) (otaStep cfg before input).1 later).status.state =
      .error by
    have started := (started_stateAfter cfg (front ++ input :: later))
    rw [stateAfter_append, stateAfter_cons] at started
    rw [otaUpdateGetStatus, otaStep, initOnce_of_initialized (started.initialized (.inr isError))]
    exact isError
  -- on the calls behind the failure; the failing call itself is the base case
  induction later using List.reverseRecOn generalizing rest with
  | nil => exact fails front input rest split failed counts
  | append_singleton later call ih =>
    rw [trace_snoc] at noBegin
    have isError := ih (call :: rest) (by simpa using split)
      (fun event member => noBegin event (List.mem_append_left _ member))
    have reached := started_stateAfter cfg (front ++ input :: later)
    have calm := harmless (front ++ input :: later) call rest (by simpa using split)
    rw [stateAfter_append, stateAfter_cons] at reached calm
    rw [stateAfter_snoc]
    exact error_stays (reached.initialized (.inr isError)) isError
      (noBegin _ (List.mem_append_right _ (List.mem_singleton_self _))) calm

/-- Were every refused call counted as a failure, it would have to meet an error. -/
theorem refusedInError_of_visible (visible : FailuresStayVisible (fun _ _ => True) cfg inputs) :
    EveryCall RefusedInError cfg inputs := by
  intro front input back split refused
  obtain ⟨failed, same⟩ := refused_failed refused
  have reported := visible front input [] back split failed trivial (by simp) input.init
  rw [otaUpdateGetStatus, otaStep, stateAfter_nil, same] at reported
  exact error_of_initOnce reported

/-- Over every run, the self checks keep the outcome of an upload, and an upload that failed
stays visible until the next successful begin, exactly when every self check is harmless. For
the calls turned away without an upload to do the same, they must meet an error already. -/
theorem upload_outcome_stays_visible_iff (cfg : OtaKconfig) (inputs : List OtaInput) :
    (SelfChecksKeepOutcome cfg inputs ∧
        FailuresStayVisible (fun runtime input => ¬RefusedCall runtime input) cfg inputs ↔
      EveryCall HarmlessSelfCheck cfg inputs) ∧
    (SelfChecksKeepOutcome cfg inputs ∧ FailuresStayVisible (fun _ _ => True) cfg inputs ↔
      EveryCall HarmlessSelfCheck cfg inputs ∧ EveryCall RefusedInError cfg inputs) := by
  rw [selfChecksKeepOutcome_iff]
  constructor
  · refine and_iff_left_of_imp fun harmless => ?_
    apply failuresStayVisible harmless
    intro front input back _ before failed counts
    exact error_of_failed failed counts
  · refine and_congr_right fun harmless => ⟨refusedInError_of_visible, fun inError => ?_⟩
    apply failuresStayVisible harmless
    intro front input back split before failed _
    by_cases refused : RefusedCall before input
    · -- turned away: the error it met is still there
      have isError : before.status.state = .error := inError front input back split refused
      have idle : before.status.state ≠ .uploading := by
        rw [isError]
        decide
      have started := (started_stateAfter cfg front).initialized (.inr isError)
      rw [(otaStep_eq_self cfg started idle refused.looksAtState).1, isError]
    · exact error_of_failed failed refused

/-- An aborted upload and two status pages: the first replaces the error by the verdict on
the running image, and the second shows that. A page in the middle of an upload ends it. -/
theorem upload_outcome_hidden :
    ¬(SelfChecksKeepOutcome ⟨0, by decide⟩
        [⟨⟨true, true, 1⟩, .begin 3 1 (.ok 4096) none none⟩,
          ⟨⟨true, true, 1⟩, .selfCheckWebReachable true none⟩]) ∧
    ¬(FailuresStayVisible (fun runtime input => ¬RefusedCall runtime input) ⟨0, by decide⟩
        [⟨⟨true, true, 1⟩, .begin 3 1 (.ok 4096) none none⟩,
          ⟨⟨true, true, 1⟩, .abort (some "OTA upload connection closed early")⟩,
          ⟨⟨true, true, 1⟩, .selfCheckWebReachable true none⟩]) := by
  constructor
  · intro keep
    have kept := keep [⟨⟨true, true, 1⟩, .begin 3 1 (.ok 4096) none none⟩] _ _ _ [] rfl
      (.inl (by decide))
    exact absurd kept (by decide)
  · intro visible
    have shown := visible [⟨⟨true, true, 1⟩, .begin 3 1 (.ok 4096) none none⟩] _
      [⟨⟨true, true, 1⟩, .selfCheckWebReachable true none⟩] [] rfl trivial id
      (by simp [trace, SuccessfulBegin]) ⟨true, true, 1⟩
    exact absurd shown (by decide)

end Run

end EspNmeaBridge
