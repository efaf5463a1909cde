/-
# The own position does not go out

With an own MMSI set, the filter takes every sentence that names it: the first fragment,
or the only one, of a message of the own vessel. Behind the filter the threads only pass
on what it let through. So once the reader has picked up the setting, no client gets such
a sentence any more, but for those that had passed before and still wait in a queue.
-/

import EspNmeaBridge.Pipeline.WholeLines

namespace EspNmeaBridge

open CString Delimited Transitions

variable {cfg : Kconfig}

/-- A sentence of the vessel that gives its MMSI. -/
def NamesVessel (own : UInt32) (line : Frame) : Prop :=
  ∃ vdm, parseVdm line = some vdm ∧ vdm.IsOwnFirst own

/-- A line that names the vessel in its setting is dropped, whatever came before. -/
theorem dropped_of_namesVessel {filter : AisMmsiFilter} {line : Frame}
    (active : filter.ownMmsi ≠ 0) (names : NamesVessel filter.ownMmsi line) :
    (aisMmsiFilterShouldDrop filter line).2 = true := by
  obtain ⟨vdm, parsed, own⟩ := names
  rcases shouldDrop_cases filter line with ⟨-, inactive | foreign⟩ | ⟨_, -, -, -, step⟩ |
    ⟨_, -, -, -, step⟩
  · exact absurd inactive active
  · exact absurd own (foreign vdm parsed).1
  · rw [step]
  · rw [step]

/-! ## The reader keeps the setting -/

/-- The filter drops the sentences of this vessel, and the setting asks for no other. -/
structure Watches (own : UInt32) (sys : Pipeline cfg) : Prop where
  effective : sys.aisEffectiveMmsi = own
  applied : sys.rx.appliedMmsi = own
  filter : sys.rx.aisFilter.ownMmsi = own

/-- The step does not ask for another vessel. -/
def KeepsSetting (own : UInt32) : PipelineLabel → Prop
  | .setAisConfig filterEnabled ownMmsi => uartNmeaSetAisConfig filterEnabled ownMmsi = own
  | _ => True

instance (own : UInt32) : (label : PipelineLabel) → Decidable (KeepsSetting own label)
  | .setAisConfig _ _ => inferInstanceAs (Decidable (_ = _))
  | .rxLoopHead | .rxByte _ | .rxPut | .dispatcherGet | .dispatcherLock | .dispatcherScan
  | .sessionOpen _ | .sessionRecv _ _ | .sessionCheck _ | .sessionGet _ | .sessionSend _ _
  | .sessionClose _ => .isTrue trivial

section Steps

variable {sys next : Pipeline cfg} {label : PipelineLabel} {own : UInt32}

/-- Bytes are collected and judged under the setting picked up before. -/
theorem uartRxByte_setting (rx : UartRx cfg) (ch : UInt8) :
    (uartRxByte rx ch).1.appliedMmsi = rx.appliedMmsi ∧
      (uartRxByte rx ch).1.aisFilter.ownMmsi = rx.aisFilter.ownMmsi := by
  have judged (rx : UartRx cfg) : (uartRxFrame rx).1.appliedMmsi = rx.appliedMmsi ∧
      (uartRxFrame rx).1.aisFilter.ownMmsi = rx.aisFilter.ownMmsi := by
    have kept := ownMmsi_shouldDrop rx.aisFilter rx.frame
    unfold uartRxFrame
    rcases verdict : aisMmsiFilterShouldDrop rx.aisFilter rx.frame with ⟨aisFilter, _ | _⟩ <;>
      rw [verdict] at kept <;> exact ⟨rfl, kept⟩
  unfold uartRxByte
  dsimp only
  split_ifs
  · exact ⟨rfl, rfl⟩
  · exact ⟨rfl, rfl⟩
  · exact judged _
  · exact ⟨rfl, rfl⟩
  · exact ⟨rfl, rfl⟩

/-- The verdict that comes with a line is the filter's. -/
theorem uartRxByte_verdict {rx : UartRx cfg} {ch : UInt8} {line : Frame × Bool}
    (handed : (uartRxByte rx ch).2 = some line) :
    (aisMmsiFilterShouldDrop rx.aisFilter line.1).2 = line.2 := by
  cases dropping : rx.droppingOverlong with
  | true => simp [(uartRxByte_dropping rx dropping ch).1] at handed
  | false =>
    rcases rx.frame_fits.lt_or_eq with room | full
    · by_cases ends : ch = newline
      · subst ends
        rw [(uartRxByte_newline rx dropping room).1] at handed
        rw [← Option.some.inj handed]
      · simp [(uartRxByte_store rx dropping room ends).1] at handed
    · simp [(uartRxByte_full rx dropping full ch).1] at handed

/-- The threads behind the reader touch neither its setting nor what it handed over. -/
structure SameIntake (sys next : Pipeline cfg) : Prop where
  aisEffectiveMmsi : next.aisEffectiveMmsi = sys.aisEffectiveMmsi
  rx : next.rx = sys.rx
  handed : next.handed = sys.handed

theorem sameIntake_of_behind (behind : ∀ filterEnabled ownMmsi,
      label ≠ .setAisConfig filterEnabled ownMmsi) (notHead : label ≠ .rxLoopHead)
    (notByte : ∀ ch, label ≠ .rxByte ch) (step : pipelineStep sys label = some next) :
    SameIntake sys next := by
  cases label with
  | setAisConfig filterEnabled ownMmsi => exact absurd rfl (behind filterEnabled ownMmsi)
  | rxLoopHead => exact absurd rfl notHead
  | rxByte ch => exact absurd rfl (notByte ch)
  | rxPut =>
    obtain ⟨_, _, _, _, _, -, -, rfl⟩ := Pipeline.rxPut_cases step
    exact ⟨rfl, rfl, rfl⟩
  | dispatcherGet =>
    obtain ⟨_, _, -, -, rfl⟩ := Pipeline.dispatcherGet_cases step
    exact ⟨rfl, rfl, rfl⟩
  | dispatcherLock =>
    obtain ⟨_, -, rfl⟩ := Pipeline.dispatcherLock_cases step
    exact ⟨rfl, rfl, rfl⟩
  | dispatcherScan =>
    obtain ⟨frame, slot, any, phase, before, -, ⟨_, -, -, rfl⟩ | ⟨inside, -, rfl⟩ |
      ⟨-, _, -, rfl⟩⟩ := Pipeline.dispatcherScan_cases step
    · exact ⟨rfl, rfl, rfl⟩
    · obtain ⟨_, _, _, _, _, _, shape, -⟩ :=
        scanSlot_shape sys frame ⟨slot, inside⟩ any phase before
      rw [shape]
      exact ⟨rfl, rfl, rfl⟩
    · exact ⟨rfl, rfl, rfl⟩
  | sessionOpen s =>
    obtain ⟨-, -, ⟨_, -, rfl⟩ | ⟨-, rfl⟩⟩ := Pipeline.sessionOpen_cases step <;>
      exact ⟨rfl, rfl, rfl⟩
  | sessionRecv s result =>
    obtain ⟨_, -, rfl⟩ := Option.map_eq_some_iff.mp step
    exact ⟨rfl, rfl, rfl⟩
  | sessionCheck s =>
    obtain ⟨-, _, -, rfl⟩ := Pipeline.sessionCheck_cases step
    exact ⟨rfl, rfl, rfl⟩
  | sessionGet s =>
    obtain ⟨_, _, _, -, -, rfl⟩ := Pipeline.sessionGet_cases step
    exact ⟨rfl, rfl, rfl⟩
  | sessionSend s result =>
    obtain ⟨_, -, rfl⟩ := Option.map_eq_some_iff.mp step
    exact ⟨rfl, rfl, rfl⟩
  | sessionClose s =>
    obtain ⟨_, _, _, -, -, -, rfl⟩ := Pipeline.sessionClose_cases step
    exact ⟨rfl, rfl, rfl⟩

/-- The reader's filter is always the one for the MMSI it picked up last. -/
theorem filter_follows_applied (same : sys.rx.aisFilter.ownMmsi = sys.rx.appliedMmsi)
    (step : pipelineStep sys label = some next) :
    next.rx.aisFilter.ownMmsi = next.rx.appliedMmsi := by
  cases label with
  | setAisConfig filterEnabled ownMmsi =>
    obtain rfl := Option.some.inj step
    exact same
  | rxLoopHead =>
    obtain ⟨-, rfl⟩ := Pipeline.rxLoopHead_cases step
    simp only [applyAisConfigIfChanged]
    split_ifs
    · exact same
    · rfl
  | rxByte ch =>
    obtain ⟨applied, filter⟩ := uartRxByte_setting sys.rx ch
    obtain ⟨-, rx, handed, received, result, rfl, moved⟩ := Pipeline.rxByte_cases step
    rw [result] at applied filter
    rcases moved with ⟨-, rfl⟩ | ⟨_, _, _, -, -, rfl⟩ | ⟨_, _, _, -, -, rfl⟩ <;>
      exact filter.trans (same.trans applied.symm)
  | _ =>
    rw [(sameIntake_of_behind (by simp) (by simp) (by simp) step).rx]
    exact same

theorem Watches.step (watches : Watches own sys) (keeps : KeepsSetting own label)
    (step : pipelineStep sys label = some next) : Watches own next := by
  have follows := filter_follows_applied (watches.filter.trans watches.applied.symm) step
  have kept (effective : next.aisEffectiveMmsi = own) (applied : next.rx.appliedMmsi = own) :
      Watches own next := ⟨effective, applied, follows.trans applied⟩
  cases label with
  | setAisConfig filterEnabled ownMmsi =>
    obtain rfl := Option.some.inj step
    exact kept keeps watches.applied
  | rxLoopHead =>
    obtain ⟨-, rfl⟩ := Pipeline.rxLoopHead_cases step
    refine kept watches.effective ?_
    simp [applyAisConfigIfChanged, watches.effective, watches.applied]
  | rxByte ch =>
    have applied := (uartRxByte_setting sys.rx ch).1
    obtain ⟨-, rx, handed, received, result, rfl, moved⟩ := Pipeline.rxByte_cases step
    rw [result] at applied
    -- Whether the frame is published makes no difference to the reader.
    rcases moved with ⟨-, rfl⟩ | ⟨_, _, _, -, -, rfl⟩ | ⟨_, _, _, -, -, rfl⟩ <;>
      exact kept watches.effective (applied.trans watches.applied)
  | _ =>
    have same := sameIntake_of_behind (by simp) (by simp) (by simp) step
    exact kept (same.aisEffectiveMmsi.trans watches.effective)
      (by rw [same.rx, watches.applied])

/-- Nothing new passes, or a line that does not name the vessel. -/
theorem Watches.passed_step (watches : Watches own sys) (active : own ≠ 0)
    (step : pipelineStep sys label = some next) :
    ∃ fresh, next.passed = sys.passed ++ fresh ∧ ∀ line ∈ fresh, ¬ NamesVessel own line := by
  have unhanded (same : next.handed = sys.handed) :
      ∃ fresh, next.passed = sys.passed ++ fresh ∧ ∀ line ∈ fresh, ¬ NamesVessel own line :=
    ⟨[], by simp [Pipeline.passed, same], by simp⟩
  cases label with
  | setAisConfig filterEnabled ownMmsi =>
    obtain rfl := Option.some.inj step
    exact unhanded rfl
  | rxLoopHead =>
    obtain ⟨-, rfl⟩ := Pipeline.rxLoopHead_cases step
    exact unhanded rfl
  | rxByte ch =>
    obtain ⟨-, rx, handed, received, result, rfl, moved⟩ := Pipeline.rxByte_cases step
    have recorded : next.handed = sys.handed ++ handed.toList := by
      rcases moved with ⟨-, rfl⟩ | ⟨_, _, _, -, -, rfl⟩ | ⟨_, _, _, -, -, rfl⟩ <;> rfl
    refine ⟨(handed.toList.filter fun line => !line.2).map Prod.fst,
      by simp [Pipeline.passed, recorded], fun line member names => ?_⟩
    -- The line was judged by the filter of the vessel it names.
    obtain ⟨answer, given, rfl⟩ := List.mem_map.mp member
    obtain ⟨given, passed⟩ := List.mem_filter.mp given
    have verdict : (aisMmsiFilterShouldDrop sys.rx.aisFilter answer.1).2 = answer.2 :=
      uartRxByte_verdict (by rw [result]; exact Option.mem_toList.mp given)
    have dropped : (aisMmsiFilterShouldDrop sys.rx.aisFilter answer.1).2 = true :=
      dropped_of_namesVessel (by rwa [watches.filter]) (by rwa [watches.filter])
    simp [← verdict, dropped] at passed
  | _ => exact unhanded (sameIntake_of_behind (by simp) (by simp) (by simp) step).handed

end Steps

/-! ## Runs -/

theorem filter_follows_run {labels : List PipelineLabel} {sys : Pipeline cfg}
    (ran : run pipelineStep pipelineInit labels = some sys) :
    sys.rx.aisFilter.ownMmsi = sys.rx.appliedMmsi :=
  Transitions.invariant (P := fun sys : Pipeline cfg =>
    sys.rx.aisFilter.ownMmsi = sys.rx.appliedMmsi)
    (fun _ _ _ same step => filter_follows_applied same step) rfl ran

/-- A client gets lines that passed, the last one perhaps in part. -/
theorem accepted_prefix_of_passed {labels : List PipelineLabel} {sys : Pipeline cfg}
    (ran : run pipelineStep pipelineInit labels = some sys) (s : ℕ) :
    ∃ lines : List Frame, lines.Sublist sys.passed ∧
      (sys.sessions s).accepted <+: lines.flatten := by
  have whole := wholeLines_run ran
  refine ⟨(sys.sessions s).received, whole.order.received s, ?_⟩
  rcases (whole.bytes s).wholeThenCut with accepted | ⟨front, last, cut, split, accepted, part, -⟩
  · exact accepted ▸ List.prefix_rfl
  · rw [accepted, split, List.flatten_append, List.flatten_singleton]
    exact (List.prefix_append_right_inj _).mpr part

/-- From a state in which the reader has picked up the own MMSI, and as long as the setting
stays, the lines that pass are the ones that passed before and fresh ones, none of which names
the own vessel; and what any client ever gets are such lines in order, the last one perhaps in
part. -/
theorem own_position_stays_private (cfg : Kconfig) (own : UInt32) (active : own ≠ 0)
    (earlier later : List PipelineLabel) (before sys : Pipeline cfg)
    (ranEarlier : run pipelineStep pipelineInit earlier = some before)
    (effective : before.aisEffectiveMmsi = own) (applied : before.rx.appliedMmsi = own)
    (unchanged : ∀ label ∈ later, KeepsSetting own label)
    (ran : run pipelineStep before later = some sys) :
    ∃ fresh, sys.passed = before.passed ++ fresh ∧
      (∀ line ∈ fresh, ¬ NamesVessel own line) ∧
      ∀ s, ∃ lines : List Frame, lines.Sublist (before.passed ++ fresh) ∧
        (sys.sessions s).accepted <+: lines.flatten := by
  have watches : Watches own before :=
    ⟨effective, applied, (filter_follows_run ranEarlier).trans applied⟩
  obtain ⟨-, fresh, passed, foreign⟩ := Transitions.invariant_of_forall
    (P := fun now : Pipeline cfg => Watches own now ∧ ∃ fresh,
      now.passed = before.passed ++ fresh ∧ ∀ line ∈ fresh, ¬ NamesVessel own line)
    (fun now label next ⟨watches, fresh, passed, foreign⟩ keeps step => by
      obtain ⟨more, grown, others⟩ := watches.passed_step active step
      exact ⟨watches.step keeps step, fresh ++ more, by rw [grown, passed, List.append_assoc],
        List.forall_mem_append.mpr ⟨foreign, others⟩⟩)
    ⟨watches, [], by simp, by simp⟩ unchanged ran
  refine ⟨fresh, passed, foreign, fun s => ?_⟩
  rw [← passed]
  exact accepted_prefix_of_passed (run_append.mpr ⟨before, ranEarlier, ran⟩) s

/-- The main program's first setting, picked up before the first byte. -/
def filterOn : List PipelineLabel := [.setAisConfig true 123456789, .rxLoopHead]

/-- An own sentence, and a line of another talker. -/
def ownThenForeign : List PipelineLabel :=
  .sessionOpen 0 :: (ascii "!AIVDM,1,1,,A,11mg=5@ABCDE,0*25\n$GPGGA\n").map .rxByte

theorem own_position_stays_private_boot :
    let before := (run pipelineStep (pipelineInit : Pipeline prjConf) filterOn).get (by decide)
    let sys := (run pipelineStep before ownThenForeign).get (by decide +kernel)
    ∃ fresh, sys.passed = before.passed ++ fresh ∧
      (∀ line ∈ fresh, ¬ NamesVessel 123456789 line) ∧
      ∀ s, ∃ lines : List Frame, lines.Sublist (before.passed ++ fresh) ∧
        (sys.sessions s).accepted <+: lines.flatten :=
  own_position_stays_private prjConf 123456789 (by decide) filterOn ownThenForeign _ _
    (Option.some_get _).symm rfl rfl (by decide) (Option.some_get _).symm

end EspNmeaBridge
