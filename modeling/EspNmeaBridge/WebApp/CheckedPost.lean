/-
# The checks of the handler suffice for the setters

The handler checks single fields; a setter checks its group, of which some fields are new
and some are those in use. Both state the same limits: what passes the handler's checks,
merged into a valid group, is valid, and a valid group is accepted by its setter. What can
still fail is the settings store.
-/

import EspNmeaBridge.BridgeConfig.ExactStrings
import EspNmeaBridge.WebApp.RejectedPost
import EspNmeaBridge.WebApp.SubmittedFields

namespace EspNmeaBridge

open CString

/-! ## Valid groups are accepted -/

theorem pskLenOk_of_isPsk {n : ℕ} {psk : CharArray n} (valid : IsPsk psk.str) :
    pskLenOk psk.strlen = true := by
  simp only [pskLenOk, Bool.or_eq_true, beq_iff_eq, Bool.and_eq_true, decide_eq_true_eq]
  exact valid.imp_left List.length_eq_zero_iff.mpr

/-- The limits are all that a setter asks for. -/
theorem accepts_of_valid {g : Group} {config : g.Config} (valid : g.Valid config) :
    (configGroup g).accepts config = true := by
  cases g with
  | ais =>
    simp only [configGroup, aisGroup, aisAccepts, decide_eq_true_eq]
    exact valid
  | tcpClient =>
    obtain ⟨ends, host, -, port⟩ := valid
    simp only [configGroup, tcpClientGroup, tcpClientAccepts, Bool.and_eq_true, beq_iff_eq,
      bne_iff_ne]
    exact ⟨⟨ends, (valid_iff_of_terminated ends).2.1.mpr host⟩, port⟩
  | ap =>
    obtain ⟨⟨ends, -, text⟩, nonempty, pskEnds, psk⟩ := valid
    simp only [configGroup, apGroup, apAccepts, Bool.and_eq_true, beq_iff_eq, bne_iff_ne]
    exact ⟨⟨⟨⟨ends, pskEnds⟩, (valid_iff_of_terminated ends).1.mpr text⟩,
      fun empty => nonempty (List.length_eq_zero_iff.mp empty)⟩, pskLenOk_of_isPsk psk⟩
  | system =>
    obtain ⟨ends, label⟩ := valid
    simp only [configGroup, systemGroup, systemAccepts, Bool.and_eq_true, beq_iff_eq]
    exact ⟨ends, (valid_iff_of_terminated ends).2.2.mpr label⟩
  | sta =>
    obtain ⟨⟨ends, -, text⟩, pskEnds, psk⟩ := valid
    simp only [configGroup, staGroup, staAccepts, Bool.and_eq_true, beq_iff_eq]
    exact ⟨⟨⟨ends, pskEnds⟩, (valid_iff_of_terminated ends).1.mpr text⟩, pskLenOk_of_isPsk psk⟩

/-! ## What the checks let through -/

/-- The fields present are within the limits of their groups. -/
structure CheckedFields (fields : ℕ) (payload : ConfigPayload) : Prop where
  aisOwnMmsi : hasField fields .aisOwnMmsi = true →
    payload.aisOwnMmsi.toUInt32 ≤ bridgeConfigAisMmsiMax
  staSsid : hasField fields .staSsid = true → IsText payload.staSsid.str
  staPsk : hasField fields .staPsk = true → IsPsk payload.staPsk.str
  apSsid : hasField fields .apSsid = true → IsText payload.apSsid.str
  apPsk : hasField fields .apPsk = true → IsPsk payload.apPsk.str
  hostname : hasField fields .hostname = true → IsHostname payload.hostname.str
  tcpClientHost : hasField fields .tcpClientHost = true → IsHost payload.tcpClientHost.str

section Checks

variable {n : ℕ} {fields : ℕ} {f : ConfigField} {payload : ConfigPayload}

theorem isText_of_ssidError {ssid : CharArray n} (passed : ssidError fields f ssid = none)
    (given : hasField fields f = true) : IsText ssid.str := by
  simp only [ssidError, given, Bool.not_true, Bool.false_eq_true, if_false] at passed
  split_ifs at passed with length
  have valid : bridgeConfigTextValid ssid.bytes = some true := by simpa using passed
  exact isText_of_textValidFrom valid

theorem isPsk_of_pskError {psk : CharArray n} (passed : pskError fields f psk = none)
    (given : hasField fields f = true) : IsPsk psk.str := by
  by_cases empty : psk.strlen = 0
  · exact Or.inl (List.length_eq_zero_iff.mp empty)
  · right
    simp only [pskError, given, fieldErrorIf_eq_none, Bool.true_and, bne_iff_ne.mpr empty,
      Bool.or_eq_false_iff, decide_eq_false_iff_not, Nat.not_lt] at passed
    exact passed

theorem valid_of_textError {max : ℕ} {valid : List UInt8 → Option Bool} {message : String}
    {text : CharArray n} (passed : textError fields f max valid message text = none)
    (given : hasField fields f = true) : valid text.bytes = some true := by
  by_contra refused
  simp [textError, given, refused] at passed

theorem checkedFields_of_firstFieldError (passed : firstFieldError fields payload = none) :
    CheckedFields fields payload := by
  simp only [firstFieldError, List.findSome?_eq_none_iff, List.forall_mem_cons, id,
    List.not_mem_nil, false_implies, implies_true, and_true] at passed
  obtain ⟨mmsi, staSsid, staPsk, -, apSsid, apPsk, -, hostname, host, -⟩ := passed
  refine ⟨?_, isText_of_ssidError staSsid, isPsk_of_pskError staPsk, isText_of_ssidError apSsid,
    isPsk_of_pskError apPsk, fun given => isHostname_of_valid (valid_of_textError hostname given),
    fun given => isHost_of_valid (valid_of_textError host given)⟩
  intro given
  simp only [aisOwnMmsiError, fieldErrorIf_eq_none, given, Bool.true_and, Bool.or_eq_false_iff,
    decide_eq_false_iff_not] at mmsi
  exact UInt32.not_lt.mp mmsi.2

end Checks

/-! ## Merged groups are valid -/

section Merged

variable {n m : ℕ} {fields : ℕ} {payload : ConfigPayload}

/-- The copy is made or not; either way the array ends and holds one of the two strings. -/
theorem copyIf_terminated {given : Bool} {dst copy : CharArray n} {src : CharArray m}
    (copied : copyIf given dst src = some copy) (ended : dst.terminated = true) :
    copy.terminated = true ∧ copy.str = if given then src.str else dst.str := by
  cases given with
  | false =>
    obtain rfl := Option.some.inj copied
    exact ⟨ended, rfl⟩
  | true =>
    have fits : src.str.length < n := by
      by_contra long
      simp [copyIf, CharArray.strcpy, long] at copied
    obtain rfl := Option.some.inj ((CharArray.strcpy_eq_some fits).symm.trans copied)
    have text : (dst.memcpy (src.str ++ [0])).str = src.str := by
      rw [CharArray.str_memcpy_terminated dst fits, src.content_str]
    refine ⟨CharArray.terminated_of_strlen_lt ?_, text⟩
    rwa [CharArray.strlen, text]

theorem setByte_zero_terminated {dst : CharArray n} (ended : dst.terminated = true) :
    (dst.setByte 0 0).terminated = true := by
  apply CharArray.terminated_of_strlen_lt
  rw [CharArray.strlen, CharArray.str_setByte_zero]
  exact Nat.zero_lt_of_lt (CharArray.strlen_lt_of_terminated ended)

/-- A PSK that is cleared, replaced or kept is a PSK. -/
theorem mergePsk_valid {clearField pskField : ConfigField} {clear : Bool} {dst psk : CharArray n}
    {src : CharArray m} (merged : mergePsk fields clearField clear pskField dst src = some psk)
    (ended : dst.terminated = true) (old : IsPsk dst.str)
    (new : hasField fields pskField = true → IsPsk src.str) :
    psk.terminated = true ∧ IsPsk psk.str := by
  unfold mergePsk at merged
  split_ifs at merged with cleared
  · obtain rfl := Option.some.inj merged
    exact ⟨setByte_zero_terminated ended, Or.inl (CharArray.str_setByte_zero dst)⟩
  · obtain ⟨ends, text⟩ := copyIf_terminated merged ended
    refine ⟨ends, ?_⟩
    rw [text]
    split_ifs with given
    · exact new (Bool.and_elim_left given)
    · exact old

/-- An SSID that is replaced or kept is an SSID. -/
theorem copyIf_ssid {given : Bool} {dst copy : CharArray n} {src : CharArray m}
    (copied : copyIf given dst src = some copy) (old : IsSsid dst)
    (short : given = true → src.strlen ≠ 0 ∧ src.strlen ≤ bridgeConfigWifiSsidMax)
    (text : given = true → IsText src.str) :
    IsSsid copy ∧ (dst.str ≠ [] → copy.str ≠ []) := by
  obtain ⟨ends, same⟩ := copyIf_terminated copied old.1
  cases given with
  | false =>
    rw [if_neg (by simp)] at same
    exact ⟨⟨ends, same ▸ old.2.1, same ▸ old.2.2⟩, fun nonempty => same ▸ nonempty⟩
  | true =>
    rw [if_pos rfl] at same
    obtain ⟨nonempty, bound⟩ := short rfl
    refine ⟨⟨ends, same ▸ bound, same ▸ text rfl⟩, fun _ empty => nonempty ?_⟩
    rw [CharArray.strlen, ← same, empty, List.length_nil]

/-- A valid group with checked fields is valid. -/
theorem valid_of_merge {g : Group} {old new : g.Config} (accepted : Accepted fields payload)
    (checked : CheckedFields fields payload) (valid : g.Valid old)
    (merged : merge fields payload g old = some new) : g.Valid new := by
  cases g with
  | ais =>
    obtain rfl := Option.some.inj merged
    simp only [Group.Valid] at valid ⊢
    split_ifs with given
    · exact checked.aisOwnMmsi given
    · exact valid
  | tcpClient =>
    obtain ⟨ends, host, -, port⟩ := valid
    simp only [merge, mergeTcpClient, Option.bind_eq_bind, Option.bind_eq_some_iff,
      Option.some.injEq] at merged
    obtain ⟨copy, copied, rfl⟩ := merged
    obtain ⟨copyEnds, same⟩ := copyIf_terminated copied ends
    have copyHost : IsHost copy.str := by
      rw [same]
      split_ifs with given
      · exact checked.tcpClientHost given
      · exact host
    refine ⟨copyEnds, copyHost, copyHost.length_le, ?_⟩
    dsimp only
    split_ifs with given
    · intro zero
      -- a port in range is not cast to 0
      have value := toNat_toUInt16 (accepted.tcpClientPort given)
      have positive := Int32.le_iff_toInt_le.mp (accepted.tcpClientPort given).1
      rw [zero] at value
      simp at value positive
      omega
    · exact port
  | ap =>
    obtain ⟨ssid, nonempty, pskEnds, psk⟩ := valid
    simp only [merge, mergeAp, Option.bind_eq_bind, Option.bind_eq_some_iff,
      Option.some.injEq] at merged
    obtain ⟨copy, copied, key, replaced, rfl⟩ := merged
    obtain ⟨copySsid, keeps⟩ := copyIf_ssid copied ssid accepted.apSsid checked.apSsid
    exact ⟨copySsid, keeps nonempty, mergePsk_valid replaced pskEnds psk checked.apPsk⟩
  | system =>
    obtain ⟨ends, label⟩ := valid
    simp only [merge, mergeSystem, Option.bind_eq_bind, Option.bind_eq_some_iff,
      Option.some.injEq] at merged
    obtain ⟨copy, copied, rfl⟩ := merged
    obtain ⟨copyEnds, same⟩ := copyIf_terminated copied ends
    refine ⟨copyEnds, ?_⟩
    dsimp only
    rw [same]
    split_ifs with given
    · exact checked.hostname given
    · exact label
  | sta =>
    obtain ⟨ssid, pskEnds, psk⟩ := valid
    simp only [merge, mergeSta, Option.bind_eq_bind, Option.bind_eq_some_iff,
      Option.some.injEq] at merged
    obtain ⟨copy, copied, key, replaced, rfl⟩ := merged
    obtain ⟨copySsid, -⟩ := copyIf_ssid copied ssid accepted.staSsid checked.staSsid
    exact ⟨copySsid, mergePsk_valid replaced pskEnds psk checked.staPsk⟩

end Merged

/-! ## The saves -/

/-- What the setters of a request returned: where one failed, it had handed its group to the
settings store and returned the error of that. -/
def OnlyStoreFails (saveRet : Group → Option Errno) (update : ConfigUpdate) : Prop :=
  (∀ call ∈ update.calls, call.2.ret = none ∨
    call.2.ret = saveRet call.1 ∧ call.2.saved = some call.1.key) ∧
  (update.response.status = "500 Internal Server Error" →
    ∃ g err, update.response = .saveFailed g ∧ saveRet g = some err ∧
      (g, ⟨some err, some g.key, [], false⟩) ∈ update.calls)

section Saves

variable {world : ConfigWorld} {g : Group} {saveRet : Group → Option Errno}

/-- A setter that accepts its argument fails as the store does. -/
theorem bridgeConfigSet_of_accepts (world : ConfigWorld) {config : g.Config}
    (accepted : (configGroup g).accepts config = true) (ret : Option Errno) :
    (bridgeConfigSet g world (some config) ret).2.ret = none ∨
      ∃ err, ret = some err ∧
        (bridgeConfigSet g world (some config) ret).2 = ⟨some err, some g.key, [], false⟩ := by
  simp only [bridgeConfigSet, accepted, Bool.not_true, Bool.false_eq_true, if_false]
  split_ifs
  · exact Or.inl rfl
  · cases ret with
    | none => exact Or.inl rfl
    | some err => exact Or.inr ⟨err, rfl, rfl⟩

theorem OnlyStoreFails.answered {response : ConfigResponse}
    (other : response.status ≠ "500 Internal Server Error") :
    OnlyStoreFails saveRet (answered response world) :=
  ⟨by simp [EspNmeaBridge.answered], fun failed => absurd failed other⟩

/-- The saves in order, each of an accepted argument. -/
theorem saveGroups_onlyStoreFails {next : (g : Group) → EffectiveConfig → Option g.Config}
    {groups : List Group} (distinct : groups.Nodup)
    (accepted : ∀ g ∈ groups, ∀ config : EffectiveConfig, config g = world.config g →
      ∃ v, next g config = some v ∧ (configGroup g).accepts v = true) :
    ∃ update, saveGroups next saveRet groups world = some update ∧
      OnlyStoreFails saveRet update := by
  induction groups generalizing world with
  | nil => exact ⟨_, rfl, .answered (by simp [ConfigResponse.status])⟩
  | cons g groups ih =>
    rw [List.nodup_cons] at distinct
    rw [List.forall_mem_cons] at accepted
    obtain ⟨v, given, ok⟩ := accepted.1 world.config rfl
    simp only [saveGroups, given, Option.bind_eq_bind, Option.bind_some]
    rcases bridgeConfigSet_of_accepts world ok (saveRet g) with done | ⟨err, failed, answer⟩
    · rw [if_neg (not_not.mpr done)]
      -- what the later setters are given has not changed
      obtain ⟨update, run, calls, response⟩ := @ih (bridgeConfigSet g world (some v)
        (saveRet g)).1 distinct.2 fun h member config same => accepted.2 h member config
          (same.trans (bridgeConfigSet_others world _ _ h
            (ne_of_mem_of_not_mem member distinct.1)))
      refine ⟨_, by rw [run]; rfl, ?_, fun status => ?_⟩
      · rw [List.forall_mem_cons]
        exact ⟨Or.inl done, calls⟩
      obtain ⟨h, err, named, failed, called⟩ := response status
      exact ⟨h, err, named, failed, List.mem_cons_of_mem _ called⟩
    · rw [answer, if_pos (by simp)]
      refine ⟨_, rfl, ?_, fun _ => ⟨g, err, rfl, failed, List.mem_singleton_self _⟩⟩
      exact List.forall_mem_singleton.mpr (Or.inr ⟨failed.symm, rfl⟩)

end Saves

section Handler

variable {fields : ℕ} {payload : ConfigPayload} {saveRet : Group → Option Errno}
  {world : ConfigWorld}

/-- The handler on a decoded payload, whatever the mask. -/
theorem updateConfig_onlyStoreFails (fields : ℕ) (payload : ConfigPayload)
    (saveRet : Group → Option Errno) (valid : AllValid world.config) :
    ∃ update, updateConfig fields payload saveRet world = some update ∧
      OnlyStoreFails saveRet update := by
  cases failed : firstFieldError fields payload with
  | some response =>
    obtain ⟨f, message, -, rfl⟩ := firstFieldError_eq_some failed
    refine ⟨answered (.fieldError f.key message) world, by simp only [updateConfig, failed], ?_⟩
    exact .answered (by simp [ConfigResponse.status])
  | none =>
    have accepted := accepted_of_firstFieldError failed
    have checked := checkedFields_of_firstFieldError failed
    -- What a setter is given is merged from checked fields, or is the group as it is.
    have ok (g : Group) (config : EffectiveConfig) (same : config g = world.config g) :
        ∃ v, (if hasFields fields g.fields then merge fields payload g (config g)
            else some (config g)) = some v ∧ (configGroup g).accepts v = true := by
      have old : g.Valid (config g) := same ▸ valid g
      split_ifs
      · obtain ⟨v, merged⟩ := Option.isSome_iff_exists.mp (merge_isSome accepted g (config g))
        exact ⟨v, merged, accepts_of_valid (valid_of_merge accepted checked old merged)⟩
      · exact ⟨config g, rfl, accepts_of_valid old⟩
    obtain ⟨sta, staMerged, staOk⟩ := ok .sta world.config rfl
    obtain ⟨ap, apMerged, apOk⟩ := ok .ap world.config rfl
    obtain ⟨sysCfg, sysMerged, sysOk⟩ := ok .system world.config rfl
    simp only [updateConfig, failed, staMerged, apMerged, sysMerged, Option.bind_eq_bind,
      Option.bind_some]
    split_ifs
    · exact ⟨_, rfl, .answered (by simp [ConfigResponse.status])⟩
    · refine saveGroups_onlyStoreFails (List.Nodup.filter _ (by decide)) fun g _ config same => ?_
      cases g with
      | ais => exact ok .ais config same
      | tcpClient => exact ok .tcpClient config same
      | ap => exact ⟨ap, rfl, apOk⟩
      | system => exact ⟨sysCfg, rfl, sysOk⟩
      | sta => exact ⟨sta, rfl, staOk⟩

/-- Only the store could have returned `-EINVAL`. -/
theorem OnlyStoreFails.ret_ne_einval {update : ConfigUpdate} (only : OnlyStoreFails saveRet update)
    {call : Group × ConfigAnswer} (member : call ∈ update.calls)
    (other : saveRet call.1 ≠ some .einval) : call.2.ret ≠ some .einval := by
  rcases only.1 call member with done | ⟨same, -⟩
  · simp [done]
  · rwa [same]

/-- With a valid configuration, whatever mask and payload the decoder reports: every copy of
the handler fits, no setter returns `-EINVAL` of its own, and only a failure of the settings
store leads to a 500. The same holds of every request. -/
theorem handler_checks_suffice (saveRet : Group → Option Errno) (world : ConfigWorld)
    (valid : AllValid world.config) :
    (∀ (fields : ℕ) (payload : ConfigPayload),
      ∃ update, updateConfig fields payload saveRet world = some update ∧
        OnlyStoreFails saveRet update ∧
        ∀ call ∈ update.calls, saveRet call.1 ≠ some .einval → call.2.ret ≠ some .einval) ∧
    ∀ (jsonObjParse : List UInt8 → JsonResult) (request : HttpRequest) (recvs : List WebRecv),
      ∃ update, handleConfigUpdate jsonObjParse request recvs saveRet world = some update ∧
        OnlyStoreFails saveRet update ∧
        ∀ call ∈ update.calls, saveRet call.1 ≠ some .einval → call.2.ret ≠ some .einval := by
  have decoded (fields : ℕ) (payload : ConfigPayload) :=
    updateConfig_onlyStoreFails fields payload saveRet valid
  refine ⟨fun fields payload => ?_, fun jsonObjParse request recvs => ?_⟩
  · obtain ⟨update, run, only⟩ := decoded fields payload
    exact ⟨update, run, only, fun _ => only.ret_ne_einval⟩
  · obtain ⟨update, handled, outcome⟩ :=
      handleConfigUpdate_total jsonObjParse request recvs saveRet world
    have only : OnlyStoreFails saveRet update := by
      cases outcome with
      | tooLarge answer => exact answer ▸ .answered (by simp [ConfigResponse.status])
      | badBody message answer => exact answer ▸ .answered (by simp [ConfigResponse.status])
      | decoded body present payload received parsed run =>
        obtain ⟨update', run', only⟩ := decoded (jsonMask present) payload
        obtain rfl := Option.some.inj (run.symm.trans run')
        exact only
    exact ⟨update, handled, only, fun _ => only.ret_ne_einval⟩

/-- The store fails to save the TCP client group, and that is what the setter returns. -/
theorem handler_checks_suffice_store_failure :
    OnlyStoreFails (fun g => if g = .tcpClient then some (.other 5) else none) tcpSaveFails := by
  obtain ⟨update, run, only, -⟩ := (handler_checks_suffice
    (fun g => if g = .tcpClient then some (.other 5) else none) sampleWorld
    (fun g => valid_of_accepts (by cases g <;> decide))).2 samplePostParse samplePost []
  obtain rfl : tcpSaveFails = update := Option.some.inj ((Option.some_get _).trans run)
  exact only

end Handler

end EspNmeaBridge
