/-
# What a rejected POST changes

A request that is turned away before the first save changes nothing. A save that fails
comes too late for that: the groups saved before it are neither rolled back nor kept from
their listeners. What can still be said is where the request stopped.
-/

import EspNmeaBridge.BridgeConfig.AlwaysValid
import EspNmeaBridge.WebApp.ConfigUpdate

namespace EspNmeaBridge

open CString

/-! ## Where the request stopped -/

/-- The request ended at the setter of `failed`, and the setters of `saved` had returned 0. -/
structure StoppedAt (saved : List Group) (failed : Group) (world : ConfigWorld)
    (update : ConfigUpdate) : Prop where
  response : update.response = .saveFailed failed
  called : update.calls.map Prod.fst = saved ++ [failed]
  inOrder : (saved ++ [failed]).Sublist saveOrder
  returned : ∀ call ∈ update.calls, call.2.ret = none ↔ call.1 ∈ saved
  unchanged : ∀ g, g ∉ saved → GroupUnchanged g world update.world
  quiet : ∀ call ∈ update.calls, call.1 ∉ saved → call.2.notified = false

/-- A decoded payload that is not answered with the configuration. -/
theorem updateConfig_rejected {present : ConfigField → Bool} {payload : ConfigPayload}
    {saveRet : Group → Option Errno} {world : ConfigWorld} {update : ConfigUpdate}
    (run : updateConfig (jsonMask present) payload saveRet world = some update)
    (rejected : update.response.status ≠ "200 OK") :
    (update.response.status = "400 Bad Request" ∧ update.world = world ∧ update.calls = []) ∨
      ∃ saved failed, StoppedAt saved failed world update := by
  cases updateConfig_outcome run with
  | refused f message answer =>
    rw [answer]
    exact Or.inl ⟨rfl, rfl, rfl⟩
  | stored saved accepted ssidGiven only ends =>
    rcases ends with ⟨-, -, response⟩ | ⟨failed, rest, groups, called, response⟩
    · exact absurd (by rw [response]; rfl) rejected
    · refine Or.inr ⟨saved, failed, ⟨response, called, ?_, only.returned, ?_, ?_⟩⟩
      · -- the groups up to the failing one are the first of those submitted
        have first : (saved ++ [failed]).Sublist (saved ++ failed :: rest) :=
          (List.Sublist.refl saved).append (List.singleton_sublist.mpr List.mem_cons_self)
        rw [← groups] at first
        exact first.trans List.filter_sublist
      · intro g unsaved
        exact only.unchanged unsaved
      · intro call member unsaved
        cases notified : call.2.notified with
        | false => rfl
        | true => exact absurd (only.quiet call member notified) unsaved

/-! ## Every request -/

/-- A request answered 400 or 413 changes nothing and calls no setter. One answered 500
stopped at the first setter that failed: its group and all those not saved before it are
unchanged, and nobody was notified of them. -/
theorem rejected_post_leaves_unsaved_groups (jsonObjParse : List UInt8 → JsonResult)
    (request : HttpRequest) (recvs : List WebRecv) (saveRet : Group → Option Errno)
    (world : ConfigWorld) :
    ∃ update, handleConfigUpdate jsonObjParse request recvs saveRet world = some update ∧
      (update.response.status ≠ "200 OK" →
        ((update.response.status = "400 Bad Request" ∨
            update.response.status = "413 Payload Too Large") ∧
          update.world = world ∧ update.calls = []) ∨
        (update.response.status = "500 Internal Server Error" ∧
          ∃ saved failed, StoppedAt saved failed world update)) := by
  obtain ⟨update, run, outcome⟩ :=
    handleConfigUpdate_total jsonObjParse request recvs saveRet world
  refine ⟨update, run, ?_⟩
  intro rejected
  cases outcome with
  | tooLarge answer =>
    rw [answer]
    exact Or.inl ⟨Or.inr rfl, rfl, rfl⟩
  | badBody message answer =>
    rw [answer]
    exact Or.inl ⟨Or.inl rfl, rfl, rfl⟩
  | decoded body present payload received parsed updated =>
    -- A field error precedes every setter; otherwise a save has failed.
    rcases updateConfig_rejected updated rejected with
      ⟨status, same, uncalled⟩ | ⟨saved, failed, stopped⟩
    · exact Or.inl ⟨Or.inl status, same, uncalled⟩
    · refine Or.inr ⟨?_, saved, failed, stopped⟩
      rw [stopped.response]
      rfl

/-! ## A save that fails too late -/

/-- A filter and a client setting in one body, which arrived with its header. -/
def samplePost : HttpRequest where
  hasContentLength := true
  contentLength := 54
  bodyOffset := 80
  body := ascii "\x7b\"ais_filter_enabled\":true,\"tcp_client_enabled\":false\x7d"
  fits := by decide

/-- The decoder on the body of `samplePost`; what it does not write is zero. -/
def samplePostParse (body : List UInt8) : JsonResult :=
  if body = samplePost.body then
    .decoded (fun f => f = .aisFilterEnabled || f = .tcpClientEnabled)
      { aisFilterEnabled := true
        aisOwnMmsi := 0
        staEnabled := false
        staSsid := .zeroed _
        staPsk := .zeroed _
        staPskClear := false
        staRotateMac := false
        tcpClientEnabled := false
        tcpClientHost := .zeroed _
        tcpClientPort := 0
        apSsid := .zeroed _
        apPsk := .zeroed _
        apPskClear := false
        hostname := .zeroed _ }
  else .failed

/-- A booted device with a listener and nothing stored. -/
def sampleWorld : ConfigWorld := { unloaded sampleBuild.defaults ∅ with listener := true }

/-- `samplePost`, while the store cannot save the TCP client group. -/
def tcpSaveFails : ConfigUpdate :=
  (handleConfigUpdate samplePostParse samplePost []
    (fun g => if g = .tcpClient then some (.other 5) else none) sampleWorld).get (by decide)

/-- Behind the save of the AIS group the next one fails: the response is an error, and the
filter is on, stored and announced. -/
theorem rejected_post_changed_ais :
    ¬ ∀ (jsonObjParse : List UInt8 → JsonResult) (request : HttpRequest) (recvs : List WebRecv)
        (saveRet : Group → Option Errno) (world : ConfigWorld) (update : ConfigUpdate),
      handleConfigUpdate jsonObjParse request recvs saveRet world = some update →
      update.response.status ≠ "200 OK" →
      (∀ g, GroupUnchanged g world update.world) ∧
        ∀ call ∈ update.calls, call.2.notified = false := by
  intro changesNothing
  have claimed := changesNothing samplePostParse samplePost [] _ sampleWorld tcpSaveFails
    (Option.some_get _).symm (by decide)
  exact absurd (claimed.1 .ais).1 (by decide)

end EspNmeaBridge
