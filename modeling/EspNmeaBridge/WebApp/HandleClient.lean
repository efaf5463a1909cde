/-
# Serving a client

One request per connection: read its head, look up method and path, answer. The answer of
the model is everything the request leaves behind: the responses, the configuration and
the telemetry, the calls to the configuration, the calls of an upload, and whether the
self check or a reboot was asked for.
-/

import EspNmeaBridge.WebApp.HttpHead
import EspNmeaBridge.WebApp.StatusJson

namespace EspNmeaBridge

open CString

/-! ## What a request finds -/

/-- The files linked into the program. -/
structure WebAssets where
  indexHtml : List UInt8
  appJs : List UInt8
  styleCss : List UInt8

/-- The build, and what the calls into other modules return. -/
structure WebBackend where
  otaUpload : OtaUploadKconfig
  settingsMaxNameLen : ℕ
  appVersion : String
  assets : WebAssets
  errnoCode : Errno → ℕ
  jsonObjParse : List UInt8 → JsonResult
  setReceiveTimeout : Option Errno
  telemetryInputs : BridgeTelemetryInputs
  nowMs : ℤ
  otaStatus : OtaUpdateStatus
  otaResults : OtaUploadResults
  saveRet : Group → Option Errno
  resetOrder : EnumerationOrder
  deleteRet : ℕ → Option Errno

/-- What a request can change. -/
structure WebState where
  config : ConfigWorld
  telemetry : BridgeTelemetryState

/-- A call that changes the configuration, with its argument and what it did. -/
inductive BridgeConfigCall where
  | set (g : Group) (config : g.Config) (answer : ConfigAnswer)
  | factoryReset (answer : ConfigAnswer)

/-- What became of a request: the responses written, the state behind it, the calls made, and
whether the self check and a reboot were asked for. -/
structure ClientAnswer where
  responses : List HttpResponse
  state : WebState
  configCalls : List BridgeConfigCall
  otaCalls : List OtaUploadCall
  selfCheck : Bool
  reboot : Bool

/-- The bytes sent, when every send succeeds. -/
def ClientAnswer.sent (answer : ClientAnswer) : List UInt8 :=
  answer.responses.flatMap HttpResponse.bytes

/-- A response and nothing else. -/
def respond (state : WebState) (response : HttpResponse) : ClientAnswer where
  responses := [response]
  state := state
  configCalls := []
  otaCalls := []
  selfCheck := false
  reboot := false

/-! ## The handlers -/

/-- `token_equals`. No NUL can stand in the token, so nothing ends the comparison early. -/
def tokenEquals (token : List UInt8) (expected : String) : Bool := token == ascii expected

/-- The assets are compiled in, under these paths. -/
def findAsset (assets : WebAssets) (path : List UInt8) : Option HttpResponse :=
  let table :=
    [("/", "text/html; charset=utf-8", assets.indexHtml),
      ("/index.html", "text/html; charset=utf-8", assets.indexHtml),
      ("/app.js", "application/javascript", assets.appJs),
      ("/style.css", "text/css; charset=utf-8", assets.styleCss)]
  (table.find? fun asset => tokenEquals path asset.1).map fun (_, contentType, content) =>
    ⟨"200 OK", contentType, content⟩

/-- The self check is made behind a status that was sent whole. -/
def handleStatus (backend : WebBackend) (state : WebState) : ClientAnswer :=
  match bridgeTelemetryBuildSnapshot state.telemetry backend.telemetryInputs backend.nowMs with
  | (telemetry, snapshot) =>
    match writeStatusJson backend.appVersion snapshot backend.otaStatus backend.otaUpload
        backend.errnoCode with
    | (response, selfCheck) => { respond { state with telemetry } response with selfCheck }

/-- The answer to a GET of the configuration, and to a POST that was taken. -/
def configResponse (state : WebState) : HttpResponse :=
  writeConfigJson "200 OK" state.config.config state.config.rebootRequired

def otaResponse : OtaUploadCall → Option HttpResponse
  | .respond response => some response
  | _ => none

/-- The upload handler writes its response among its other calls. -/
def handleOtaRequest (backend : WebBackend) (state : WebState) (request : HttpRequest)
    (recvs : List WebRecv) : ClientAnswer :=
  let calls := handleOtaUpload backend.otaUpload backend.otaResults request recvs
  { state, responses := calls.filterMap otaResponse, configCalls := [], otaCalls := calls,
    selfCheck := false, reboot := false }

/-- What a POST with this body hands to the setter of a group. -/
def submittedConfig (jsonObjParse : List UInt8 → JsonResult) (body : List UInt8)
    (config : EffectiveConfig) (g : Group) : Option g.Config :=
  match jsonObjParse body with
  | .failed => none
  | .decoded present payload => merge (jsonMask present) payload g (config g)

/-- The setter calls of a POST, with their arguments. -/
def setterCalls (submitted : (g : Group) → Option g.Config) (update : ConfigUpdate) :
    List BridgeConfigCall :=
  update.calls.filterMap fun (g, answer) => (submitted g).map fun config => .set g config answer

/-- There is no answer if a copy leaves its destination. -/
def handleConfigPost (backend : WebBackend) (state : WebState) (request : HttpRequest)
    (recvs : List WebRecv) : Option ClientAnswer :=
  (handleConfigUpdate backend.jsonObjParse request recvs backend.saveRet state.config).map
    fun update =>
      let body := (readRemainingBody request recvs).getD []
      { respond { state with config := update.world } update.response.http with
        configCalls := setterCalls
          (submittedConfig backend.jsonObjParse body state.config.config) update }

def resetFailedJson : String :=
  "\x7b\"ok\":false,\"errors\":\x7b\"body\":\"factory reset failed\"\x7d\x7d\n"

/-- The configuration shown behind a reset is still the one in RAM. -/
def handleConfigReset (backend : WebBackend) (state : WebState) : ClientAnswer :=
  match bridgeConfigFactoryReset backend.settingsMaxNameLen state.config backend.resetOrder
      backend.deleteRet with
  | (config, answer) =>
    let state := { state with config }
    let response :=
      if answer.ret ≠ none then
        textResponse "500 Internal Server Error" "application/json" resetFailedJson
      else configResponse state
    { respond state response with configCalls := [.factoryReset answer] }

/-- The response is sent before the reboot that it announces. -/
def handleReboot (state : WebState) : ClientAnswer :=
  { respond state (textResponse "200 OK" "application/json" "\x7b\"ok\":true\x7d\n") with
    reboot := true }

/-! ## The request -/

def notFound : HttpResponse := textResponse "404 Not Found" plainTextUtf8 "not found\n"

/-- What is no API path is looked up among the assets. -/
def handleGet (backend : WebBackend) (state : WebState) (path : List UInt8) : ClientAnswer :=
  if tokenEquals path "/api/status" then handleStatus backend state
  else if tokenEquals path "/api/config" then respond state (configResponse state)
  else respond state ((findAsset backend.assets path).getD notFound)

def handlePost (backend : WebBackend) (state : WebState) (request : ParsedRequest)
    (recvs : List WebRecv) : Option ClientAnswer :=
  if tokenEquals request.path "/api/ota/upload" then
    some (handleOtaRequest backend state request.toHttpRequest recvs)
  else if tokenEquals request.path "/api/config" then
    handleConfigPost backend state request.toHttpRequest recvs
  else if tokenEquals request.path "/api/config/reset" then some (handleConfigReset backend state)
  else if tokenEquals request.path "/api/reboot" then some (handleReboot state)
  else some (respond state notFound)

/-- Two methods are known. -/
def handleRequest (backend : WebBackend) (state : WebState) (request : ParsedRequest)
    (recvs : List WebRecv) : Option ClientAnswer :=
  if tokenEquals request.method "GET" then some (handleGet backend state request.path)
  else if tokenEquals request.method "POST" then handlePost backend state request recvs
  else some (respond state
    (textResponse "405 Method Not Allowed" plainTextUtf8 "method not allowed\n"))

/-- There is no answer if a copy of the configuration POST leaves its destination. -/
def handleClient (backend : WebBackend) (state : WebState) (recvs : List WebRecv) :
    Option ClientAnswer :=
  if backend.setReceiveTimeout ≠ none then
    some (respond state (textResponse "500 Internal Server Error" plainTextUtf8
      "configuring receive timeout failed\n"))
  else
    match readHttpRequest .empty recvs with
    | (.error _, _) =>
      some (respond state (textResponse "400 Bad Request" plainTextUtf8 "bad request\n"))
    | (.ok request, rest) => handleRequest backend state request rest

/-! ## The recorded setter calls -/

/-- The calls, made one after the other, answer as recorded and lead to the last state. -/
inductive Replays (saveRet : Group → Option Errno) :
    ConfigWorld → List BridgeConfigCall → ConfigWorld → Prop
  | nil (world : ConfigWorld) : Replays saveRet world [] world
  | set {world last : ConfigWorld} {g : Group} {config : g.Config}
      {calls : List BridgeConfigCall}
      (rest : Replays saveRet (bridgeConfigSet g world (some config) (saveRet g)).1 calls last) :
      Replays saveRet world
        (.set g config (bridgeConfigSet g world (some config) (saveRet g)).2 :: calls) last

section Replay

variable {world : ConfigWorld} {saveRet : Group → Option Errno} {update : ConfigUpdate}

theorem saveGroups_replays {next : (g : Group) → EffectiveConfig → Option g.Config}
    {submitted : (g : Group) → Option g.Config} {groups : List Group} (distinct : groups.Nodup)
    (looksAtOwn : ∀ g ∈ groups, ∀ config : EffectiveConfig,
      config g = world.config g → next g config = submitted g)
    (run : saveGroups next saveRet groups world = some update) :
    Replays saveRet world (setterCalls submitted update) update.world ∧
      (setterCalls submitted update).length = update.calls.length := by
  induction groups generalizing world update with
  | nil =>
    obtain rfl := Option.some.inj run
    exact ⟨.nil world, rfl⟩
  | cons g groups ih =>
    rw [List.nodup_cons] at distinct
    rw [List.forall_mem_cons] at looksAtOwn
    simp only [saveGroups, looksAtOwn.1 world.config rfl, Option.bind_eq_bind,
      Option.bind_eq_some_iff] at run
    obtain ⟨config, given, run⟩ := run
    split_ifs at run with failed
    · -- The call that failed is the last one.
      obtain rfl := Option.some.inj run
      simp only [setterCalls, List.filterMap_cons, given, Option.map_some, List.filterMap_nil]
      exact ⟨.set (.nil _), rfl⟩
    · simp only [Option.bind_eq_some_iff, Option.some.injEq] at run
      obtain ⟨rest, ran, rfl⟩ := run
      -- What the later setters are given is still as it was before this one.
      obtain ⟨replays, recorded⟩ := ih distinct.2 (fun h member config same =>
        looksAtOwn.2 h member config (same.trans (bridgeConfigSet_others world _ _ h
          (ne_of_mem_of_not_mem member distinct.1)))) ran
      simp only [setterCalls, List.filterMap_cons, given, Option.map_some] at replays recorded ⊢
      exact ⟨.set replays, congrArg (· + 1) recorded⟩

/-- The calls recorded for a configuration POST are the calls it makes. -/
theorem setterCalls_replays {jsonObjParse : List UInt8 → JsonResult} {request : HttpRequest}
    {recvs : List WebRecv}
    (run : handleConfigUpdate jsonObjParse request recvs saveRet world = some update) :
    let body := (readRemainingBody request recvs).getD []
    let calls := setterCalls (submittedConfig jsonObjParse body world.config) update
    Replays saveRet world calls update.world ∧ calls.length = update.calls.length := by
  intro body calls
  obtain ⟨update', run', outcome⟩ :=
    handleConfigUpdate_total jsonObjParse request recvs saveRet world
  obtain rfl := Option.some.inj (run.symm.trans run')
  -- Answered without a setter: nothing to replay.
  have refused {response : ConfigResponse} (answer : update = answered response world) :
      Replays saveRet world calls update.world ∧ calls.length = update.calls.length := by
    simp only [calls, answer]
    exact ⟨.nil world, rfl⟩
  cases outcome with
  | tooLarge answer => exact refused answer
  | badBody message answer => exact refused answer
  | decoded received present payload delivered parsed updated =>
    have submitted : submittedConfig jsonObjParse body world.config =
        fun g => merge (jsonMask present) payload g (world.config g) := by
      funext g
      simp only [submittedConfig, body, delivered, Option.getD_some, parsed]
    simp only [calls, submitted]
    cases passed : firstFieldError (jsonMask present) payload with
    | some response =>
      simp only [updateConfig, passed, Option.some.injEq] at updated
      rw [← updated]
      exact ⟨.nil world, rfl⟩
    | none =>
      obtain ⟨sta, ap, system, staMerged, apMerged, systemMerged, saves⟩ :=
        updateConfig_merges saveRet world passed
      rw [saves] at updated
      split_ifs at updated
      · rw [← Option.some.inj updated]
        exact ⟨.nil world, rfl⟩
      · exact saveGroups_replays (saveOrder_nodup present)
          (fun g _ => setterArgument_looksAtOwn staMerged apMerged systemMerged g) updated

end Replay

end EspNmeaBridge
