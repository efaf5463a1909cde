/-
# Every response can be told apart from a cut one

Headers and most bodies are printed into buffers of a fixed size, and what did not fit would
be sent beyond the buffer, or be missing. In every run of the server all of them fit. A client
therefore reads from the bytes of a connection the one response that was sent, it notices when
some of them are missing, and what is announced as JSON is JSON.
-/

import EspNmeaBridge.Lib.HeadedMessage
import EspNmeaBridge.WebApp.FaithfulStatus
import EspNmeaBridge.WebApp.OtaServer
import EspNmeaBridge.WebApp.SendAll

namespace EspNmeaBridge

open CString

/-! ## What a client reads -/

/-- The digits of a number, and nothing else. -/
def readDecimal (value : List UInt8) : Option ℕ :=
  if value ≠ [] ∧ ∀ ch ∈ value, isDigit ch then some (decimalFrom 0 value) else none

/-- The `Content-Length`. -/
def announcedLength (fields : List (HeadedMessage.Field UInt8)) : Option ℕ := do
  let field ← fields.find? fun field => field.name == ascii "Content-Length"
  readDecimal field.value

/-- A client takes a response for complete when as much has come as it announces. -/
def readResponse : List UInt8 → Option (HeadedMessage.Message UInt8) :=
  HeadedMessage.read (ascii "\r\n") (ascii ": ") announcedLength

/-- The response as a message. -/
def HttpResponse.message (response : HttpResponse) : HeadedMessage.Message UInt8 where
  start := ascii "HTTP/1.1 " ++ ascii response.status
  fields :=
    [⟨ascii "Content-Type", ascii response.contentType⟩,
      ⟨ascii "Content-Length", decimal response.body.length⟩,
      ⟨ascii "Connection", ascii "close"⟩, ⟨ascii "Cache-Control", ascii "no-store"⟩]
  body := response.body

/-- The written length is read back. -/
theorem readDecimal_decimal (n : ℕ) : readDecimal (decimal n) = some n := by
  have nonempty : decimal n ≠ [] := by simp [decimal]
  rw [readDecimal, if_pos ⟨nonempty, digit_of_mem_decimal⟩]
  exact congrArg some (foldl_decimal n)

/-! ## Framing -/

/-- The status lines and content types of the program. -/
structure HttpResponse.Usual (response : HttpResponse) : Prop where
  status : response.status ∈ ["200 OK", "400 Bad Request", "403 Forbidden", "404 Not Found",
    "405 Method Not Allowed", "411 Length Required", "413 Payload Too Large",
    "500 Internal Server Error"]
  contentType : response.contentType ∈ ["application/json", plainTextUtf8,
    "text/html; charset=utf-8", "application/javascript", "text/css; charset=utf-8"]
  length : response.body.length < 2 ^ 32

/-- The bytes of a response are that response and no part of another. -/
structure HttpResponse.Framed (response : HttpResponse) : Prop where
  /-- The header was not cut, and nothing behind its buffer is sent. -/
  header : response.header.length < webAppHeaderBufSize
  whole : readResponse response.bytes = some response.message
  cut : ∀ text, text <+: response.bytes → text ≠ response.bytes → readResponse text = none
  /-- Up to its terminator the body is what was measured and sent. -/
  text : response.contentType ∈ ["application/json", plainTextUtf8] → 0 ∉ response.body
  json : response.contentType = "application/json" →
    ∃ value, Json.parseUtf8 response.body = some value

section Framing

variable {response : HttpResponse}

/-- Header and body together are a written message with four fields. -/
theorem HttpResponse.bytes_eq_write (response : HttpResponse) :
    response.bytes = HeadedMessage.write (ascii "\r\n") (ascii ": ") response.message := by
  have contentType : ascii "\r\nContent-Type: " =
      ascii "\r\n" ++ (ascii "Content-Type" ++ ascii ": ") := by decide
  have contentLength : ascii "\r\nContent-Length: " =
      ascii "\r\n" ++ (ascii "Content-Length" ++ ascii ": ") := by decide
  have ending : ascii "\r\nConnection: close\r\nCache-Control: no-store\r\n\r\n" =
      ascii "\r\n" ++ (ascii "Connection" ++ (ascii ": " ++ (ascii "close" ++ (ascii "\r\n" ++
        (ascii "Cache-Control" ++ (ascii ": " ++ (ascii "no-store" ++
          (ascii "\r\n" ++ ascii "\r\n")))))))) := by decide
  simp only [HttpResponse.bytes, responseHeader, contentType, contentLength, ending,
    HeadedMessage.write, HeadedMessage.writeLines, HeadedMessage.Message.lines,
    HttpResponse.message, HeadedMessage.Field.line, List.map_cons, List.map_nil,
    List.flatMap_cons, List.flatMap_nil, List.append_assoc, List.nil_append]

/-- The longest status line and content type leave room in the buffer of the header. -/
theorem HttpResponse.Usual.header_fits (usual : response.Usual) :
    response.header.length < webAppHeaderBufSize := by
  have status : (ascii response.status).length ≤ 25 :=
    (by decide : ∀ status ∈ ["200 OK", "400 Bad Request", "403 Forbidden", "404 Not Found",
      "405 Method Not Allowed", "411 Length Required", "413 Payload Too Large",
      "500 Internal Server Error"], (ascii status).length ≤ 25) _ usual.status
  have contentType : (ascii response.contentType).length ≤ 25 :=
    (by decide : ∀ contentType ∈ ["application/json", plainTextUtf8, "text/html; charset=utf-8",
      "application/javascript", "text/css; charset=utf-8"],
      (ascii contentType).length ≤ 25) _ usual.contentType
  have length : (decimal response.body.length).length ≤ 10 :=
    decimal_length_le (by decide) (usual.length.trans (by decide))
  have start : (ascii "HTTP/1.1 ").length = 9 := by decide
  have typeName : (ascii "\r\nContent-Type: ").length = 16 := by decide
  have lengthName : (ascii "\r\nContent-Length: ").length = 18 := by decide
  have ending : (ascii "\r\nConnection: close\r\nCache-Control: no-store\r\n\r\n").length = 48 := by
    decide
  simp only [HttpResponse.header, responseHeader, List.length_append]
  rw [webAppHeaderBufSize]
  omega

/-- No status line and no field has a line end, no field name a colon. -/
theorem HttpResponse.Usual.clean (usual : response.Usual) :
    response.message.Clean (ascii "\r\n") (ascii ": ") := by
  have status : (0x0D : UInt8) ∉ ascii response.status :=
    (by decide : ∀ status ∈ ["200 OK", "400 Bad Request", "403 Forbidden", "404 Not Found",
      "405 Method Not Allowed", "411 Length Required", "413 Payload Too Large",
      "500 Internal Server Error"], (0x0D : UInt8) ∉ ascii status) _ usual.status
  have contentType : (0x0D : UInt8) ∉ ascii response.contentType :=
    (by decide : ∀ contentType ∈ ["application/json", plainTextUtf8, "text/html; charset=utf-8",
      "application/javascript", "text/css; charset=utf-8"],
      (0x0D : UInt8) ∉ ascii contentType) _ usual.contentType
  have length : (0x0D : UInt8) ∉ decimal response.body.length := fun inside =>
    absurd (digit_of_mem_decimal _ inside) (by decide)
  refine ⟨?_, HeadedMessage.ended_of_notMem ?_, ?_, ?_⟩
  · simp [HttpResponse.message, ascii]
  · rw [HttpResponse.message, List.mem_append, not_or]
    exact ⟨by decide, status⟩
  · intro field member
    refine HeadedMessage.ended_of_notMem ?_
    simp only [HttpResponse.message, List.mem_cons, List.not_mem_nil, or_false] at member
    rcases member with rfl | rfl | rfl | rfl <;>
      simp only [HeadedMessage.Field.line, List.mem_append, not_or]
    · exact ⟨by decide, contentType⟩
    · exact ⟨by decide, length⟩
    · decide
    · decide
  · intro field member
    refine HeadedMessage.ended_of_notMem ?_
    simp only [HttpResponse.message, List.mem_cons, List.not_mem_nil, or_false] at member
    rcases member with rfl | rfl | rfl | rfl
    exacts [(by decide : (0x3A : UInt8) ∉ ascii "Content-Type"),
      (by decide : (0x3A : UInt8) ∉ ascii "Content-Length"),
      (by decide : (0x3A : UInt8) ∉ ascii "Connection"),
      (by decide : (0x3A : UInt8) ∉ ascii "Cache-Control")]

/-- A usual response is framed once its text ends where it was measured and its JSON is JSON. -/
theorem HttpResponse.Usual.framed (usual : response.Usual)
    (text : response.contentType ∈ ["application/json", plainTextUtf8] → 0 ∉ response.body)
    (json : response.contentType = "application/json" →
      ∃ value, Json.parseUtf8 response.body = some value) : response.Framed := by
  have announced : announcedLength response.message.fields = some response.message.body.length := by
    have name : (ascii "Content-Type" == ascii "Content-Length") = false := by decide
    simp [announcedLength, HttpResponse.message, name, readDecimal_decimal]
  have whole : readResponse response.bytes = some response.message := by
    rw [response.bytes_eq_write]
    exact HeadedMessage.read_write (by decide) (by decide) usual.clean announced
  exact ⟨usual.header_fits, whole,
    fun _ front shorter => HeadedMessage.read_eq_none_of_prefix front shorter whole, text, json⟩

end Framing

/-! ## Texts -/

section Texts

variable {body field message : String} {status : String}

/-- The texts are written with `%s` and measured with `strlen`; so none may have a NUL in it.
Here for the pieces of an object, one lemma for each. -/
theorem zero_notMem_plain {text : List UInt8} (plain : ∀ b ∈ text, PlainByte b) : 0 ∉ text :=
  fun inside => absurd (plain 0 inside).1 (by decide)

section Pieces

variable {name : String} {bytes : List UInt8} {pieces : List (List UInt8)}

theorem zero_notMem_flag (clean : 0 ∉ ascii name) (value : Bool) :
    0 ∉ ascii name ++ jsonBool value := by
  have flag : 0 ∉ jsonBool value := by
    cases value <;> decide
  rw [List.mem_append, not_or]
  exact ⟨clean, flag⟩

theorem zero_notMem_number (clean : 0 ∉ ascii name) (n : ℕ) : 0 ∉ ascii name ++ decimal n := by
  rw [List.mem_append, not_or]
  exact ⟨clean, zero_notMem_plain (plain_decimal n)⟩

theorem zero_notMem_string (clean : 0 ∉ ascii name) (inside : 0 ∉ bytes) :
    0 ∉ ascii name ++ bytes ++ ascii "\"" := by
  simp only [List.mem_append, not_or]
  exact ⟨⟨clean, inside⟩, by decide⟩

/-- From the pieces to the object: commas and braces are no NUL. -/
theorem zero_notMem_intercalate (clean : ∀ piece ∈ pieces, 0 ∉ piece) :
    0 ∉ (ascii ",").intercalate pieces := by
  induction pieces with
  | nil => simp [List.intercalate]
  | cons piece pieces ih =>
    obtain ⟨first, others⟩ := List.forall_mem_cons.mp clean
    cases pieces with
    | nil => simpa [List.intercalate] using first
    | cons second pieces =>
      rw [List.intercalate_cons_cons]
      simp only [List.mem_append, not_or]
      exact ⟨⟨first, by decide⟩, ih others⟩

theorem zero_notMem_object {ending : String} (closed : 0 ∉ ascii ending)
    (clean : ∀ piece ∈ pieces, 0 ∉ piece) :
    0 ∉ ascii "\x7b" ++ (ascii ",").intercalate pieces ++ ascii ending := by
  simp only [List.mem_append, not_or]
  exact ⟨⟨by decide, zero_notMem_intercalate clean⟩, closed⟩

theorem zero_notMem_objectPiece (opened : 0 ∉ ascii ("\"" ++ name ++ "\":"))
    (clean : ∀ piece ∈ pieces, 0 ∉ piece) : 0 ∉ objectPiece name pieces := by
  rw [objectPiece, List.mem_append, not_or]
  exact ⟨opened, zero_notMem_object (by decide) clean⟩

end Pieces

theorem textResponse_framed {response : HttpResponse} (usual : response.Usual)
    (plainText : response.contentType = plainTextUtf8) (clean : 0 ∉ response.body) :
    response.Framed :=
  usual.framed (fun _ => clean) fun json =>
    absurd (plainText.symm.trans json) (by decide)

/-- A text that a parser accepts as JSON needs no more than to be without NUL. -/
theorem jsonResponse_framed {response : HttpResponse} (usual : response.Usual)
    (clean : 0 ∉ response.body) {value : Json.Value}
    (parsed : Json.parseUtf8 response.body = some value) : response.Framed :=
  usual.framed (fun _ => clean) fun _ => ⟨value, parsed⟩

/-- The line end behind a written object. -/
theorem parse_line {members : List Json.Member} {pieces : List (List UInt8)} {least : ℕ}
    (shows : List.Forall₂ (ShowsFrom least) members pieces) (nonempty : members ≠ [])
    (few : least ≤ members.length + 3) :
    Json.parseUtf8 (ascii "\x7b" ++ (ascii ",").intercalate pieces ++ ascii "\x7d\n") =
      some (.object (members.map fun m => (m.name, m.value))) := by
  have parsed := parse_pieces shows nonempty few ['\n'] (by simp [Json.isSpace])
  rwa [show ascii "\x7d\n" = ascii "\x7d" ++ ['\n'].flatMap String.utf8EncodeChar by decide,
    ← List.append_assoc]

def decodedError (field message : String) : Json.Value :=
  .object [("ok".toList, .bool false), ("errors".toList,
    .object [(field.toList, .string message.toList)])]

/-- An error names a field and says what is wrong with it. -/
theorem parse_errorJson (plainField : plainName field = true)
    (plainMessage : plainName message = true) :
    Json.parseUtf8 (errorJson field message) = some (decodedError field message) := by
  have errors : List.Forall₂ Shows [stringMember field message.toList]
      [ascii ("\"" ++ field ++ "\":\"") ++ ascii message ++ ascii "\""] :=
    .cons (stringMember_name plainField plainMessage) .nil
  have shows : List.Forall₂ (ShowsFrom 2)
      [boolMember "ok" false, objectMember "errors" [stringMember field message.toList]]
      [ascii "\"ok\":" ++ jsonBool false, objectPiece "errors"
        [ascii ("\"" ++ field ++ "\":\"") ++ ascii message ++ ascii "\""]] :=
    .cons ((boolMember_shows (by decide) false).showsFrom 2) <|
      .cons (objectMember_shows (by decide) errors (List.cons_ne_nil _ _)) .nil
  have parsed := parse_line shows (List.cons_ne_nil _ _) (by simp)
  have join (a b : String) : ascii a ++ ascii b = ascii (a ++ b) := (ascii_append a b).symm
  have text : errorJson field message = ascii "\x7b" ++ (ascii ",").intercalate
      [ascii "\"ok\":" ++ jsonBool false, objectPiece "errors"
        [ascii ("\"" ++ field ++ "\":\"") ++ ascii message ++ ascii "\""]] ++ ascii "\x7d\n" := by
    rw [errorJson, ascii_append, ascii_append, ascii_append, ascii_append, ascii_append _ "\":\"",
      ascii_append _ field, jsonBool]
    generalize ascii field = field
    generalize ascii message = message
    simp [List.intercalate, objectPiece, ascii_append_assoc, join]
  rw [text, parsed]
  rfl

/-- The errors of an upload. -/
theorem parse_otaErrorResponse (plainMessage : plainName message = true) :
    Json.parseUtf8 (otaErrorResponse status message).body =
      some (.object [("ok".toList, .bool false), ("error".toList, .string message.toList)]) := by
  have shows : List.Forall₂ Shows [boolMember "ok" false, stringMember "error" message.toList]
      [ascii "\"ok\":" ++ jsonBool false, ascii "\"error\":\"" ++ ascii message ++ ascii "\""] :=
    .cons (boolMember_shows (by decide) false) <|
      .cons (stringMember_name (by decide) plainMessage) .nil
  have parsed := parse_line (shows.imp fun _ _ h => h.showsFrom 0) (List.cons_ne_nil _ _)
    (Nat.zero_le _)
  have join (a b : String) : ascii a ++ ascii b = ascii (a ++ b) := (ascii_append a b).symm
  have text : (otaErrorResponse status message).body = ascii "\x7b" ++ (ascii ",").intercalate
      [ascii "\"ok\":" ++ jsonBool false, ascii "\"error\":\"" ++ ascii message ++ ascii "\""] ++
        ascii "\x7d\n" := by
    rw [otaErrorResponse, textResponse, ascii_append, ascii_append, jsonBool]
    generalize ascii message = message
    simp [List.intercalate, ascii_append_assoc, join]
  rw [text, parsed]
  rfl

/-- The fixed texts are parsed as any other object. -/
theorem parse_otaSuccessResponse : Json.parseUtf8 otaSuccessResponse.body =
    some (.object
      [("ok".toList, .bool true), ("state".toList, .string "pending_reboot".toList)]) := by
  have shows : List.Forall₂ Shows
      [boolMember "ok" true, stringMember "state" "pending_reboot".toList]
      [ascii "\"ok\":" ++ jsonBool true,
        ascii "\"state\":\"" ++ ascii "pending_reboot" ++ ascii "\""] :=
    .cons (boolMember_shows (by decide) true) <|
      .cons (stringMember_name (by decide) (by decide)) .nil
  have parsed := parse_line (shows.imp fun _ _ h => h.showsFrom 0) (List.cons_ne_nil _ _)
    (Nat.zero_le _)
  have text : otaSuccessResponse.body = ascii "\x7b" ++ (ascii ",").intercalate
      [ascii "\"ok\":" ++ jsonBool true,
        ascii "\"state\":\"" ++ ascii "pending_reboot" ++ ascii "\""] ++ ascii "\x7d\n" := by
    decide
  rw [text, parsed]
  rfl

theorem parse_reboot : Json.parseUtf8 (ascii "\x7b\"ok\":true\x7d\n") =
    some (.object [("ok".toList, .bool true)]) := by
  have shows : List.Forall₂ Shows [boolMember "ok" true] [ascii "\"ok\":" ++ jsonBool true] :=
    .cons (boolMember_shows (by decide) true) .nil
  have parsed := parse_line (shows.imp fun _ _ h => h.showsFrom 0) (List.cons_ne_nil _ _)
    (Nat.zero_le _)
  have text : ascii "\x7b\"ok\":true\x7d\n" = ascii "\x7b" ++ (ascii ",").intercalate
      [ascii "\"ok\":" ++ jsonBool true] ++ ascii "\x7d\n" := by
    decide
  rw [text, parsed]
  rfl

end Texts

/-! ## The configuration -/

section Config

variable {fields : ℕ} {payload : ConfigPayload} {f : ConfigField} {response : ConfigResponse}
  {config : EffectiveConfig} {world : ConfigWorld} {saveRet : Group → Option Errno}
  {update : ConfigUpdate}

/-- The names and messages of an error need no escape and fit; a configuration is within its
limits. -/
def ConfigResponse.Printable : ConfigResponse → Prop
  | .fieldError field message => plainName field = true ∧ plainName message = true ∧
      (errorJson field message).length < 128
  | .payloadTooLarge => True
  | .saveFailed _ => True
  | .configJson config _ => AllValid config

/-- Strings end where the first NUL stands, and the format has none. -/
theorem zero_notMem_configJson (config : EffectiveConfig) (rebootRequired : Bool) :
    0 ∉ configJson config rebootRequired := by
  rw [configJson_eq_pieces]
  refine zero_notMem_object (by decide) ?_
  simp only [configPieces, List.forall_mem_cons]
  exact ⟨zero_notMem_flag (by decide) _, zero_notMem_number (by decide) _,
    zero_notMem_flag (by decide) _,
    zero_notMem_string (by decide) (zero_notMem_jsonEscapeString _ _),
    zero_notMem_flag (by decide) _, zero_notMem_flag (by decide) _,
    zero_notMem_string (by decide) (zero_notMem_jsonEscapeString _ _),
    zero_notMem_flag (by decide) _,
    zero_notMem_string (by decide) (CharArray.zero_notMem_str _),
    zero_notMem_flag (by decide) _,
    zero_notMem_string (by decide) (CharArray.zero_notMem_str _),
    zero_notMem_number (by decide) _, zero_notMem_flag (by decide) _, by simp⟩

/-- What an error takes besides the two texts. -/
theorem length_errorJson (field message : String) :
    (errorJson field message).length = 30 + (ascii field).length + (ascii message).length := by
  have front : (ascii "\x7b\"ok\":false,\"errors\":\x7b\"").length = 23 := by decide
  have middle : (ascii "\":\"").length = 3 := by decide
  have back : (ascii "\"\x7d\x7d\n").length = 4 := by decide
  simp only [errorJson, ascii_append, List.length_append]
  omega

theorem zero_notMem_errorJson {field message : String} (plainField : plainName field = true)
    (plainMessage : plainName message = true) : 0 ∉ errorJson field message := by
  simp only [errorJson, ascii_append, List.mem_append, not_or]
  exact ⟨⟨⟨⟨by decide, zero_notMem_plain (plain_of_plainName plainField)⟩, by decide⟩,
    zero_notMem_plain (plain_of_plainName plainMessage)⟩, by decide⟩

/-- Errors of plain texts are framed, whoever reports them. -/
theorem errorResponse_framed (status field message : String)
    (usual : (HttpResponse.mk status "application/json" (errorJson field message)).Usual)
    (plainField : plainName field = true) (plainMessage : plainName message = true) :
    (HttpResponse.mk status "application/json" (errorJson field message)).Framed :=
  jsonResponse_framed usual (zero_notMem_errorJson plainField plainMessage)
    (parse_errorJson plainField plainMessage)

/-- A valid configuration is printed whole, so its text is the JSON that was written. -/
theorem configJson_framed (valid : AllValid config) (rebootRequired : Bool) :
    (writeConfigJson "200 OK" config rebootRequired).Framed := by
  have short := length_configJson_lt valid rebootRequired
  have whole : writeConfigJson "200 OK" config rebootRequired =
      ⟨"200 OK", "application/json", configJson config rebootRequired⟩ := by
    rw [writeConfigJson, snprintk, List.take_of_length_le (Nat.le_sub_one_of_lt short)]
  obtain ⟨texts, -, written⟩ := exists_texts valid
  rw [whole]
  exact jsonResponse_framed ⟨by simp, by simp, short.trans (by decide)⟩
    (zero_notMem_configJson config rebootRequired) (parse_configJson written rebootRequired)

/-- The answers to a POST, one for each way it can end. -/
theorem ConfigResponse.Printable.framed (printable : response.Printable) :
    response.http.Framed := by
  cases response with
  | fieldError field message =>
    obtain ⟨plainField, plainMessage, short⟩ := printable
    have whole : snprintk 128 (errorJson field message) = errorJson field message :=
      List.take_of_length_le (Nat.le_sub_one_of_lt short)
    simp only [ConfigResponse.http, whole]
    exact errorResponse_framed _ _ _
      ⟨by simp [ConfigResponse.status], by simp, short.trans (by decide)⟩
      plainField plainMessage
  | payloadTooLarge =>
    refine errorResponse_framed _ _ _ ⟨by simp [ConfigResponse.status], by simp, ?_⟩ (by decide)
      (by decide)
    rw [length_errorJson]
    decide
  | saveFailed g =>
    have known : plainName (saveFailedMessage g) = true ∧
        (ascii (saveFailedMessage g)).length ≤ 40 := by
      cases g <;> decide
    refine errorResponse_framed _ _ _ ⟨by simp [ConfigResponse.status], by simp, ?_⟩ (by decide)
      known.1
    rw [length_errorJson]
    have body : (ascii "body").length = 4 := by decide
    omega
  | configJson config rebootRequired => exact configJson_framed printable rebootRequired

/-- The name of a field leaves room for 79 characters. -/
theorem printable_key {message : String} (plain : plainName message = true)
    (short : (ascii message).length < 80) (f : ConfigField) :
    (ConfigResponse.fieldError f.key message).Printable := by
  have key : plainName f.key = true ∧ (ascii f.key).length ≤ 18 := by
    cases f <;> decide
  refine ⟨key.1, plain, ?_⟩
  rw [length_errorJson]
  omega

/-- Each check has its message; the name of the field is the only other text. -/
theorem fieldErrorIf_printable {wrong : Bool} {message : String}
    (plain : plainName message = true) (short : (ascii message).length < 80)
    (failed : fieldErrorIf wrong f message = some response) : response.Printable := by
  rw [(fieldErrorIf_eq_some failed).2]
  exact printable_key plain short f

theorem ssidError_printable {n : ℕ} {ssid : CharArray n}
    (failed : ssidError fields f ssid = some response) : response.Printable := by
  unfold ssidError at failed
  split_ifs at failed
  · obtain rfl := Option.some.inj failed
    exact printable_key (by decide) (by decide) f
  · exact fieldErrorIf_printable (by decide) (by decide) failed

/-- What a check says is printed whole. -/
theorem firstFieldError_printable (failed : firstFieldError fields payload = some response) :
    response.Printable := by
  obtain ⟨check, member, failed⟩ := List.exists_of_findSome?_eq_some failed
  simp only [List.mem_cons, List.not_mem_nil, or_false] at member
  rcases member with rfl | rfl | rfl | rfl | rfl | rfl | rfl | rfl | rfl | rfl
  all_goals first
    | exact ssidError_printable failed
    | exact fieldErrorIf_printable (by decide) (by decide) failed

/-- No setter takes an invalid group over, so what a GET prints later is within its limits. -/
theorem AllValid.set {g : Group} (valid : AllValid world.config) (next : Option g.Config)
    (saveRet : Option Errno) : AllValid (bridgeConfigSet g world next saveRet).1.config := by
  rcases bridgeConfigSet_cases world next saveRet with
    ⟨-, same, -⟩ | ⟨v, -, accepted, -, ⟨same, -⟩ | ⟨config, -⟩⟩
  · rwa [same]
  · rwa [same]
  · rw [config]
    exact valid.update (valid_of_accepts accepted)

/-- What a POST leaves behind is valid, and its response can be printed. -/
structure ConfigUpdate.Sound (update : ConfigUpdate) : Prop where
  valid : AllValid update.world.config
  printable : update.response.Printable

/-- One group after the other is set, so the configuration is valid wherever the saves end. -/
theorem saveGroups_sound {next : (g : Group) → EffectiveConfig → Option g.Config}
    {groups : List Group} (valid : AllValid world.config)
    (saved : saveGroups next saveRet groups world = some update) : update.Sound := by
  induction groups generalizing world update with
  | nil =>
    obtain rfl := Option.some.inj saved
    exact ⟨valid, valid⟩
  | cons g groups ih =>
    simp only [saveGroups, Option.bind_eq_bind, Option.bind_eq_some_iff] at saved
    obtain ⟨config, -, saved⟩ := saved
    split_ifs at saved
    · obtain rfl := Option.some.inj saved
      exact ⟨valid.set _ _, trivial⟩
    · obtain ⟨rest, later, same⟩ := Option.bind_eq_some_iff.mp saved
      obtain rfl := Option.some.inj same
      have sound := ih (valid.set _ _) later
      exact ⟨sound.valid, sound.printable⟩

/-- Behind the checks only the SSID of an enabled station and the saves can answer. -/
theorem updateConfig_sound (valid : AllValid world.config)
    (handled : updateConfig fields payload saveRet world = some update) : update.Sound := by
  unfold updateConfig at handled
  split at handled
  · rename_i failed
    obtain rfl := Option.some.inj handled
    exact ⟨valid, firstFieldError_printable failed⟩
  · simp only [Option.bind_eq_bind, Option.bind_eq_some_iff] at handled
    obtain ⟨sta, -, handled⟩ := handled
    split at handled
    · obtain rfl := Option.some.inj handled
      exact ⟨valid, printable_key (by decide) (by decide) .staSsid⟩
    · simp only [Option.bind_eq_some_iff] at handled
      obtain ⟨ap, -, system, -, saved⟩ := handled
      exact saveGroups_sound valid saved

/-- In front of the checks the errors are about the body. -/
theorem handleConfigUpdate_sound {jsonObjParse : List UInt8 → JsonResult} {request : HttpRequest}
    {recvs : List WebRecv} (valid : AllValid world.config)
    (handled : handleConfigUpdate jsonObjParse request recvs saveRet world = some update) :
    update.Sound := by
  have body {message : String} (plain : plainName message = true)
      (short : (errorJson "body" message).length < 128)
      (answer : some (answered (.fieldError "body" message) world) = some update) :
      update.Sound := by
    obtain rfl := Option.some.inj answer
    exact ⟨valid, by decide, plain, short⟩
  unfold handleConfigUpdate at handled
  split_ifs at handled
  · exact body (by decide) (by decide) handled
  · obtain rfl := Option.some.inj handled
    exact ⟨valid, trivial⟩
  · exact body (by decide) (by decide) handled
  · split at handled
    · exact body (by decide) (by decide) handled
    · split at handled
      · exact body (by decide) (by decide) handled
      · dsimp only at handled
        split_ifs at handled
        · exact body (by decide) (by decide) handled
        · exact updateConfig_sound valid handled

end Config

/-! ## Uploads -/

section Uploads

variable {cfg : OtaKconfig} {ota : OtaUpdateRuntime}

/-- The messages of the upload handler are short and plain. -/
theorem otaError_framed {status message : String}
    (usual : (otaErrorResponse status message).Usual) (plain : plainName message = true) :
    (otaErrorResponse status message).Framed := by
  refine jsonResponse_framed usual ?_ (parse_otaErrorResponse plain)
  simp only [otaErrorResponse, textResponse, ascii_append, List.mem_append, not_or]
  exact ⟨⟨by decide, zero_notMem_plain (plain_of_plainName plain)⟩, by decide⟩

/-- An upload is answered once. -/
theorem handleOtaUpload_framed (web : OtaUploadKconfig) (results : OtaUploadResults)
    (request : HttpRequest) (recvs : List WebRecv) :
    ∃ response, (handleOtaUpload web results request recvs).filterMap otaResponse = [response] ∧
      response.Framed := by
  have refused (status message : String) (usual : (otaErrorResponse status message).Usual)
      (plain : plainName message = true) {calls : List OtaUploadCall}
      (answer : calls.filterMap otaResponse = [otaErrorResponse status message]) :
      ∃ response, calls.filterMap otaResponse = [response] ∧ response.Framed :=
    ⟨_, answer, otaError_framed usual plain⟩
  unfold handleOtaUpload
  split_ifs
  · exact refused _ _ ⟨by decide, by decide, by decide⟩ (by decide) rfl
  · exact refused _ _ ⟨by decide, by decide, by decide⟩ (by decide) rfl
  · exact refused _ _ ⟨by decide, by decide, by decide⟩ (by decide) rfl
  · split
    · rename_i err _
      by_cases large : err = .efbig
      · refine refused "413 Payload Too Large" "invalid OTA upload size"
          ⟨by decide, by decide, by decide⟩ (by decide) ?_
        simp [otaResponse, List.filterMap_cons, large]
      · refine refused "400 Bad Request" "invalid OTA upload size"
          ⟨by decide, by decide, by decide⟩ (by decide) ?_
        simp [otaResponse, List.filterMap_cons, large]
    · dsimp only
      simp only [List.cons_append, List.filterMap_cons, otaResponse, List.filterMap_append,
        filterMap_otaResponse_writeCalls, List.nil_append]
      split_ifs
      · exact refused _ "upload ended early" ⟨by decide, by decide, by decide⟩
          (by decide) rfl
      · exact refused _ "writing OTA image failed" ⟨by decide, by decide, by decide⟩
          (by decide) rfl
      · split
        · exact refused _ "finishing OTA image failed" ⟨by decide, by decide, by decide⟩
            (by decide) rfl
        · exact ⟨otaSuccessResponse, rfl, jsonResponse_framed ⟨by decide, by decide, by decide⟩
            (by decide) parse_otaSuccessResponse⟩

/-- The last error is one of the texts of the program. -/
def OtaUpdateStatus.PlainError (status : OtaUpdateStatus) : Prop :=
  ∀ error ∈ status.lastError, plainName error.reason = true

/-- Starting the module leaves the last error alone. -/
theorem initOnce_plainError (plain : ota.status.PlainError) (init : OtaInit) :
    (initOnce init ota).status.PlainError := by
  intro error reported
  refine plain error ?_
  unfold initOnce at reported
  split_ifs at reported <;> exact reported

/-- A failure prints its reason and an error number, which are plain if the reason is. -/
theorem fail_plainError {reason : String} (plain : plainName reason = true) (err : Errno)
    (calls : List OtaCall) : (ota.fail reason err calls).1.status.PlainError := by
  intro error reported
  obtain rfl := Option.some.inj reported
  exact plain

/-- Callers of the update module give plain reasons. -/
def OtaInput.PlainReason (input : OtaInput) : Prop :=
  ∀ reason ∈ (match input.op with | .abort reason => reason | _ => none), plainName reason = true

/-- Every failure of the module has a reason of its own, or the one its caller gives. -/
theorem otaStep_plainError (plain : ota.status.PlainError) {input : OtaInput}
    (given : input.PlainReason) : (otaStep cfg ota input).1.status.PlainError := by
  obtain ⟨init, op⟩ := input
  have ready := initOnce_plainError plain init
  cases op with
  | begin contentLength slot area eraseRet initRet =>
    simp only [otaStep, OtaUpdateRuntime.otaUpdateBegin]
    split
    · exact fail_plainError (by decide) _ _
    · split
      · exact fail_plainError (by decide) _ _
      · split
        · exact fail_plainError (by decide) _ _
        · split
          · exact fail_plainError (by decide) _ _
          · simp [OtaUpdateStatus.PlainError]
  | write data writeRet =>
    have written (data : OtaData) :
        ((initOnce init ota).otaUpdateWrite data writeRet).1.status.PlainError := by
      unfold OtaUpdateRuntime.otaUpdateWrite
      split_ifs
      · exact ready
      · exact fail_plainError (by decide) _ _
      · cases writeRet
        · exact ready
        · exact fail_plainError (by decide) _ _
    cases data with
    | null len =>
      simp only [otaStep]
      split_ifs
      · exact plain
      · exact written _
    | bytes data => exact written _
  | finish flushRet upgradeRet =>
    simp only [otaStep, OtaUpdateRuntime.otaUpdateFinish]
    split_ifs
    · exact ready
    · exact fail_plainError (by decide) _ _
    · cases flushRet
      · cases upgradeRet
        · simp [OtaUpdateStatus.PlainError]
        · exact fail_plainError (by decide) _ _
      · exact fail_plainError (by decide) _ _
  | abort reason =>
    intro error reported
    obtain rfl := Option.some.inj reported
    cases reason with
    | none => exact (by decide : plainName "OTA upload aborted" = true)
    | some reason => exact given reason rfl
  | selfCheckWebReachable imgConfirmed writeConfirmedRet =>
    simp only [otaStep, OtaUpdateRuntime.otaUpdateSelfCheckWebReachable]
    split_ifs
    · exact ready
    · cases writeConfirmedRet
      · simp [OtaUpdateStatus.PlainError]
      · intro error reported
        obtain rfl := Option.some.inj reported
        exact (by decide : plainName "confirming OTA image failed" = true)
  | scheduleReboot => exact ready
  | getStatus => exact ready

theorem stateAfter_plainError {inputs : List OtaInput} (plain : ota.status.PlainError)
    (given : ∀ input ∈ inputs, input.PlainReason) :
    (Machine.stateAfter (otaStep cfg) ota inputs).status.PlainError :=
  Machine.trace_invariant (otaStep cfg)
    (P := fun _ (ota : OtaUpdateRuntime) => ota.status.PlainError)
    (fun _ _ _ given plain => otaStep_plainError plain given) plain inputs given

/-- The operations of a connection come with the reasons of the handler. -/
theorem inputs_plainReason {flash : OtaFlash} {calls : List OtaUploadCall} {written : ℕ}
    (given : ∀ reason, .abort reason ∈ calls → plainName reason = true) :
    ∀ input ∈ flash.inputs written calls, input.PlainReason := by
  fun_induction flash.inputs written calls with
  | case1 => simp
  | case5 written reason calls ih =>
    refine List.forall_mem_cons.mpr ⟨?_, ih fun reason later => given reason (by simp [later])⟩
    intro text same
    obtain rfl := Option.some.inj same
    exact given reason (by simp)
  | case2 _ _ _ _ ih | case3 _ _ _ _ ih | case4 _ _ _ ih | case6 _ _ ih =>
    refine List.forall_mem_cons.mpr ⟨?_, ih fun reason later => given reason (by simp [later])⟩
    intro text none
    cases none
  | case7 _ _ _ ih => exact ih fun reason later => given reason (by simp [later])

/-- The handler aborts with reasons of its own, and they are plain. -/
theorem handleOtaUpload_reasons (web : OtaUploadKconfig) (results : OtaUploadResults)
    (request : HttpRequest) (recvs : List WebRecv) :
    ∀ reason, .abort reason ∈ handleOtaUpload web results request recvs →
      plainName reason = true := by
  intro reason aborted
  have known : reason ∈ ["OTA upload connection closed early", "OTA image write failed",
      "OTA image finish failed"] := by
    unfold handleOtaUpload at aborted
    split_ifs at aborted
    · simp at aborted
    · simp at aborted
    · simp at aborted
    · split at aborted
      · simp at aborted
      · dsimp only at aborted
        split_ifs at aborted
        · simp at aborted
          simp [aborted]
        · simp at aborted
          simp [aborted]
        · split at aborted
          · simp at aborted
            simp [aborted]
          · simp at aborted
  exact (by decide : ∀ reason ∈ ["OTA upload connection closed early", "OTA image write failed",
    "OTA image finish failed"], plainName reason = true) reason known

end Uploads

/-! ## The status -/

section Status

variable {appVersion : String} {snapshot : BridgeTelemetrySnapshot} {ota : OtaUpdateStatus}

/-- No string in the status has a NUL, and the rest of it is names and numbers. -/
theorem zero_notMem_statusJson (plain : PlainStatus appVersion snapshot ota)
    (cfg : OtaUploadKconfig) (errnoCode : Errno → ℕ) :
    0 ∉ statusJson appVersion snapshot ota cfg errnoCode := by
  have state : 0 ∉ ascii (webOtaStateName cfg ota.state) := by
    unfold webOtaStateName
    cases ota.state <;> split_ifs <;> decide
  have connection : 0 ∉ ascii snapshot.connectionState.name := by
    cases snapshot.connectionState <;> decide
  have input : 0 ∉ ascii snapshot.inputState.name := by
    cases snapshot.inputState <;> decide
  have printed {size : ℕ} {name : String} {known : Bool} {bytes : List UInt8}
      (clean : 0 ∉ ascii name) (inside : 0 ∉ bytes) :
      0 ∉ ascii name ++ snprintk size (if known then bytes else ascii "null") := by
    rw [List.mem_append, not_or]
    refine ⟨clean, mt List.mem_of_mem_take ?_⟩
    cases known
    · exact (by decide : 0 ∉ ascii "null")
    · exact inside
  have ip : 0 ∉ ascii "\"" ++ snapshot.staIpv4.str ++ ascii "\"" :=
    zero_notMem_string (by decide) (CharArray.zero_notMem_str _)
  have rssi : 0 ∉ signedDecimal snapshot.staRssiDbm := zero_notMem_plain (plain_signedDecimal _)
  rw [statusJson_eq_pieces]
  refine zero_notMem_object (by decide) ?_
  simp only [statusPieces, List.forall_mem_cons]
  refine ⟨zero_notMem_string (by decide) (zero_notMem_plain plain.version),
    zero_notMem_string (by decide) connection, zero_notMem_string (by decide) input,
    zero_notMem_objectPiece (by decide) ?_, zero_notMem_objectPiece (by decide) ?_,
    zero_notMem_objectPiece (by decide) ?_, zero_notMem_objectPiece (by decide) ?_,
    zero_notMem_objectPiece (by decide) ?_, zero_notMem_objectPiece (by decide) ?_,
    zero_notMem_objectPiece (by decide) ?_, by simp⟩
  · simp only [List.forall_mem_cons]
    exact ⟨zero_notMem_flag (by decide) _, zero_notMem_flag (by decide) _, by simp⟩
  · simp only [wifiPieces, List.forall_mem_cons]
    exact ⟨zero_notMem_flag (by decide) _, printed (by decide) ip, printed (by decide) rssi,
      by simp⟩
  · simp only [uartPieces, List.forall_mem_cons]
    exact ⟨zero_notMem_number (by decide) _, zero_notMem_number (by decide) _,
      zero_notMem_number (by decide) _, zero_notMem_number (by decide) _, by simp⟩
  · simp only [bridgePieces, List.forall_mem_cons]
    exact ⟨zero_notMem_number (by decide) _, zero_notMem_number (by decide) _,
      zero_notMem_number (by decide) _, zero_notMem_number (by decide) _,
      zero_notMem_number (by decide) _, zero_notMem_number (by decide) _, by simp⟩
  · simp only [List.forall_mem_cons]
    exact ⟨zero_notMem_number (by decide) _, by simp⟩
  · simp only [List.forall_mem_cons]
    exact ⟨zero_notMem_number (by decide) _, zero_notMem_number (by decide) _, by simp⟩
  · simp only [otaPieces, List.forall_mem_cons]
    exact ⟨zero_notMem_flag (by decide) _, zero_notMem_string (by decide) state,
      zero_notMem_number (by decide) _, zero_notMem_number (by decide) _,
      zero_notMem_number (by decide) _, zero_notMem_flag (by decide) _,
      zero_notMem_number (by decide) _, zero_notMem_flag (by decide) _,
      zero_notMem_string (by decide) (zero_notMem_jsonEscapeString _ _), by simp⟩

/-- The status fits its buffer for any counters, so it is printed whole. -/
theorem status_framed {otaStatus : OtaUpdateStatus} (cfg : OtaUploadKconfig)
    (errnoCode : Errno → ℕ)
    (plain : PlainStatus appVersion snapshot (getOtaStatusForJson cfg otaStatus)) :
    (writeStatusJson appVersion snapshot otaStatus cfg errnoCode).1.Framed := by
  obtain ⟨written, short, texts, -, parsed⟩ := writeStatusJson_parses cfg errnoCode plain
  rw [written]
  exact jsonResponse_framed ⟨by simp, by simp, short.trans (by decide)⟩
    (zero_notMem_statusJson plain cfg errnoCode) parsed

/-- What the other modules report is plain, and assets fit the address space. -/
structure WebBackend.Plain (backend : WebBackend) : Prop where
  version : ∀ b ∈ ascii backend.appVersion, PlainByte b
  versionLength : (ascii backend.appVersion).length ≤ 512
  ip : ∀ b ∈ backend.telemetryInputs.staIpv4.str, PlainByte b
  rssi : backend.telemetryInputs.staRssiDbm.natAbs ≤ 2 ^ 31
  indexHtml : backend.assets.indexHtml.length < 2 ^ 32
  appJs : backend.assets.appJs.length < 2 ^ 32
  styleCss : backend.assets.styleCss.length < 2 ^ 32

/-- Writing a terminator cuts the content where it is written, or earlier. -/
theorem content_set_zero (bytes : List UInt8) (i : ℕ) :
    content (bytes.set i 0) = (content bytes).take i := by
  induction bytes generalizing i with
  | nil => simp
  | cons b bytes ih =>
    cases i with
    | zero => simp [content]
    | succ i =>
      by_cases zero : b = 0
      · simp [content, zero]
      · rw [List.set_cons_succ, content_cons zero, content_cons zero, ih, List.take_succ_cons]

/-- The address of a snapshot is a beginning of the one reported, and ends. -/
theorem snapshot_plain {backend : WebBackend} (plain : backend.Plain)
    (telemetry : BridgeTelemetryState) (lastError : backend.otaStatus.PlainError) :
    PlainStatus backend.appVersion
      (bridgeTelemetryBuildSnapshot telemetry backend.telemetryInputs backend.nowMs).2
      (getOtaStatusForJson backend.otaUpload backend.otaStatus) := by
  have address :
      (bridgeTelemetryBuildSnapshot telemetry backend.telemetryInputs backend.nowMs).2.staIpv4.str =
        backend.telemetryInputs.staIpv4.str.take 15 :=
    content_set_zero _ _
  refine ⟨plain.version, plain.versionLength, ?_, ?_, plain.rssi, ?_⟩
  · rw [address]
    exact fun b inside => plain.ip b (List.mem_of_mem_take inside)
  · rw [address]
    exact Nat.lt_succ_of_le (List.length_take_le _ _)
  · intro error reported
    unfold getOtaStatusForJson at reported
    split_ifs at reported
    · exact plain_of_plainName (lastError error reported)
    · cases reported

end Status

/-! ## Serving -/

section Serve

variable {backend : WebBackend} {state : WebState} {recvs : List WebRecv} {answer : ClientAnswer}

/-- One response that is framed, and a configuration within its limits. -/
structure ClientAnswer.Sound (answer : ClientAnswer) : Prop where
  valid : AllValid answer.state.config.config
  response : ∃ response, answer.responses = [response] ∧ response.Framed

/-- An answer that leaves the configuration alone is sound if its response is framed. -/
theorem respond_sound (valid : AllValid state.config.config) {response : HttpResponse}
    (framed : response.Framed) : (respond state response).Sound :=
  ⟨valid, response, rfl, framed⟩

/-- An asset is sent as it lies in flash, whatever its bytes are. -/
theorem asset_framed {contentType : String} {content : List UInt8}
    (asset : contentType ∈
      ["text/html; charset=utf-8", "application/javascript", "text/css; charset=utf-8"])
    (short : content.length < 2 ^ 32) :
    (HttpResponse.mk "200 OK" contentType content).Framed := by
  have others : ∀ contentType ∈
      ["text/html; charset=utf-8", "application/javascript", "text/css; charset=utf-8"],
      contentType ∉ ["application/json", plainTextUtf8] := by
    decide
  have known := List.mem_cons_of_mem "application/json" (List.mem_cons_of_mem plainTextUtf8 asset)
  refine HttpResponse.Usual.framed ⟨by simp, known, short⟩
    (fun text => absurd text (others contentType asset)) ?_
  rintro rfl
  exact absurd (List.mem_cons_self) (others "application/json" asset)

theorem findAsset_framed {path : List UInt8} {asset : HttpResponse} (plain : backend.Plain)
    (found : findAsset backend.assets path = some asset) : asset.Framed := by
  obtain ⟨entry, first, rfl⟩ := Option.map_eq_some_iff.mp found
  have member := List.mem_of_find?_eq_some first
  simp only [List.mem_cons, List.not_mem_nil, or_false] at member
  rcases member with rfl | rfl | rfl | rfl
  · exact asset_framed (by simp) plain.indexHtml
  · exact asset_framed (by simp) plain.indexHtml
  · exact asset_framed (by simp) plain.appJs
  · exact asset_framed (by simp) plain.styleCss

theorem notFound_framed : notFound.Framed :=
  textResponse_framed ⟨by decide, by decide, by decide⟩ rfl (by decide)

theorem handleStatus_sound (plain : backend.Plain) (lastError : backend.otaStatus.PlainError)
    (valid : AllValid state.config.config) : (handleStatus backend state).Sound := by
  have framed := status_framed backend.otaUpload backend.errnoCode
    (snapshot_plain plain state.telemetry lastError)
  unfold handleStatus
  generalize bridgeTelemetryBuildSnapshot state.telemetry backend.telemetryInputs
    backend.nowMs = built at framed ⊢
  obtain ⟨telemetry, snapshot⟩ := built
  dsimp only at framed ⊢
  generalize writeStatusJson backend.appVersion snapshot backend.otaStatus backend.otaUpload
    backend.errnoCode = written at framed ⊢
  obtain ⟨response, selfCheck⟩ := written
  exact ⟨valid, response, rfl, framed⟩

/-- A GET changes no configuration. -/
theorem handleGet_sound (plain : backend.Plain) (lastError : backend.otaStatus.PlainError)
    (valid : AllValid state.config.config) (path : List UInt8) :
    (handleGet backend state path).Sound := by
  unfold handleGet
  split_ifs
  · exact handleStatus_sound plain lastError valid
  · exact respond_sound valid (configJson_framed valid _)
  · refine respond_sound valid ?_
    cases found : findAsset backend.assets path with
    | none => exact notFound_framed
    | some asset => exact findAsset_framed plain found

theorem handleConfigReset_sound (valid : AllValid state.config.config) :
    (handleConfigReset backend state).Sound := by
  unfold handleConfigReset
  refine ⟨valid, _, rfl, ?_⟩
  split_ifs
  · exact errorResponse_framed _ "body" "factory reset failed"
      ⟨by decide, by decide, by decide⟩ (by decide) (by decide)
  · exact configJson_framed valid _

/-- A POST changes it through the setters and the reset only. -/
theorem handlePost_sound {request : ParsedRequest} (valid : AllValid state.config.config)
    (served : handlePost backend state request recvs = some answer) : answer.Sound := by
  unfold handlePost at served
  split_ifs at served
  · obtain rfl := Option.some.inj served
    exact ⟨valid, handleOtaUpload_framed _ _ _ _⟩
  · obtain ⟨update, handled, rfl⟩ := Option.map_eq_some_iff.mp served
    have sound := handleConfigUpdate_sound valid handled
    exact ⟨sound.valid, _, rfl, sound.printable.framed⟩
  · obtain rfl := Option.some.inj served
    exact handleConfigReset_sound valid
  · obtain rfl := Option.some.inj served
    exact ⟨valid, _, rfl, jsonResponse_framed ⟨by decide, by decide, by decide⟩ (by decide)
      parse_reboot⟩
  · obtain rfl := Option.some.inj served
    exact respond_sound valid notFound_framed

/-- Every way through the handler ends in one response. -/
theorem handleClient_sound (plain : backend.Plain) (lastError : backend.otaStatus.PlainError)
    (valid : AllValid state.config.config)
    (served : handleClient backend state recvs = some answer) : answer.Sound := by
  have refused {status body : String} (usual : (textResponse status plainTextUtf8 body).Usual)
      (clean : 0 ∉ ascii body)
      (served : some (respond state (textResponse status plainTextUtf8 body)) = some answer) :
      answer.Sound := by
    obtain rfl := Option.some.inj served
    exact respond_sound valid (textResponse_framed usual rfl clean)
  unfold handleClient at served
  split_ifs at served
  · exact refused ⟨by decide, by decide, by decide⟩ (by decide) served
  split at served
  · exact refused ⟨by decide, by decide, by decide⟩ (by decide) served
  · unfold handleRequest at served
    split_ifs at served
    · obtain rfl := Option.some.inj served
      exact handleGet_sound plain lastError valid _
    · exact handlePost_sound valid served
    · exact refused ⟨by decide, by decide, by decide⟩ (by decide) served

variable {cfg : OtaKconfig} {server : WebServer} {conn : Connection} {served : Served}

/-- The configuration is within its limits, and the last error is a text of the program. -/
structure WebServer.Sound (server : WebServer) : Prop where
  valid : AllValid server.web.config.config
  lastError : server.ota.status.PlainError

/-- The last error that a connection leaves is plain, too, so the next status is. -/
theorem webServe_sound (plain : conn.backend.Plain) (sound : server.Sound)
    (serving : webServe cfg server conn = some served) :
    served.server.Sound ∧ served.answer.Sound := by
  obtain ⟨answer, answered, rfl⟩ := Option.map_eq_some_iff.mp serving
  have reported : (conn.answeringBackend cfg server.ota).otaStatus.PlainError :=
    otaStep_plainError sound.lastError fun _ none => by cases none
  have answering : (conn.answeringBackend cfg server.ota).Plain :=
    ⟨plain.version, plain.versionLength, plain.ip, plain.rssi, plain.indexHtml, plain.appJs,
      plain.styleCss⟩
  have answerSound := handleClient_sound answering reported sound.valid answered
  have reasons : ∀ reason, .abort reason ∈ answer.otaCalls → plainName reason = true := by
    rcases handleClient_ota answered with none | ⟨-, request, rest, -, -, -, calls⟩
    · simp [none]
    · rw [calls]
      exact handleOtaUpload_reasons _ _ _ _
  refine ⟨⟨answerSound.valid, stateAfter_plainError sound.lastError ?_⟩, answerSound⟩
  intro input member
  rw [Connection.otaInputs, List.mem_append, List.mem_append] at member
  rcases member with (asked | handled) | checked
  · split_ifs at asked
    · rw [List.mem_singleton.mp asked]
      exact fun _ none => by cases none
    · cases asked
  · exact inputs_plainReason reasons input handled
  · split_ifs at checked
    · rw [List.mem_singleton.mp checked]
      exact fun _ none => by cases none
    · cases checked

end Serve

/-- After any connections, the next one gets exactly one response. Its header fits the buffer it
is printed in, a client reads the response from its bytes and from no beginning of them, its text
ends where it was measured, and if it is announced as JSON a JSON parser accepts it. -/
theorem every_response_is_framed (cfg : OtaKconfig) (web : WebState)
    (valid : AllValid web.config.config) (conns : List Connection) (server : WebServer)
    (plain : ∀ conn ∈ conns, conn.backend.Plain)
    (ran : Transitions.run (webServerStep cfg) ⟨web, otaRuntimeZero⟩ conns = some server)
    (conn : Connection) (next : conn.backend.Plain) :
    ∃ served response, webServe cfg server conn = some served ∧
      served.answer.responses = [response] ∧ response.Framed := by
  have sound : server.Sound :=
    Transitions.invariant_of_forall (P := WebServer.Sound)
      (fun server conn after sound plain step => by
        obtain ⟨served, serving, rfl⟩ := Option.map_eq_some_iff.mp step
        exact (webServe_sound plain sound serving).1)
      ⟨valid, by simp [OtaUpdateStatus.PlainError, otaRuntimeZero]⟩ plain ran
  obtain ⟨served, serving⟩ := Option.isSome_iff_exists.mp (webServe_isSome cfg server conn)
  obtain ⟨response, only, framed⟩ := (webServe_sound next sound serving).2.response
  exact ⟨served, response, serving, only, framed⟩

/-- What the browser asks for after the upload. -/
def sampleStatusRequest : Connection :=
  ⟨[.received (ascii "GET /api/status HTTP/1.1\r\n\r\n")], sampleBackend, sampleFlash, true⟩

theorem every_response_is_framed_afterUpload :
    ∃ server, Transitions.run (webServerStep ⟨0, by decide⟩) ⟨sampleState, otaRuntimeZero⟩
        [sampleUpload] = some server ∧
      ∃ served response, webServe ⟨0, by decide⟩ server sampleStatusRequest = some served ∧
        served.answer.responses = [response] ∧ response.Framed := by
  obtain ⟨server, ran⟩ := Option.isSome_iff_exists.mp
    (show (Transitions.run (webServerStep ⟨0, by decide⟩) ⟨sampleState, otaRuntimeZero⟩
      [sampleUpload]).isSome = true by decide +kernel)
  have noAddress : sampleBackend.telemetryInputs.staIpv4.str = [] := by decide
  have plain : sampleBackend.Plain :=
    ⟨plain_of_plainName (by decide), by decide, by simp [noAddress], by decide, by decide,
      by decide, by decide⟩
  refine ⟨server, ran, every_response_is_framed ⟨0, by decide⟩ sampleState
    (AllValid.boot (fun g => valid_of_accepts (by cases g <;> decide)) storageOrder ∅)
    [sampleUpload] server ?_ ran sampleStatusRequest plain⟩
  intro conn member
  rw [List.mem_singleton.mp member]
  exact plain

end EspNmeaBridge
