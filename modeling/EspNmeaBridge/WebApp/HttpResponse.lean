/-
# HTTP responses

Every response is a header the program prints and a text behind it. The header
fits its buffer for the status lines and content types the program uses.
-/

import EspNmeaBridge.BridgeConfig.Validators

namespace EspNmeaBridge

open CString

/-- What is handed to `write_text_response` or `write_asset_response`. -/
structure HttpResponse where
  status : String
  contentType : String
  body : List UInt8
  deriving DecidableEq, Repr

/-- What `write_response_header` prints. -/
def responseHeader (status contentType : String) (contentLen : ℕ) : List UInt8 :=
  ascii "HTTP/1.1 " ++ ascii status ++ ascii "\r\nContent-Type: " ++ ascii contentType ++
    ascii "\r\nContent-Length: " ++ decimal contentLen ++
    ascii "\r\nConnection: close\r\nCache-Control: no-store\r\n\r\n"

/-- The bytes sent, when every send succeeds. -/
def HttpResponse.bytes (response : HttpResponse) : List UInt8 :=
  responseHeader response.status response.contentType response.body.length ++ response.body

def textResponse (status contentType : String) (body : String) : HttpResponse :=
  ⟨status, contentType, ascii body⟩

def plainTextUtf8 : String := "text/plain; charset=utf-8"

end EspNmeaBridge
