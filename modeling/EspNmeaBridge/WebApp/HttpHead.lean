/-
# The head of a request

The handler collects what it receives in one buffer until the blank line that ends the
head is there. It puts a NUL behind the last header line and reads the head as a C string:
a line ends where `strstr` finds CRLF, and nothing behind an earlier NUL is seen.

The request line is cut at its first two spaces. Of the header lines only the length of
the body is read; the last one counts, and one that is no number ends the request.
-/

import EspNmeaBridge.Lib.Pattern
import EspNmeaBridge.WebApp.WebRecv

namespace EspNmeaBridge

open CString Pattern

/-! ## Header lines -/

/-- The end of a line, and of the head. -/
def crlf : List UInt8 := [0x0d, 0x0a]
def crlfCrlf : List UInt8 := [0x0d, 0x0a, 0x0d, 0x0a]

/-- `SIZE_MAX`, with 32 bits. -/
def sizeMax : ℕ := 2 ^ 32 - 1

def toLower (ch : UInt8) : UInt8 := if 0x41 ≤ ch ∧ ch ≤ 0x5a then ch - 0x41 + 0x61 else ch

/-- Names of fields are compared without case. -/
def headerNameEquals (name expected : List UInt8) : Bool :=
  name.length == expected.length && name.map toLower == expected.map toLower

/-- Blanks around a value are spaces and tabs. -/
def isBlank (ch : UInt8) : Bool := ch == 0x20 || ch == 0x09

/-- The digits in front: their value, whether there are any, and what follows them. -/
def parseDigits (parsed : ℕ) (sawDigit : Bool) : List UInt8 → Except Errno (ℕ × Bool × List UInt8)
  | [] => .ok (parsed, sawDigit, [])
  | ch :: value =>
    if 0x30 ≤ ch ∧ ch ≤ 0x39 then
      let digit := (ch - 0x30).toNat
      -- One digit more would exceed `SIZE_MAX`.
      if (sizeMax - digit) / 10 < parsed then .error .eoverflow
      else parseDigits (parsed * 10 + digit) true value
    else .ok (parsed, sawDigit, ch :: value)

/-- A number alone, between blanks. -/
def parseContentLength (value : List UInt8) : Except Errno ℕ :=
  match parseDigits 0 false (value.dropWhile isBlank) with
  | .error err => .error err
  | .ok (parsed, sawDigit, rest) =>
    if !sawDigit || rest.dropWhile isBlank != [] then .error .einval else .ok parsed

/-- The loop over the header lines: `has_content_length` and `content_length`. -/
def parseHeaderLines (hasContentLength : Bool) (contentLength : ℕ) (text : List UInt8) :
    Except Errno (Bool × ℕ) :=
  match _found : cut crlf text with
  | none => .ok (hasContentLength, contentLength)
  | some (line, rest) =>
    -- The blank line.
    if line = [] then .ok (hasContentLength, contentLength)
    else
      match cut (ascii ":") line with
      -- A line without a colon is passed over.
      | none => parseHeaderLines hasContentLength contentLength rest
      | some (name, value) =>
        if headerNameEquals name (ascii "Content-Length") then
          match parseContentLength value with
          | .error err => .error err
          | .ok parsed => parseHeaderLines true parsed rest
        else parseHeaderLines hasContentLength contentLength rest
termination_by text.length
decreasing_by
  all_goals
    have longer := congrArg List.length (cut_eq_some _found)
    simp only [List.length_append, crlf, List.length_cons] at longer
    omega

/-! ## The head -/

/-- What the head says about the request. -/
structure HttpHead where
  method : List UInt8
  path : List UInt8
  hasContentLength : Bool
  contentLength : ℕ
  deriving DecidableEq, Repr

/-- Where the blank line stands. -/
def findHeaderEnd (request : List UInt8) : Option ℕ := find crlfCrlf request

/-- The head as a C string, once a NUL overwrote the last CRLF. -/
def headText (head : List UInt8) : List UInt8 := content (head.take (head.length - 2))

/-- `parse_http_request` up to the body, which it only points to. -/
def parseHttpHead (head : List UInt8) : Except Errno HttpHead :=
  match cut crlf (headText head) with
  | none => .error .einval
  | some (requestLine, lines) =>
    match cut (ascii " ") requestLine with
    | none => .error .einval
    | some (method, target) =>
      match cut (ascii " ") target with
      | none => .error .einval
      | some (path, _) =>
        match parseHeaderLines false 0 lines with
        | .error err => .error err
        | .ok (hasContentLength, contentLength) =>
          .ok ⟨method, path, hasContentLength, contentLength⟩

/-! ## The request buffer -/

/-- The filled part of `request`. -/
structure RequestBuffer where
  received : List UInt8
  fits : received.length ≤ webAppRxBufSize

namespace RequestBuffer

def empty : RequestBuffer := ⟨[], Nat.zero_le _⟩

/-- How much a call may receive. -/
def room (buffer : RequestBuffer) : ℕ := webAppRxBufSize - buffer.received.length

def push (buffer : RequestBuffer) (bytes : List UInt8) (fits : bytes.length ≤ buffer.room) :
    RequestBuffer where
  received := buffer.received ++ bytes
  fits := by
    have full := buffer.fits
    rw [room] at fits
    rw [List.length_append]
    omega

end RequestBuffer

/-- `struct http_request`. -/
structure ParsedRequest extends HttpRequest where
  method : List UInt8
  path : List UInt8

/-- The request whose body follows the head in the buffer. -/
def HttpHead.request (head : HttpHead) (bodyOffset : ℕ) (body : List UInt8)
    (fits : bodyOffset + body.length ≤ webAppRxBufSize) : ParsedRequest where
  hasContentLength := head.hasContentLength
  contentLength := head.contentLength
  bodyOffset := bodyOffset
  body := body
  fits := fits
  method := head.method
  path := head.path

/-- What follows the head in the buffer is the front of the body. -/
def parseHttpRequest (buffer : RequestBuffer) (headerLen : ℕ)
    (inside : headerLen ≤ buffer.received.length) : Except Errno ParsedRequest :=
  (parseHttpHead (buffer.received.take headerLen)).map fun head =>
    head.request headerLen (buffer.received.drop headerLen) (by
      have full := buffer.fits
      rw [List.length_drop]
      omega)

/-- The receive loop, and what is left to receive behind it. -/
def readHttpRequest (buffer : RequestBuffer) (recvs : List WebRecv) :
    Except Errno ParsedRequest × List WebRecv :=
  match called : webRecv buffer.room recvs with
  | (.error errno, rest) =>
    if errno = .eintr then readHttpRequest buffer rest else (.error .enotconn, rest)
  | (.received bytes, rest) =>
    if bytes = [] then (.error .enotconn, rest)
    else
      let filled := buffer.push bytes (webRecv_received called).2
      match found : findHeaderEnd filled.received with
      | some headerEnd => (parseHttpRequest filled (headerEnd + 4) (find_add_length_le found), rest)
      | none =>
        -- The buffer is full and the head is not complete.
        if filled.received.length = webAppRxBufSize then (.error .eoverflow, rest)
        else readHttpRequest filled rest
termination_by pendingCalls recvs
decreasing_by
  · subst errno
    exact pendingCalls_lt_of_interrupted called
  · exact pendingCalls_lt_of_received called ‹_›

end EspNmeaBridge
