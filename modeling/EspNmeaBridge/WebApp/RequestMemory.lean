/-
# The request buffer as memory

`HttpHead` and `ConfigUpdate` tell what is read from a request. Here the same functions run
over the array `request` itself: they keep offsets into it, subtract them as `size_t`, write
NULs into the head and hand ranges of it to the socket. Each access is recorded. Both
versions give the same results, so what is shown of the offsets is shown of the handlers.
-/

import EspNmeaBridge.Lib.ByteMemory
import EspNmeaBridge.WebApp.SplitIndependence

namespace EspNmeaBridge

open CString Pattern ByteMemory

/-- A difference of two `size_t`, which wraps. -/
def sizeSub (a b : ℕ) : ℕ := (a + (sizeMax + 1 - b % (sizeMax + 1))) % (sizeMax + 1)

/-- What the handlers do to `request`. -/
inductive RequestAccess where
  /-- `web_recv(fd, request + offset, size, 0)`, with what it returned. -/
  | recv (offset size : ℕ) (result : WebRecv)
  /-- `request[offset] = '\0'`. -/
  | terminate (offset : ℕ)
  deriving DecidableEq, Repr

/-- A result, the array after it, and the accesses on the way. -/
structure Accessed (α : Type) where
  value : α
  memory : Memory
  accesses : List RequestAccess

/-- The accesses made before. -/
def Accessed.after {α : Type} (earlier : List RequestAccess) (run : Accessed α) : Accessed α :=
  { run with accesses := earlier ++ run.accesses }

/-- `struct http_request`, with offsets for its pointers. -/
structure HttpRequestAt where
  method : ℕ
  methodLen : ℕ
  path : ℕ
  pathLen : ℕ
  contentLength : ℕ
  hasContentLength : Bool
  body : ℕ
  bodyLen : ℕ
  deriving DecidableEq, Repr

/-! ## The head -/

/-- The loop over the header lines, from the offset `line` on. -/
def headerLinesAt (memory : Memory) (line : ℕ) (hasContentLength : Bool) (contentLength : ℕ) :
    Accessed (Except Errno (Bool × ℕ)) :=
  if memory.getD line 0 = 0 then ⟨.ok (hasContentLength, contentLength), memory, []⟩
  else
    match _found : strstr memory line crlf with
    | none => ⟨.ok (hasContentLength, contentLength), memory, []⟩
    | some lineEnd =>
      if lineEnd = line then ⟨.ok (hasContentLength, contentLength), memory, []⟩
      else
        let ended := store memory lineEnd [0]
        match strchr ended line 0x3A with
        | none =>
          (headerLinesAt ended (lineEnd + 2) hasContentLength contentLength).after
            [.terminate lineEnd]
        | some colon =>
          if headerNameEquals (load ended line (colon - line)) (ascii "Content-Length") then
            match parseContentLength (cString ended (colon + 1)) with
            | .error err => ⟨.error err, ended, [.terminate lineEnd]⟩
            | .ok parsed => (headerLinesAt ended (lineEnd + 2) true parsed).after [.terminate lineEnd]
          else
            (headerLinesAt ended (lineEnd + 2) hasContentLength contentLength).after
              [.terminate lineEnd]
termination_by memory.length - line
decreasing_by
  all_goals
    obtain ⟨i, rfl, -, inside⟩ := strstr_eq_some _found
    have bound := cString_length_le memory line
    simp only [crlf, List.length_cons, List.length_nil] at inside
    have room : line + i + [(0 : UInt8)].length ≤ memory.length := by
      rw [List.length_singleton]
      omega
    rw [length_store room]
    omega

def parseHttpRequestAt (memory : Memory) (received headerLen : ℕ) :
    Accessed (Except Errno HttpRequestAt) :=
  match strstr memory 0 crlf with
  | none => ⟨.error .einval, memory, []⟩
  | some lineEnd =>
    match memchr memory 0 0x20 lineEnd with
    | none => ⟨.error .einval, memory, []⟩
    | some methodEnd =>
      let path := methodEnd + 1
      match memchr memory path 0x20 (sizeSub lineEnd path) with
      | none => ⟨.error .einval, memory, []⟩
      | some pathEnd =>
        let lines := headerLinesAt memory (lineEnd + 2) false 0
        { lines with
          value := lines.value.map fun (hasContentLength, contentLength) =>
            { method := 0
              methodLen := methodEnd
              path := path
              pathLen := sizeSub pathEnd path
              contentLength := contentLength
              hasContentLength := hasContentLength
              body := headerLen
              bodyLen := sizeSub received headerLen } }

/-- The receive loop, with `received` bytes in the array. -/
def readHttpRequestAt (memory : Memory) (received : ℕ) (recvs : List WebRecv) :
    Accessed (Except Errno HttpRequestAt) × List WebRecv :=
  let size := sizeSub webAppRxBufSize received
  match _called : webRecv size recvs with
  | (.error errno, rest) =>
    let access := [.recv received size (.error errno)]
    if errno = .eintr then
      let run := readHttpRequestAt memory received rest
      (run.1.after access, run.2)
    else (⟨.error .enotconn, memory, access⟩, rest)
  | (.received bytes, rest) =>
    let access := [.recv received size (.received bytes)]
    if bytes = [] then (⟨.error .enotconn, memory, access⟩, rest)
    else
      let filled := store memory received bytes
      let received := received + bytes.length
      match findHeaderEnd (filled.take received) with
      | some headerEnd =>
        let headerLen := headerEnd + 4
        let ended := store filled (headerLen - 2) [0]
        ((parseHttpRequestAt ended received headerLen).after
          (access ++ [.terminate (headerLen - 2)]), rest)
      | none =>
        if received = webAppRxBufSize then (⟨.error .eoverflow, filled, access⟩, rest)
        else
          let run := readHttpRequestAt filled received rest
          (run.1.after access, run.2)
termination_by pendingCalls recvs
decreasing_by
  · subst errno
    exact pendingCalls_lt_of_interrupted _called
  · exact pendingCalls_lt_of_received _called ‹_›

/-! ## The body -/

/-- The loop of `read_remaining_body`. -/
def recvBodyAt (memory : Memory) (request : HttpRequestAt) (recvs : List WebRecv) :
    Accessed (Except Errno HttpRequestAt) :=
  if request.bodyLen < request.contentLength then
    let offset := request.body + request.bodyLen
    let size := sizeSub request.contentLength request.bodyLen
    match _called : webRecv size recvs with
    | (.error errno, rest) =>
      let access := [.recv offset size (.error errno)]
      if errno = .eintr then (recvBodyAt memory request rest).after access
      else ⟨.error .enotconn, memory, access⟩
    | (.received bytes, rest) =>
      let access := [.recv offset size (.received bytes)]
      if bytes = [] then ⟨.error .enotconn, memory, access⟩
      else
        (recvBodyAt (store memory offset bytes)
          { request with bodyLen := request.bodyLen + bytes.length } rest).after access
  else ⟨.ok request, memory, []⟩
termination_by pendingCalls recvs
decreasing_by
  · subst errno
    exact pendingCalls_lt_of_interrupted _called
  · exact pendingCalls_lt_of_received _called ‹_›

def readRemainingBodyAt (memory : Memory) (request : HttpRequestAt) (recvs : List WebRecv) :
    Accessed (Except Errno HttpRequestAt) :=
  if sizeSub webAppRxBufSize request.body ≤ request.contentLength then
    ⟨.error .eoverflow, memory, []⟩
  else recvBodyAt memory request recvs

/-- `handle_config_update` up to its call of `json_obj_parse`: the request with which that is
called, on `content_length` bytes from `body` on. -/
def handleConfigUpdateAt (memory : Memory) (request : HttpRequestAt) (recvs : List WebRecv) :
    Accessed (Option HttpRequestAt) :=
  if !request.hasContentLength then ⟨none, memory, []⟩
  else if webAppConfigBodyMax < request.contentLength then ⟨none, memory, []⟩
  else if request.contentLength < request.bodyLen then ⟨none, memory, []⟩
  else
    let run := readRemainingBodyAt memory request recvs
    { run with value := run.value.toOption }

/-! ## Differences that do not wrap -/

theorem sizeSub_eq {a b : ℕ} (below : b ≤ a) (inside : a ≤ sizeMax) : sizeSub a b = a - b := by
  simp only [sizeSub, sizeMax] at inside ⊢
  omega

/-! ## The header lines -/

section HeaderLines

variable {text line rest : List UInt8} {hasContentLength : Bool} {contentLength : ℕ}

theorem parseHeaderLines_none (last : cut crlf text = none) :
    parseHeaderLines hasContentLength contentLength text =
      .ok (hasContentLength, contentLength) := by
  rw [parseHeaderLines, last]

theorem parseHeaderLines_blank (blank : cut crlf text = some ([], rest)) :
    parseHeaderLines hasContentLength contentLength text =
      .ok (hasContentLength, contentLength) := by
  rw [parseHeaderLines, blank]
  rfl

/-- One line, and the loop over the others. -/
theorem parseHeaderLines_line (next : cut crlf text = some (line, rest)) (nonempty : line ≠ []) :
    parseHeaderLines hasContentLength contentLength text =
      match cut (ascii ":") line with
      | none => parseHeaderLines hasContentLength contentLength rest
      | some (name, value) =>
        if headerNameEquals name (ascii "Content-Length") then
          match parseContentLength value with
          | .error err => .error err
          | .ok parsed => parseHeaderLines true parsed rest
        else parseHeaderLines hasContentLength contentLength rest := by
  rw [parseHeaderLines, next]
  exact if_neg nonempty

end HeaderLines

/-- A run over the header lines from the offset `line` on: it has the expected result and
writes only into the string there. -/
structure ReadsLines (memory : Memory) (line : ℕ) (expected : Except Errno (Bool × ℕ))
    (run : Accessed (Except Errno (Bool × ℕ))) : Prop where
  value : run.value = expected
  length : run.memory.length = memory.length
  before : run.memory.take line = memory.take line
  behind : run.memory.drop (line + (cString memory line).length) =
    memory.drop (line + (cString memory line).length)
  terminates : ∀ access ∈ run.accesses, ∃ offset, access = .terminate offset ∧
    offset < line + (cString memory line).length

section ReadsLines

variable {memory : Memory} {line i : ℕ} {expected value : Except Errno (Bool × ℕ)}
  {run : Accessed (Except Errno (Bool × ℕ))}

theorem ReadsLines.stop (memory : Memory) (line : ℕ) (value : Except Errno (Bool × ℕ)) :
    ReadsLines memory line value ⟨value, memory, []⟩ :=
  ⟨rfl, rfl, rfl, rfl, by simp⟩

/-- What a line that ends at the `i`th byte of the string is cut into. -/
structure EndsLine (memory : Memory) (line i : ℕ) : Prop where
  found : find crlf (cString memory line) = some i
  inside : line + (cString memory line).length ≤ memory.length
  room : i + 2 ≤ (cString memory line).length

theorem EndsLine.of_strstr {lineEnd : ℕ} (searched : strstr memory line crlf = some lineEnd) :
    ∃ i, lineEnd = line + i ∧ EndsLine memory line i := by
  obtain ⟨i, same, found, room⟩ := strstr_eq_some searched
  have bound := cString_length_le memory line
  simp only [crlf, List.length_cons, List.length_nil] at room
  exact ⟨i, same, found, by omega, room⟩

theorem EndsLine.cut_eq (ends : EndsLine memory line i) : cut crlf (cString memory line) =
    some ((cString memory line).take i, (cString memory line).drop (i + 2)) := by
  rw [Pattern.cut, ends.found]
  rfl

/-- The line, once its end was overwritten. -/
theorem EndsLine.cString_line (ends : EndsLine memory line i) :
    cString (store memory (line + i) [0]) line = (cString memory line).take i := by
  have room := ends.room
  have inside := ends.inside
  exact cString_store_zero (by omega) (by omega)

/-- The lines behind it. -/
theorem EndsLine.cString_rest (ends : EndsLine memory line i) :
    cString (store memory (line + i) [0]) (line + i + 2) = (cString memory line).drop (i + 2) := by
  have room := ends.room
  have inside := ends.inside
  rw [cString_store_of_le (by rw [List.length_singleton]; omega) (by omega), add_assoc,
    cString_add room]

theorem EndsLine.terminate (ends : EndsLine memory line i) (value : Except Errno (Bool × ℕ)) :
    ReadsLines memory line value
      ⟨value, store memory (line + i) [0], [.terminate (line + i)]⟩ where
  value := rfl
  length := length_store (by
    have room := ends.room
    have inside := ends.inside
    rw [List.length_singleton]
    omega)
  before := take_store (Nat.le_add_right line i) (by
    have room := ends.room
    have inside := ends.inside
    omega)
  behind := drop_store (by
    have room := ends.room
    rw [List.length_singleton]
    omega) (by
    have room := ends.room
    have inside := ends.inside
    omega)
  terminates := by
    have room := ends.room
    simp only [List.mem_singleton, forall_eq]
    exact ⟨_, rfl, by omega⟩

/-- What the rest of the loop does is done behind the line. -/
theorem EndsLine.next (ends : EndsLine memory line i)
    (later : ReadsLines (store memory (line + i) [0]) (line + i + 2) expected run) :
    ReadsLines memory line expected (run.after [.terminate (line + i)]) := by
  have written := ends.terminate expected
  have room := ends.room
  have stringEnd : line + i + 2 + ((cString memory line).drop (i + 2)).length =
      line + (cString memory line).length := by
    rw [List.length_drop]
    omega
  have before := congrArg (List.take line) later.before
  have behind := later.behind
  have terminates := later.terminates
  rw [List.take_take, List.take_take, Nat.min_eq_left (by omega)] at before
  rw [ends.cString_rest, stringEnd] at behind terminates
  refine ⟨later.value, later.length.trans written.length, before.trans written.before,
    behind.trans written.behind, ?_⟩
  intro access member
  rcases List.mem_append.mp member with first | other
  · exact written.terminates access first
  · exact terminates access other

/-- A colon in the line, and what stands on its two sides. -/
theorem EndsLine.colon (ends : EndsLine memory line i) {colon : ℕ}
    (searched : strchr (store memory (line + i) [0]) line 0x3A = some colon) :
    cut (ascii ":") ((cString memory line).take i) =
      some (load (store memory (line + i) [0]) line (colon - line),
        cString (store memory (line + i) [0]) (colon + 1)) := by
  obtain ⟨j, rfl, found, inside⟩ := strstr_eq_some searched
  have inside : j + 1 ≤ (cString (store memory (line + i) [0]) line).length := inside
  rw [Nat.add_sub_cancel_left, load_eq_take (Nat.le_of_succ_le inside), add_assoc,
    cString_add inside, ends.cString_line, Pattern.cut]
  rw [ends.cString_line] at found
  have here : find (ascii ":") ((cString memory line).take i) = some j := found
  rw [here]
  rfl

theorem EndsLine.noColon (ends : EndsLine memory line i)
    (searched : strchr (store memory (line + i) [0]) line 0x3A = none) :
    cut (ascii ":") ((cString memory line).take i) = none := by
  have absent := strstr_eq_none.mp searched
  rw [ends.cString_line] at absent
  exact Option.map_eq_none_iff.mpr absent

theorem EndsLine.nonempty (ends : EndsLine memory line i) (proper : line + i ≠ line) :
    (cString memory line).take i ≠ [] := by
  have room := ends.room
  apply List.ne_nil_of_length_pos
  rw [List.length_take]
  omega

theorem cString_eq_nil (nul : memory.getD line 0 = 0) : cString memory line = [] := by
  rw [List.getD_eq_getElem?_getD, ← List.head?_drop] at nul
  rw [cString]
  cases split : memory.drop line with
  | nil => rfl
  | cons b rest =>
    obtain rfl : b = 0 := by simpa [split] using nul
    exact content_append_zero [] rest

/-- The loop over the offsets is the loop over the lines. -/
theorem headerLinesAt_reads (memory : Memory) (line : ℕ) (hasContentLength : Bool)
    (contentLength : ℕ) :
    ReadsLines memory line
      (parseHeaderLines hasContentLength contentLength (cString memory line))
      (headerLinesAt memory line hasContentLength contentLength) := by
  fun_induction headerLinesAt memory line hasContentLength contentLength with
  | case1 memory line hasContentLength contentLength nul =>
    rw [cString_eq_nil nul, parseHeaderLines_none rfl]
    exact .stop ..
  | case2 memory line hasContentLength contentLength nul searched =>
    have last : cut crlf (cString memory line) = none :=
      Option.map_eq_none_iff.mpr (strstr_eq_none.mp searched)
    rw [parseHeaderLines_none last]
    exact .stop ..
  | case3 memory line hasContentLength contentLength nul searched =>
    obtain ⟨i, same, ends⟩ := EndsLine.of_strstr searched
    obtain rfl : i = 0 := by omega
    rw [parseHeaderLines_blank ends.cut_eq]
    exact .stop ..
  | case4 memory line hasContentLength contentLength nul lineEnd searched proper ended
      noColon ih =>
    obtain ⟨i, rfl, ends⟩ := EndsLine.of_strstr searched
    rw [parseHeaderLines_line ends.cut_eq (ends.nonempty proper), ends.noColon noColon]
    rw [ends.cString_rest] at ih
    exact ends.next ih
  | case5 memory line hasContentLength contentLength nul lineEnd searched proper ended colon
      found named err refused =>
    subst ended
    obtain ⟨i, rfl, ends⟩ := EndsLine.of_strstr searched
    rw [parseHeaderLines_line ends.cut_eq (ends.nonempty proper), ends.colon found]
    simp only [if_pos named, refused]
    exact ends.terminate _
  | case6 memory line hasContentLength contentLength nul lineEnd searched proper ended colon
      found named parsed accepted ih =>
    subst ended
    obtain ⟨i, rfl, ends⟩ := EndsLine.of_strstr searched
    rw [parseHeaderLines_line ends.cut_eq (ends.nonempty proper), ends.colon found]
    simp only [if_pos named, accepted]
    rw [ends.cString_rest] at ih
    exact ends.next ih
  | case7 memory line hasContentLength contentLength nul lineEnd searched proper ended colon
      found other ih =>
    subst ended
    obtain ⟨i, rfl, ends⟩ := EndsLine.of_strstr searched
    rw [parseHeaderLines_line ends.cut_eq (ends.nonempty proper), ends.colon found]
    simp only [if_neg other]
    rw [ends.cString_rest] at ih
    exact ends.next ih

end ReadsLines

/-! ## The request -/

/-- What the offsets stand for. -/
def HttpRequestAt.head (memory : Memory) (request : HttpRequestAt) : HttpHead where
  method := load memory request.method request.methodLen
  path := load memory request.path request.pathLen
  hasContentLength := request.hasContentLength
  contentLength := request.contentLength

section RequestLine

variable {head requestLine lines method target path rest : List UInt8}

/-- What is parsed of a head whose request line has its two spaces. -/
theorem parseHttpHead_line (line : cut crlf (headText head) = some (requestLine, lines))
    (first : cut (ascii " ") requestLine = some (method, target))
    (second : cut (ascii " ") target = some (path, rest)) :
    parseHttpHead head = (parseHeaderLines false 0 lines).map
      fun (hasContentLength, contentLength) =>
        ⟨method, path, hasContentLength, contentLength⟩ := by
  rw [parseHttpHead, line]
  simp only [first, second]
  cases parseHeaderLines false 0 lines <;> rfl

theorem parseHttpHead_noMethod (line : cut crlf (headText head) = some (requestLine, lines))
    (first : cut (ascii " ") requestLine = none) : parseHttpHead head = .error .einval := by
  rw [parseHttpHead, line]
  simp only [first]

theorem parseHttpHead_noPath (line : cut crlf (headText head) = some (requestLine, lines))
    (first : cut (ascii " ") requestLine = some (method, target))
    (second : cut (ascii " ") target = none) : parseHttpHead head = .error .einval := by
  rw [parseHttpHead, line]
  simp only [first, second]

end RequestLine

/-- A run over a head: it has the result of the head, and writes only into the string. -/
structure ParsesHead (memory : Memory) (received headerLen : ℕ) (head : List UInt8)
    (run : Accessed (Except Errno HttpRequestAt)) : Prop where
  value : run.value.map (HttpRequestAt.head run.memory) = parseHttpHead head
  body : ∀ request, run.value = .ok request →
    request.body = headerLen ∧ request.bodyLen = sizeSub received headerLen
  length : run.memory.length = memory.length
  behind : run.memory.drop (cString memory 0).length = memory.drop (cString memory 0).length
  terminates : ∀ access ∈ run.accesses, ∃ offset, access = .terminate offset ∧
    offset < (cString memory 0).length

section ParsesHead

variable {memory : Memory} {received headerLen : ℕ} {head : List UInt8}

theorem ParsesHead.reject (refused : parseHttpHead head = .error .einval) :
    ParsesHead memory received headerLen head ⟨.error .einval, memory, []⟩ :=
  ⟨refused.symm, by simp, rfl, rfl, by simp⟩

/-- Behind the request line the header lines are read, and the request line stays. -/
theorem ParsesHead.accept {lineEnd methodEnd pathLen : ℕ} (text : cString memory 0 = headText head)
    (ends : EndsLine memory 0 lineEnd) (inside : methodEnd + 1 + pathLen ≤ lineEnd)
    (parsed : parseHttpHead head =
      (parseHeaderLines false 0 ((headText head).drop (lineEnd + 2))).map
        fun (hasContentLength, contentLength) =>
          ⟨load memory 0 methodEnd, load memory (methodEnd + 1) pathLen, hasContentLength,
            contentLength⟩) :
    let lines := headerLinesAt memory (lineEnd + 2) false 0
    ParsesHead memory received headerLen head
      { lines with
        value := lines.value.map fun (hasContentLength, contentLength) =>
          { method := 0
            methodLen := methodEnd
            path := methodEnd + 1
            pathLen := pathLen
            contentLength := contentLength
            hasContentLength := hasContentLength
            body := headerLen
            bodyLen := sizeSub received headerLen } } := by
  have room := ends.room
  have read := headerLinesAt_reads memory (lineEnd + 2) false 0
  have rest : cString memory (lineEnd + 2) = (headText head).drop (lineEnd + 2) := by
    rw [← text, ← cString_add room, Nat.zero_add]
  have stringEnd : lineEnd + 2 + ((headText head).drop (lineEnd + 2)).length =
      (cString memory 0).length := by
    rw [← text, List.length_drop]
    omega
  have value := read.value
  have behind := read.behind
  have terminates := read.terminates
  rw [rest] at value
  rw [rest, stringEnd] at behind terminates
  refine ⟨?_, ?_, read.length, behind, terminates⟩
  · rw [parsed]
    simp only [value]
    cases parseHeaderLines false 0 ((headText head).drop (lineEnd + 2)) with
    | error err => rfl
    | ok lengths =>
      have kept {offset length : ℕ} (before : offset + length ≤ lineEnd + 2) :=
        load_congr read.before before
      simp only [Except.map, HttpRequestAt.head]
      rw [kept (by omega), kept (by omega)]
  · intro request ok
    cases result : (headerLinesAt memory (lineEnd + 2) false 0).value with
    | error err =>
      rw [result] at ok
      cases ok
    | ok lengths =>
      rw [result] at ok
      obtain rfl := Except.ok.inj ok
      exact ⟨rfl, rfl⟩

/-- The parser on offsets is the parser of the head. -/
theorem parseHttpRequestAt_reads (text : cString memory 0 = headText head)
    (small : memory.length ≤ sizeMax) (received headerLen : ℕ) :
    ParsesHead memory received headerLen head (parseHttpRequestAt memory received headerLen) := by
  unfold parseHttpRequestAt
  cases searched : strstr memory 0 crlf with
  | none =>
    have noLine : cut crlf (headText head) = none :=
      Option.map_eq_none_iff.mpr (text ▸ strstr_eq_none.mp searched)
    exact .reject (by rw [parseHttpHead, noLine])
  | some lineEnd =>
    obtain ⟨i, same, ends⟩ := EndsLine.of_strstr searched
    obtain rfl : lineEnd = i := by omega
    have room := ends.room
    have inside := ends.inside
    have requestLine : load memory 0 lineEnd = (headText head).take lineEnd := by
      rw [load_eq_take (by omega), text]
    have lines := ends.cut_eq
    rw [text, ← requestLine] at lines
    dsimp only
    cases firstSpace : memchr memory 0 0x20 lineEnd with
    | none => exact .reject (parseHttpHead_noMethod lines (memchr_eq_none.mp firstSpace))
    | some methodEnd =>
      obtain ⟨j, same, before, first⟩ := memchr_eq_some firstSpace
      obtain rfl : methodEnd = j := by omega
      have method : cut (ascii " ") (load memory 0 lineEnd) = _ := first
      rw [Nat.zero_add] at method
      have target : sizeSub lineEnd (methodEnd + 1) = lineEnd - (methodEnd + 1) :=
        sizeSub_eq before (by omega)
      simp only [target]
      cases secondSpace : memchr memory (methodEnd + 1) 0x20 (lineEnd - (methodEnd + 1)) with
      | none => exact .reject (parseHttpHead_noPath lines method (memchr_eq_none.mp secondSpace))
      | some pathEnd =>
        obtain ⟨k, rfl, within, second⟩ := memchr_eq_some secondSpace
        have pathLen : sizeSub (methodEnd + 1 + k) (methodEnd + 1) = k := by
          rw [sizeSub_eq (by omega) (by omega), Nat.add_sub_cancel_left]
        simp only [pathLen]
        exact .accept text ends (by omega) (parseHttpHead_line lines method second)

end ParsesHead

/-! ## The accesses -/

def WebRecv.delivered : WebRecv → List UInt8
  | .received bytes => bytes
  | .error _ => []

namespace RequestAccess

/-- In the array; a call asks for something, and no more arrives. -/
def Inside : RequestAccess → Prop
  | .recv offset size result =>
    0 < size ∧ offset + size ≤ webAppRxBufSize ∧ result.delivered.length ≤ size
  | .terminate offset => offset < webAppRxBufSize

def delivered : RequestAccess → List UInt8
  | .recv _ _ result => result.delivered
  | .terminate _ => []

/-- The loops may go on behind it. -/
def goesOn : RequestAccess → Bool
  | .recv _ _ result => result.undisturbed
  | .terminate _ => true

end RequestAccess

def deliveredBytes (accesses : List RequestAccess) : List UInt8 :=
  accesses.flatMap RequestAccess.delivered

theorem deliveredBytes_recv (offset size : ℕ) (result : WebRecv) :
    deliveredBytes [.recv offset size result] = result.delivered :=
  List.flatMap_singleton _ _

@[simp] theorem goesOn_received {offset size : ℕ} {bytes : List UInt8} :
    RequestAccess.goesOn (.recv offset size (.received bytes)) = true ↔ bytes ≠ [] := by
  simp [RequestAccess.goesOn, WebRecv.undisturbed]

/-- Nothing follows a call that delivered nothing. -/
structure StaysInside (accesses : List RequestAccess) : Prop where
  inside : ∀ access ∈ accesses, access.Inside
  stops : ∀ access ∈ accesses.dropLast, access.goesOn = true

section StaysInside

variable {access : RequestAccess} {accesses later : List RequestAccess}

theorem StaysInside.nil : StaysInside [] := ⟨by simp, by simp⟩

theorem StaysInside.cons (inside : access.Inside) (goesOn : access.goesOn = true)
    (stays : StaysInside accesses) : StaysInside (access :: accesses) where
  inside := List.forall_mem_cons.mpr ⟨inside, stays.inside⟩
  stops := by
    cases accesses with
    | nil => simp
    | cons next accesses => exact List.forall_mem_cons.mpr ⟨goesOn, stays.stops⟩

theorem StaysInside.last (inside : access.Inside) : StaysInside [access] :=
  ⟨List.forall_mem_singleton.mpr inside, by simp⟩

theorem StaysInside.append
    (each : ∀ access ∈ accesses, access.Inside ∧ access.goesOn = true)
    (stays : StaysInside later) : StaysInside (accesses ++ later) := by
  induction accesses with
  | nil => exact stays
  | cons access accesses ih =>
    obtain ⟨⟨inside, goesOn⟩, others⟩ := List.forall_mem_cons.mp each
    exact (ih others).cons inside goesOn

theorem StaysInside.of_each
    (each : ∀ access ∈ accesses, access.Inside ∧ access.goesOn = true) : StaysInside accesses := by
  rw [← List.append_nil accesses]
  exact .append each .nil

end StaysInside

/-! ## A head that has arrived -/

/-- A run over the head of `gathered`: the parsed request lies in the array, and its body is
what stands behind the head. -/
structure ParsesGathered (gathered : List UInt8) (headerLen : ℕ)
    (run : Accessed (Except Errno HttpRequestAt)) : Prop where
  value : run.value.map (HttpRequestAt.head run.memory) = parseHttpHead (gathered.take headerLen)
  body : ∀ request, run.value = .ok request →
    request.body = headerLen ∧ request.body + request.bodyLen = gathered.length ∧
      load run.memory request.body request.bodyLen = gathered.drop headerLen
  length : run.memory.length = webAppRxBufSize
  each : ∀ access ∈ run.accesses, access.Inside ∧ access.goesOn = true ∧ access.delivered = []

theorem parseHttpRequestAt_gathered {memory : Memory} {received headerEnd : ℕ}
    (length : memory.length = webAppRxBufSize) (fits : received ≤ webAppRxBufSize)
    (found : findHeaderEnd (memory.take received) = some headerEnd) :
    ParsesGathered (memory.take received) (headerEnd + 4)
      (parseHttpRequestAt (store memory (headerEnd + 2) [0]) received (headerEnd + 4)) := by
  have total : (memory.take received).length = received := by
    rw [List.length_take, length, Nat.min_eq_left fits]
  have arrived : headerEnd + 4 ≤ received := (find_add_length_le found).trans_eq total
  have ended : (store memory (headerEnd + 2) [0]).length = memory.length := by
    apply length_store
    rw [List.length_singleton, length]
    omega
  have head : (memory.take received).take (headerEnd + 4) = memory.take (headerEnd + 4) := by
    rw [List.take_take, Nat.min_eq_left arrived]
  -- The NUL stands where the blank line begins.
  have written : cString (store memory (headerEnd + 2) [0]) 0 =
      content (memory.take (headerEnd + 2)) := by
    have cut := @cString_store_nul memory 0 (headerEnd + 2) (by omega)
    rwa [Nat.zero_add] at cut
  have text : cString (store memory (headerEnd + 2) [0]) 0 =
      headText ((memory.take received).take (headerEnd + 4)) := by
    rw [written, head, headText, List.length_take, length, Nat.min_eq_left (arrived.trans fits),
      List.take_take]
    congr 2
    omega
  have short : (cString (store memory (headerEnd + 2) [0]) 0).length ≤ headerEnd + 2 := by
    rw [written]
    exact (content_length_le _).trans (List.length_take_le _ _)
  have parsed := parseHttpRequestAt_reads text (by rw [ended, length]; decide) received
    (headerEnd + 4)
  refine ⟨parsed.value, ?_, parsed.length.trans (ended.trans length), ?_⟩
  · intro request ok
    obtain ⟨body, bodyLen⟩ := parsed.body request ok
    rw [sizeSub_eq arrived (fits.trans (by decide))] at bodyLen
    have kept : (parseHttpRequestAt (store memory (headerEnd + 2) [0]) received
        (headerEnd + 4)).memory.drop (headerEnd + 4) = memory.drop (headerEnd + 4) := by
      rw [drop_congr parsed.behind (by omega)]
      exact drop_store (Nat.le_succ _) (by omega)
    refine ⟨body, by omega, ?_⟩
    rw [body, bodyLen, load, kept, List.drop_take]
  · intro access member
    obtain ⟨offset, rfl, inside⟩ := parsed.terminates access member
    exact ⟨by simp only [RequestAccess.Inside]; omega, rfl, rfl⟩

/-! ## The receive loop -/

/-- How the reception ends, with `gathered` in the buffer before: without a head, or at the
head, which is then parsed. -/
inductive ReadsHead (gathered : List UInt8) : Accessed (Except Errno HttpRequestAt) → Prop
  | gaveUp {err : Errno} {memory : Memory} {accesses : List RequestAccess}
      (length : memory.length = webAppRxBufSize) (stays : StaysInside accesses)
      (noHead : findHeaderEnd (gathered ++ deliveredBytes accesses) = none) :
      ReadsHead gathered ⟨.error err, memory, accesses⟩
  | parsed {memory : Memory} {received headerEnd : ℕ} {accesses : List RequestAccess}
      (length : memory.length = webAppRxBufSize) (fits : received ≤ webAppRxBufSize)
      (arrived : memory.take received = gathered ++ deliveredBytes accesses)
      (found : findHeaderEnd (memory.take received) = some headerEnd)
      (each : ∀ access ∈ accesses, access.Inside ∧ access.goesOn = true) :
      ReadsHead gathered
        ((parseHttpRequestAt (store memory (headerEnd + 2) [0]) received (headerEnd + 4)).after
          (accesses ++ [.terminate (headerEnd + 2)]))

section ReadsHead

variable {gathered : List UInt8} {access : RequestAccess}
  {run : Accessed (Except Errno HttpRequestAt)}

/-- One access more in front. -/
theorem ReadsHead.after (inside : access.Inside) (goesOn : access.goesOn = true)
    (reads : ReadsHead (gathered ++ access.delivered) run) :
    ReadsHead gathered (run.after [access]) := by
  cases reads with
  | gaveUp length stays noHead =>
    rw [List.append_assoc] at noHead
    exact .gaveUp length (stays.cons inside goesOn) noHead
  | parsed length fits arrived found each =>
    rw [List.append_assoc] at arrived
    exact .parsed length fits arrived found (List.forall_mem_cons.mpr ⟨⟨inside, goesOn⟩, each⟩)

/-- The receive loop stays in the buffer, and ends at the first head or without one. -/
theorem readHttpRequestAt_reads {memory : Memory} {received : ℕ} {recvs : List WebRecv}
    (length : memory.length = webAppRxBufSize) (room : received < webAppRxBufSize)
    (unfinished : findHeaderEnd (memory.take received) = none) :
    ReadsHead (memory.take received) (readHttpRequestAt memory received recvs).1 := by
  -- The difference asked for is what is left of the buffer.
  have asked {received : ℕ} (room : received < webAppRxBufSize) :
      0 < sizeSub webAppRxBufSize received ∧
        received + sizeSub webAppRxBufSize received = webAppRxBufSize := by
    rw [sizeSub_eq room.le (by decide)]
    omega
  have failed {received : ℕ} (room : received < webAppRxBufSize) (errno : Errno) :
      RequestAccess.Inside (.recv received (sizeSub webAppRxBufSize received) (.error errno)) :=
    ⟨(asked room).1, (asked room).2.le, Nat.zero_le _⟩
  have arrived {received : ℕ} (room : received < webAppRxBufSize) {recvs rest : List WebRecv}
      {bytes : List UInt8}
      (called : webRecv (sizeSub webAppRxBufSize received) recvs = (.received bytes, rest)) :
      RequestAccess.Inside (.recv received (sizeSub webAppRxBufSize received) (.received bytes)) :=
    ⟨(asked room).1, (asked room).2.le, (webRecv_received called).2⟩
  have fits {received : ℕ} (room : received < webAppRxBufSize) {recvs rest : List WebRecv}
      {bytes : List UInt8}
      (called : webRecv (sizeSub webAppRxBufSize received) recvs = (.received bytes, rest)) :
      received + bytes.length ≤ webAppRxBufSize :=
    (Nat.add_le_add_left (webRecv_received called).2 _).trans (asked room).2.le
  fun_induction readHttpRequestAt memory received recvs with
  | case1 memory received recvs size rest called access run ih =>
    apply ReadsHead.after (failed room .eintr) rfl
    rw [RequestAccess.delivered, WebRecv.delivered, List.append_nil]
    exact ih length room unfinished
  | case2 memory received recvs size errno rest called access other =>
    apply ReadsHead.gaveUp length (.last (failed room errno))
    rw [deliveredBytes_recv, WebRecv.delivered, List.append_nil]
    exact unfinished
  | case3 memory received recvs size rest called access =>
    apply ReadsHead.gaveUp length (.last (arrived room called))
    rw [deliveredBytes_recv, WebRecv.delivered, List.append_nil]
    exact unfinished
  | case4 memory received recvs size bytes rest called access nonempty filled total headerEnd
      found headerLen ended =>
    have fits : total ≤ webAppRxBufSize := fits room called
    apply ReadsHead.parsed ((length_store (length ▸ fits)).trans length) fits _ found
    · exact List.forall_mem_singleton.mpr ⟨arrived room called, by simpa using nonempty⟩
    · rw [deliveredBytes_recv]
      exact take_store_append (length ▸ room.le)
  | case5 memory received recvs size bytes rest called access nonempty filled total found full =>
    have fits : total ≤ webAppRxBufSize := fits room called
    apply ReadsHead.gaveUp ((length_store (length ▸ fits)).trans length)
      (.last (arrived room called))
    rw [deliveredBytes_recv, WebRecv.delivered, ← take_store_append (length ▸ room.le)]
    exact found
  | case6 memory received recvs size bytes rest called access nonempty filled total found notFull
      run ih =>
    have fits : total ≤ webAppRxBufSize := fits room called
    have next := ih ((length_store (length ▸ fits)).trans length) (lt_of_le_of_ne fits notFull)
      found
    apply ReadsHead.after (arrived room called) (by simpa using nonempty)
    rwa [take_store_append (length ▸ room.le)] at next

theorem readHttpRequestAt_start (request : CharArray webAppRxBufSize) (recvs : List WebRecv) :
    ReadsHead [] (readHttpRequestAt request.bytes 0 recvs).1 :=
  @readHttpRequestAt_reads request.bytes 0 recvs request.size_eq (by decide) rfl

end ReadsHead

/-! ## The body -/

section Body

variable {missing size : ℕ} {front bytes : List UInt8} {recvs rest : List WebRecv} {errno : Errno}

theorem recvBody_error (short : 0 < missing) (asked : size = missing)
    (called : webRecv size recvs = (.error errno, rest)) :
    recvBody missing front recvs =
      if errno = .eintr then recvBody missing front rest else none := by
  subst asked
  obtain ⟨missing, rfl⟩ := Nat.exists_eq_add_one.mpr short
  rcases recvs with _ | ⟨_ | other, recvs⟩
  · obtain ⟨⟨⟩, rfl⟩ := Prod.mk.inj called
    rfl
  · rw [webRecv] at called
    split_ifs at called <;> cases (Prod.mk.inj called).1
  · obtain ⟨⟨⟩, rfl⟩ := Prod.mk.inj called
    rw [recvBody]

theorem recvBody_received (short : 0 < missing) (asked : size = missing)
    (called : webRecv size recvs = (.received bytes, rest)) :
    recvBody missing front recvs =
      if bytes = [] then none else recvBody (missing - bytes.length) (front ++ bytes) rest := by
  subst asked
  obtain ⟨missing, rfl⟩ := Nat.exists_eq_add_one.mpr short
  rcases recvs with _ | ⟨piece | other, recvs⟩
  · cases (Prod.mk.inj called).1
  · rw [webRecv] at called
    split_ifs at called with fits
    · obtain ⟨⟨⟩, rfl⟩ := Prod.mk.inj called
      rw [recvBody, List.take_of_length_le fits]
    · -- More arrived than was missing: nothing is missing any more.
      obtain ⟨⟨⟩, rfl⟩ := Prod.mk.inj called
      have complete : missing + 1 - (piece.take (missing + 1)).length = 0 := by
        rw [List.length_take]
        omega
      rw [recvBody, complete, recvBody, recvBody]
  · cases (Prod.mk.inj called).1

end Body

/-- A run of the body loop: it stays in the buffer, and what it leaves there is the body. -/
structure ReceivesBody (memory : Memory) (request : HttpRequestAt) (recvs : List WebRecv)
    (run : Accessed (Except Errno HttpRequestAt)) : Prop where
  stays : StaysInside run.accesses
  length : run.memory.length = memory.length
  body : run.value.toOption.map (fun request => load run.memory request.body request.bodyLen) =
    recvBody (request.contentLength - request.bodyLen)
      (load memory request.body request.bodyLen) recvs
  complete : ∀ received, run.value = .ok received →
    received = { request with bodyLen := max request.bodyLen request.contentLength }

section ReceivesBody

variable {memory : Memory} {request : HttpRequestAt} {recvs : List WebRecv}

/-- The body loop stays in the buffer, whatever arrives. -/
theorem recvBodyAt_receives (length : memory.length = webAppRxBufSize)
    (fits : request.body + request.contentLength ≤ webAppRxBufSize) :
    ReceivesBody memory request recvs (recvBodyAt memory request recvs) := by
  -- The difference asked for is what is missing.
  have missing {request : HttpRequestAt}
      (fits : request.body + request.contentLength ≤ webAppRxBufSize)
      (short : request.bodyLen < request.contentLength) :
      sizeSub request.contentLength request.bodyLen = request.contentLength - request.bodyLen :=
    sizeSub_eq short.le
      ((Nat.le_add_left _ _).trans (fits.trans (by decide : webAppRxBufSize ≤ sizeMax)))
  have inside {request : HttpRequestAt}
      (fits : request.body + request.contentLength ≤ webAppRxBufSize)
      (short : request.bodyLen < request.contentLength) {result : WebRecv}
      (asked : result.delivered.length ≤ sizeSub request.contentLength request.bodyLen) :
      RequestAccess.Inside (.recv (request.body + request.bodyLen)
        (sizeSub request.contentLength request.bodyLen) result) := by
    rw [missing fits short] at asked ⊢
    exact ⟨Nat.sub_pos_of_lt short, by omega, asked⟩
  fun_induction recvBodyAt memory request recvs with
  | case1 memory request recvs short offset size rest called access ih =>
    have later := ih length fits
    refine ⟨later.stays.cons (inside fits short (Nat.zero_le _)) rfl, later.length, ?_,
      later.complete⟩
    rw [recvBody_error (Nat.sub_pos_of_lt short) (missing fits short) called, if_pos rfl]
    exact later.body
  | case2 memory request recvs short offset size errno rest called access other =>
    refine ⟨.last (inside fits short (Nat.zero_le _)), rfl, ?_, by simp⟩
    rw [recvBody_error (Nat.sub_pos_of_lt short) (missing fits short) called, if_neg other]
    rfl
  | case3 memory request recvs short offset size rest called access =>
    refine ⟨.last (inside fits short (Nat.zero_le _)), rfl, ?_, by simp⟩
    rw [recvBody_received (Nat.sub_pos_of_lt short) (missing fits short) called, if_pos rfl]
    rfl
  | case4 memory request recvs short offset size bytes rest called access nonempty ih =>
    have asked := (webRecv_received called).2
    have few : bytes.length ≤ request.contentLength - request.bodyLen :=
      asked.trans (missing fits short).le
    have written : (store memory offset bytes).length = memory.length := by
      apply length_store
      rw [length]
      omega
    have later := ih (written.trans length) fits
    refine ⟨later.stays.cons (inside fits short asked) (by simpa using nonempty),
      later.length.trans written, ?_, ?_⟩
    · rw [recvBody_received (Nat.sub_pos_of_lt short) (missing fits short) called,
        if_neg nonempty, ← load_store_append (by rw [length]; omega), Nat.sub_sub]
      exact later.body
    · intro received ok
      rw [later.complete received ok]
      congr 1
      dsimp only
      omega
  | case5 memory request recvs complete =>
    have nothing : request.contentLength - request.bodyLen = 0 := by omega
    refine ⟨.nil, rfl, ?_, ?_⟩
    · rw [nothing, recvBody]
      rfl
    · rintro received ⟨⟩
      rw [max_eq_left (not_lt.mp complete)]

theorem readRemainingBodyAt_eq (memory : Memory) (recvs : List WebRecv)
    (begins : request.body ≤ webAppRxBufSize) :
    readRemainingBodyAt memory request recvs =
      if webAppRxBufSize - request.body ≤ request.contentLength then
        ⟨.error .eoverflow, memory, []⟩
      else recvBodyAt memory request recvs := by
  rw [readRemainingBodyAt, sizeSub_eq begins (by decide)]

end ReceivesBody

/-! ## One handler in two versions -/

/-- The request that the offsets stand for. -/
structure HttpRequestAt.Holds (memory : Memory) (request : HttpRequestAt)
    (parsed : ParsedRequest) : Prop where
  head : request.head memory =
    ⟨parsed.method, parsed.path, parsed.hasContentLength, parsed.contentLength⟩
  bodyOffset : request.body = parsed.bodyOffset
  bodyLen : request.bodyLen = parsed.body.length
  body : load memory request.body request.bodyLen = parsed.body

/-- The same result, or the same error. -/
def SameResult (run : Accessed (Except Errno HttpRequestAt)) : Except Errno ParsedRequest → Prop
  | .error err => run.value = .error err
  | .ok parsed => ∃ request, run.value = .ok request ∧ request.Holds run.memory parsed

section Refinement

variable {memory : Memory} {received : ℕ} {buffer : RequestBuffer} {recvs : List WebRecv}

theorem ParsesGathered.sameResult {headerLen : ℕ} {run : Accessed (Except Errno HttpRequestAt)}
    (parses : ParsesGathered buffer.received headerLen run)
    (inside : headerLen ≤ buffer.received.length) :
    SameResult run (parseHttpRequest buffer headerLen inside) := by
  have value := parses.value
  rw [parseHttpRequest]
  cases result : run.value with
  | error err =>
    rw [result] at value
    rw [← value]
    exact result
  | ok request =>
    rw [result] at value
    rw [← value]
    obtain ⟨offset, total, body⟩ := parses.body request result
    refine ⟨request, result, rfl, offset, ?_, body⟩
    change request.bodyLen = (buffer.received.drop headerLen).length
    rw [List.length_drop]
    omega

/-- One round of the loop in which nothing arrives. -/
theorem readHttpRequestAt_error {size : ℕ} {errno : Errno} {rest : List WebRecv}
    (asked : sizeSub webAppRxBufSize received = size)
    (called : webRecv size recvs = (.error errno, rest)) :
    readHttpRequestAt memory received recvs =
      if errno = .eintr then
        ((readHttpRequestAt memory received rest).1.after [.recv received size (.error errno)],
          (readHttpRequestAt memory received rest).2)
      else (⟨.error .enotconn, memory, [.recv received size (.error errno)]⟩, rest) := by
  subst asked
  rw [readHttpRequestAt]
  dsimp only
  split
  next other rest' called' =>
    obtain ⟨⟨⟩, rfl⟩ := Prod.mk.inj (called.symm.trans called')
    rfl
  next bytes rest' called' => cases (Prod.mk.inj (called.symm.trans called')).1

/-- One round in which some bytes arrive. -/
theorem readHttpRequestAt_received {size : ℕ} {bytes : List UInt8} {rest : List WebRecv}
    (asked : sizeSub webAppRxBufSize received = size)
    (called : webRecv size recvs = (.received bytes, rest)) :
    readHttpRequestAt memory received recvs =
      if bytes = [] then
        (⟨.error .enotconn, memory, [.recv received size (.received bytes)]⟩, rest)
      else
        let filled := store memory received bytes
        match findHeaderEnd (filled.take (received + bytes.length)) with
        | some headerEnd =>
          ((parseHttpRequestAt (store filled (headerEnd + 2) [0]) (received + bytes.length)
            (headerEnd + 4)).after
              [.recv received size (.received bytes), .terminate (headerEnd + 2)], rest)
        | none =>
          if received + bytes.length = webAppRxBufSize then
            (⟨.error .eoverflow, filled, [.recv received size (.received bytes)]⟩, rest)
          else
            let run := readHttpRequestAt filled (received + bytes.length) rest
            (run.1.after [.recv received size (.received bytes)], run.2) := by
  subst asked
  rw [readHttpRequestAt]
  dsimp only
  split
  next errno rest' called' => cases (Prod.mk.inj (called.symm.trans called')).1
  next bytes rest' called' =>
    obtain ⟨⟨⟩, rfl⟩ := Prod.mk.inj (called.symm.trans called')
    rfl

/-- The loop on offsets reads the request that `readHttpRequest` reads. -/
theorem readHttpRequestAt_refines (length : memory.length = webAppRxBufSize)
    (filled : memory.take received = buffer.received) (count : received = buffer.received.length)
    (room : received < webAppRxBufSize) :
    (readHttpRequestAt memory received recvs).2 = (readHttpRequest buffer recvs).2 ∧
      SameResult (readHttpRequestAt memory received recvs).1 (readHttpRequest buffer recvs).1 := by
  have asked {buffer : RequestBuffer} {received : ℕ} (count : received = buffer.received.length) :
      sizeSub webAppRxBufSize received = buffer.room := by
    rw [sizeSub_eq (count ▸ buffer.fits) (by decide), RequestBuffer.room, count]
  -- What arrives is written behind what was there.
  have pushed {buffer : RequestBuffer} {memory : Memory} {received : ℕ} {bytes : List UInt8}
      (length : memory.length = webAppRxBufSize) (filled : memory.take received = buffer.received)
      (room : received < webAppRxBufSize) (fits : bytes.length ≤ buffer.room) :
      (store memory received bytes).take (received + bytes.length) =
        (buffer.push bytes fits).received := by
    rw [take_store_append (by omega), filled]
    rfl
  have grown {buffer : RequestBuffer} {received : ℕ} {bytes : List UInt8}
      (count : received = buffer.received.length) (fits : bytes.length ≤ buffer.room) :
      received + bytes.length = (buffer.push bytes fits).received.length := by
    rw [count]
    exact List.length_append.symm
  have inside {buffer : RequestBuffer} {received : ℕ} {bytes : List UInt8}
      (count : received = buffer.received.length) (fits : bytes.length ≤ buffer.room) :
      received + bytes.length ≤ webAppRxBufSize :=
    (grown count fits).trans_le (buffer.push bytes fits).fits
  fun_induction readHttpRequest buffer recvs generalizing memory received
  case case1 buffer recvs rest called ih =>
    rw [readHttpRequestAt_error (asked count) called, if_pos rfl]
    exact ih length filled count room
  case case2 buffer recvs errno rest called other =>
    rw [readHttpRequestAt_error (asked count) called, if_neg other]
    exact ⟨rfl, rfl⟩
  case case3 buffer recvs rest called =>
    rw [readHttpRequestAt_received (asked count) called, if_pos rfl]
    exact ⟨rfl, rfl⟩
  case case4 buffer recvs bytes rest called nonempty next headerEnd found =>
    have fits := (webRecv_received called).2
    have inside := inside count fits
    have arrived : _ = next.received := pushed length filled room fits
    have parses := @parseHttpRequestAt_gathered (store memory received bytes) _ headerEnd
      ((length_store (length ▸ inside)).trans length) inside (by rw [arrived]; exact found)
    rw [arrived] at parses
    rw [readHttpRequestAt_received (asked count) called, if_neg nonempty]
    simp only [arrived, found, true_and]
    exact parses.sameResult (find_add_length_le found)
  case case5 buffer recvs bytes rest called nonempty next found full =>
    have fits := (webRecv_received called).2
    have arrived : _ = next.received := pushed length filled room fits
    have total : received + bytes.length = webAppRxBufSize := (grown count fits).trans full
    rw [readHttpRequestAt_received (asked count) called, if_neg nonempty]
    simp only [arrived, found, if_pos total, true_and]
    rfl
  case case6 buffer recvs bytes rest called nonempty next found notFull ih =>
    have fits := (webRecv_received called).2
    have inside := inside count fits
    have arrived : _ = next.received := pushed length filled room fits
    have total : received + bytes.length ≠ webAppRxBufSize :=
      fun full => notFull ((grown count fits).symm.trans full)
    rw [readHttpRequestAt_received (asked count) called, if_neg nonempty]
    simp only [arrived, found, if_neg total]
    exact ih ((length_store (length ▸ inside)).trans length) arrived (grown count fits)
      (lt_of_le_of_ne inside total)

/-- The body that the decoder is given is the same. -/
theorem readRemainingBodyAt_refines {request : HttpRequestAt} {parsed : ParsedRequest}
    (length : memory.length = webAppRxBufSize) (holds : request.Holds memory parsed)
    (recvs : List WebRecv) :
    let run := readRemainingBodyAt memory request recvs
    run.value.toOption.map (fun request => load run.memory request.body request.bodyLen) =
      readRemainingBody parsed.toHttpRequest recvs := by
  have begins : request.body ≤ webAppRxBufSize := by
    rw [holds.bodyOffset]
    exact (Nat.le_add_right _ _).trans parsed.fits
  have contentLength : request.contentLength = parsed.contentLength :=
    congrArg HttpHead.contentLength holds.head
  simp only [readRemainingBodyAt_eq memory recvs begins, readRemainingBody, contentLength,
    holds.bodyOffset]
  split_ifs with tooLong
  · rfl
  · rw [(recvBodyAt_receives length (by rw [contentLength, holds.bodyOffset]; omega)).body,
      holds.body, contentLength, holds.bodyLen]

end Refinement

end EspNmeaBridge
