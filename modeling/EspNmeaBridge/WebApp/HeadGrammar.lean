/-
# What a head says

A head is a first line, header lines and a blank line, each ended by CRLF. The handler does
not take it apart: it looks for line ends, spaces and colons in one string and ends the
string where a line ends. For every head it reads the same from it as its grammar says.
The length of the body is a number with blanks around it, or the request is refused.
-/

import EspNmeaBridge.WebApp.RequestMemory

namespace EspNmeaBridge

open CString Pattern ByteMemory

/-! ## A length -/

def isDigit (ch : UInt8) : Prop := 0x30 ≤ ch ∧ ch ≤ 0x39

instance : DecidablePred isDigit := fun ch => inferInstanceAs (Decidable (0x30 ≤ ch ∧ ch ≤ 0x39))

/-- Digits in front of which `parsed` was read. -/
def decimalFrom (parsed : ℕ) (digits : List UInt8) : ℕ :=
  digits.foldl (fun value ch => value * 10 + (ch.toNat - 0x30)) parsed

/-- Blanks, digits and blanks, and the number the digits are. -/
structure IsLength (value : List UInt8) (front digits back : List UInt8) : Prop where
  text : value = front ++ digits ++ back
  front : ∀ ch ∈ front, ch = 0x20 ∨ ch = 0x09
  nonempty : digits ≠ []
  digits : ∀ ch ∈ digits, isDigit ch
  back : ∀ ch ∈ back, ch = 0x20 ∨ ch = 0x09

/-- The number that a value is. -/
def LengthIs (value : List UInt8) (n : ℕ) : Prop :=
  ∃ front digits back, IsLength value front digits back ∧ decimalFrom 0 digits = n

section Length

variable {parsed n : ℕ} {sawDigit : Bool} {digits rest value : List UInt8} {ch : UInt8}

theorem le_decimalFrom (parsed : ℕ) (digits : List UInt8) : parsed ≤ decimalFrom parsed digits := by
  induction digits generalizing parsed with
  | nil => exact le_rfl
  | cons ch digits ih => exact le_trans (by omega) (ih (parsed * 10 + (ch.toNat - 0x30)))

/-- The guard refuses the digit that would exceed `SIZE_MAX`. -/
theorem parseDigits_cons (digit : isDigit ch) :
    parseDigits parsed sawDigit (ch :: rest) =
      if sizeMax < parsed * 10 + (ch.toNat - 0x30) then .error .eoverflow
      else parseDigits (parsed * 10 + (ch.toNat - 0x30)) true rest := by
  have low : 0x30 ≤ ch.toNat := digit.1
  have high : ch.toNat ≤ 0x39 := digit.2
  have value : (ch - 0x30).toNat = ch.toNat - 0x30 := UInt8.toNat_sub_of_le _ _ digit.1
  have guard : (sizeMax - (ch.toNat - 0x30)) / 10 < parsed ↔
      sizeMax < parsed * 10 + (ch.toNat - 0x30) := by
    rw [sizeMax]
    omega
  have both : 0x30 ≤ ch ∧ ch ≤ 0x39 := digit
  simp only [parseDigits, if_pos both, value, guard]

theorem parseDigits_stop (stop : ∀ ch, rest.head? = some ch → ¬ isDigit ch) :
    parseDigits parsed sawDigit rest = .ok (parsed, sawDigit, rest) := by
  cases rest with
  | nil => rfl
  | cons ch rest => exact if_neg (stop ch rfl)

/-- All digits in front are read, if their number fits. -/
theorem parseDigits_append (all : ∀ ch ∈ digits, isDigit ch)
    (stop : ∀ ch, rest.head? = some ch → ¬ isDigit ch) (fits : parsed ≤ sizeMax) :
    parseDigits parsed sawDigit (digits ++ rest) =
      if decimalFrom parsed digits ≤ sizeMax then
        .ok (decimalFrom parsed digits, sawDigit || digits != [], rest)
      else .error .eoverflow := by
  induction digits generalizing parsed sawDigit with
  | nil =>
    rw [List.nil_append, parseDigits_stop stop, decimalFrom, List.foldl_nil, if_pos fits]
    simp
  | cons ch digits ih =>
    obtain ⟨digit, others⟩ := List.forall_mem_cons.mp all
    have grows := le_decimalFrom (parsed * 10 + (ch.toNat - 0x30)) digits
    have unfolds : decimalFrom parsed (ch :: digits) =
        decimalFrom (parsed * 10 + (ch.toNat - 0x30)) digits := rfl
    rw [List.cons_append, parseDigits_cons digit, unfolds]
    split_ifs with exceeds small small
    · omega
    · rfl
    · rw [ih others (not_lt.mp exceeds), if_pos small]
      simp
    · rw [ih others (not_lt.mp exceeds), if_neg small]

theorem isBlank_iff : isBlank ch = true ↔ ch = 0x20 ∨ ch = 0x09 := by
  simp [isBlank]

theorem isBlank_of_digit (digit : isDigit ch) : isBlank ch = false := by
  rw [Bool.eq_false_iff, ne_eq, isBlank_iff]
  rintro (rfl | rfl) <;> exact absurd digit (by decide)

/-- What `parseContentLength` makes of a text that goes on with digits, and then with no digit. -/
theorem parseContentLength_digits (blanks : value.dropWhile isBlank = digits ++ rest)
    (all : ∀ ch ∈ digits, isDigit ch) (stop : ∀ ch, rest.head? = some ch → ¬ isDigit ch) :
    parseContentLength value = .ok n ↔
      decimalFrom 0 digits = n ∧ n ≤ sizeMax ∧ digits ≠ [] ∧ rest.dropWhile isBlank = [] := by
  rw [parseContentLength, blanks, parseDigits_append all stop (Nat.zero_le _)]
  split_ifs with fits
  · by_cases none : digits = []
    · simp [none]
    · by_cases clean : rest.dropWhile isBlank = []
      · simp [none, clean]
        rintro rfl
        exact fits
      · simp [none, clean]
  · constructor
    · rintro ⟨⟩
    · rintro ⟨rfl, small, -⟩
      exact absurd small fits

theorem dropWhile_isBlank_eq_nil :
    rest.dropWhile isBlank = [] ↔ ∀ ch ∈ rest, ch = 0x20 ∨ ch = 0x09 := by
  simp only [List.dropWhile_eq_nil_iff, isBlank_iff]

/-- A text goes on with digits as long as it does. -/
theorem exists_digits_append (text : List UInt8) :
    ∃ digits rest, text = digits ++ rest ∧ (∀ ch ∈ digits, isDigit ch) ∧
      ∀ ch, rest.head? = some ch → ¬ isDigit ch := by
  refine ⟨text.takeWhile isDigit, text.dropWhile isDigit, List.takeWhile_append_dropWhile.symm,
    fun ch member => by simpa using List.mem_takeWhile_imp member, fun ch first => ?_⟩
  have other := List.head?_dropWhile_not (fun ch => decide (isDigit ch)) text
  rw [first] at other
  simpa using other

/-- The value of the header is accepted when it is a length, and as that length. -/
theorem parseContentLength_eq_ok :
    parseContentLength value = .ok n ↔ LengthIs value n ∧ n ≤ sizeMax := by
  constructor
  · intro ok
    obtain ⟨digits, back, split, all, stop⟩ := exists_digits_append (value.dropWhile isBlank)
    obtain ⟨same, fits, nonempty, clean⟩ := (parseContentLength_digits split all stop).mp ok
    refine ⟨⟨value.takeWhile isBlank, digits, back,
      { text := ?_
        front := fun ch member => isBlank_iff.mp (List.mem_takeWhile_imp member)
        nonempty := nonempty
        digits := all
        back := dropWhile_isBlank_eq_nil.mp clean }, same⟩, fits⟩
    rw [List.append_assoc, ← split, List.takeWhile_append_dropWhile]
  · rintro ⟨⟨front, digits, back, length, same⟩, fits⟩
    have blanks : value.dropWhile isBlank = digits ++ back := by
      obtain ⟨first, others, rfl⟩ := List.exists_cons_of_ne_nil length.nonempty
      have notBlank := isBlank_of_digit (length.digits first (List.mem_cons_self ..))
      rw [length.text, List.append_assoc, List.dropWhile_append_of_pos
        fun ch member => isBlank_iff.mpr (length.front ch member), List.cons_append,
        List.dropWhile_cons_of_neg (by simp [notBlank])]
    have stop : ∀ ch, back.head? = some ch → ¬ isDigit ch := by
      intro ch first digit
      have blank := isBlank_iff.mpr (length.back ch (List.mem_of_mem_head? first))
      rw [isBlank_of_digit digit] at blank
      cases blank
    exact (parseContentLength_digits blanks length.digits stop).mpr
      ⟨same, fits, length.nonempty, dropWhile_isBlank_eq_nil.mpr length.back⟩

end Length

/-! ## Lines -/

/-- The first line and the header lines of a head, in which no CRLF occurs. -/
structure HeadLines (head first : List UInt8) (headers : List (List UInt8)) : Prop where
  text : head = (first :: headers).flatMap (· ++ crlf) ++ crlf
  unbroken : ∀ line ∈ first :: headers, ¬ crlf <:+: line

section Lines

variable {head first line rest : List UInt8} {headers : List (List UInt8)}

/-- Every head has lines. -/
theorem IsHead.exists_lines (isHead : IsHead head) :
    ∃ first headers, HeadLines head first headers := by
  obtain ⟨text, rfl⟩ := isHead.1
  obtain ⟨first, headers, whole, unbroken⟩ := exists_pieces (by decide : crlf ≠ []) text
  refine ⟨first, headers, ?_, unbroken⟩
  rw [← whole, List.append_assoc]
  rfl

/-- A line ends where its CRLF begins. -/
theorem cut_crlf_line (unbroken : ¬ crlf <:+: line) (rest : List UInt8) :
    cut crlf (line ++ crlf ++ rest) = some (line, rest) := by
  apply cut_append
  have split : line ++ crlf = line ++ [0x0d] ++ [0x0a] := by
    rw [crlf, List.append_assoc]
    rfl
  have first : ¬ crlf <:+: (line ++ crlf).dropLast := by
    rw [split, List.dropLast_concat]
    intro occurs
    rcases List.infix_concat_iff.mp occurs with last | inside
    · have same := congrArg List.getLast? last.choose_spec
      simp [crlf] at same
    · exact unbroken inside
  have found := find_of_suffix (List.suffix_append line crlf) first
  rwa [List.length_append, Nat.add_sub_cancel] at found

/-- No header line is blank: the head ends at its first blank line. -/
theorem HeadLines.nonempty (lines : HeadLines head first headers) (isHead : IsHead head) :
    ∀ line ∈ headers, line ≠ [] := by
  rintro line member rfl
  obtain ⟨front, back, rfl⟩ := List.append_of_mem member
  -- The CRLF of the line before and that of the blank line.
  obtain ⟨before, last, split⟩ : ∃ before last, first :: front = before ++ [last] :=
    ⟨_, _, (List.dropLast_append_getLast (List.cons_ne_nil first front)).symm⟩
  have text : head = before.flatMap (· ++ crlf) ++ last ++ crlfCrlf ++
      (back.flatMap (· ++ crlf) ++ crlf) := by
    rw [lines.text, ← List.cons_append, split]
    simp [crlf, crlfCrlf]
  apply isHead.2
  rw [text, List.dropLast_append_of_ne_nil (by simp [crlf])]
  exact ⟨_, _, rfl⟩

theorem HeadLines.headText (lines : HeadLines head first headers) (clean : (0 : UInt8) ∉ head) :
    headText head = (first :: headers).flatMap (· ++ crlf) := by
  have short : head.take (head.length - 2) = (first :: headers).flatMap (· ++ crlf) := by
    rw [lines.text, List.length_append]
    exact List.take_left
  rw [EspNmeaBridge.headText, short]
  apply content_eq_self
  intro member
  apply clean
  rw [lines.text]
  exact List.mem_append_left _ member

end Lines

/-! ## Header lines -/

/-- A header line with the name `Content-Length` in upper or lower case, and its value: what
stands behind the first colon. -/
def IsContentLength (line value : List UInt8) : Prop :=
  ∃ name, line = name ++ 0x3A :: value ∧ 0x3A ∉ name ∧
    name.map toLower = (ascii "Content-Length").map toLower

/-- The value that the loop over the header lines reads. -/
def contentLengthValue (line : List UInt8) : Option (List UInt8) :=
  match cut (ascii ":") line with
  | none => none
  | some (name, value) =>
    if headerNameEquals name (ascii "Content-Length") then some value else none

section HeaderLines

variable {line value rest : List UInt8} {headers : List (List UInt8)} {has has' : Bool}
  {length length' : ℕ}

theorem headerNameEquals_iff {name expected : List UInt8} :
    headerNameEquals name expected = true ↔ name.map toLower = expected.map toLower := by
  rw [headerNameEquals, Bool.and_eq_true, beq_iff_eq, beq_iff_eq, and_iff_right_iff_imp]
  intro same
  simpa using congrArg List.length same

theorem contentLengthValue_eq_some :
    contentLengthValue line = some value ↔ IsContentLength line value := by
  rw [contentLengthValue]
  constructor
  · intro read
    cases found : cut (ascii ":") line with
    | none =>
      rw [found] at read
      cases read
    | some parts =>
      obtain ⟨name, behind⟩ := parts
      rw [found] at read
      dsimp only at read
      split_ifs at read with named
      obtain rfl := Option.some.inj read
      obtain ⟨split, absent⟩ := cut_singleton_eq_some.mp found
      exact ⟨name, split, absent, headerNameEquals_iff.mp named⟩
  · rintro ⟨name, split, absent, named⟩
    have found : cut (ascii ":") line = some (name, value) :=
      cut_singleton_eq_some.mpr ⟨split, absent⟩
    rw [found]
    exact if_pos (headerNameEquals_iff.mpr named)

/-- One header line. -/
theorem parseHeaderLines_cons (unbroken : ¬ crlf <:+: line) (nonempty : line ≠ []) :
    parseHeaderLines has length (line ++ crlf ++ rest) =
      match contentLengthValue line with
      | none => parseHeaderLines has length rest
      | some value =>
        match parseContentLength value with
        | .error err => .error err
        | .ok parsed => parseHeaderLines true parsed rest := by
  rw [parseHeaderLines_line (cut_crlf_line unbroken rest) nonempty, contentLengthValue]
  cases cut (ascii ":") line with
  | none => rfl
  | some parts =>
    dsimp only
    split_ifs <;> rfl

/-- All values are read, and the last one counts. -/
theorem parseHeaderLines_eq_ok (unbroken : ∀ line ∈ headers, ¬ crlf <:+: line)
    (nonempty : ∀ line ∈ headers, line ≠ []) :
    parseHeaderLines has length (headers.flatMap (· ++ crlf)) = .ok (has', length') ↔
      let values := headers.filterMap contentLengthValue
      (∀ value ∈ values, ∃ n, parseContentLength value = .ok n) ∧
        has' = (has || !values.isEmpty) ∧ (values = [] → length' = length) ∧
        ∀ value, values.getLast? = some value → parseContentLength value = .ok length' := by
  induction headers generalizing has length with
  | nil =>
    rw [List.flatMap_nil, parseHeaderLines_none rfl]
    simp [eq_comm]
  | cons line headers ih =>
    obtain ⟨whole, others⟩ := List.forall_mem_cons.mp unbroken
    obtain ⟨some_text, others'⟩ := List.forall_mem_cons.mp nonempty
    rw [List.flatMap_cons, parseHeaderLines_cons whole some_text]
    cases read : contentLengthValue line with
    | none => simpa [read] using ih others others'
    | some value =>
      cases parsed : parseContentLength value with
      | error err => simp [read, parsed]
      | ok n =>
        cases values : headers.filterMap contentLengthValue with
        | nil => simpa [read, parsed, values, @eq_comm _ n] using ih others others'
        | cons next more => simpa [read, parsed, values] using ih others others'

end HeaderLines

/-! ## The first line -/

/-- The parts before the first space and between the first two. -/
def RequestLine (first method path : List UInt8) : Prop :=
  ∃ rest, first = method ++ 0x20 :: (path ++ 0x20 :: rest) ∧ 0x20 ∉ method ∧ 0x20 ∉ path

section FirstLine

variable {first method path head : List UInt8} {headers : List (List UInt8)} {has : Bool}
  {length : ℕ}

theorem exists_requestLine_iff :
    (∃ method path, RequestLine first method path) ↔ 2 ≤ first.count 0x20 := by
  constructor
  · rintro ⟨method, path, rest, rfl, -, -⟩
    simp only [List.count_append, List.count_cons_self]
    omega
  · intro two
    have member : 0x20 ∈ first := List.count_pos_iff.mp (by omega)
    obtain ⟨method, target, rfl, noSpace⟩ := List.eq_append_cons_of_mem member
    rw [List.count_append, List.count_eq_zero.mpr noSpace, List.count_cons_self] at two
    have member : 0x20 ∈ target := List.count_pos_iff.mp (by omega)
    obtain ⟨path, rest, rfl, noSpace'⟩ := List.eq_append_cons_of_mem member
    exact ⟨method, path, rest, rfl, noSpace, noSpace'⟩

/-- The head is parsed as its lines are. -/
theorem HeadLines.parse_eq_ok (lines : HeadLines head first headers)
    (clean : (0 : UInt8) ∉ head) :
    parseHttpHead head = .ok ⟨method, path, has, length⟩ ↔
      RequestLine first method path ∧
        parseHeaderLines false 0 (headers.flatMap (· ++ crlf)) = .ok (has, length) := by
  have requestLine : cut crlf (EspNmeaBridge.headText head) =
      some (first, headers.flatMap (· ++ crlf)) := by
    rw [lines.headText clean, List.flatMap_cons]
    exact cut_crlf_line (lines.unbroken first (List.mem_cons_self ..)) _
  have space {text before behind : List UInt8} :
      cut (ascii " ") text = some (before, behind) ↔
        text = before ++ 0x20 :: behind ∧ 0x20 ∉ before := cut_singleton_eq_some
  constructor
  · intro ok
    cases firstSpace : cut (ascii " ") first with
    | none =>
      rw [parseHttpHead_noMethod requestLine firstSpace] at ok
      cases ok
    | some parts =>
      obtain ⟨before, target⟩ := parts
      cases secondSpace : cut (ascii " ") target with
      | none =>
        rw [parseHttpHead_noPath requestLine firstSpace secondSpace] at ok
        cases ok
      | some parts =>
        obtain ⟨between, rest⟩ := parts
        rw [parseHttpHead_line requestLine firstSpace secondSpace] at ok
        cases read : parseHeaderLines false 0 (headers.flatMap (· ++ crlf)) with
        | error err =>
          rw [read] at ok
          cases ok
        | ok lengths =>
          rw [read] at ok
          cases ok
          obtain ⟨rfl, noSpace⟩ := space.mp firstSpace
          obtain ⟨rfl, noSpace'⟩ := space.mp secondSpace
          exact ⟨⟨rest, rfl, noSpace, noSpace'⟩, rfl⟩
  · rintro ⟨⟨rest, rfl, noSpace, noSpace'⟩, read⟩
    rw [parseHttpHead_line requestLine (space.mpr ⟨rfl, noSpace⟩) (space.mpr ⟨rfl, noSpace'⟩),
      read]
    rfl

end FirstLine

/-! ## The received head -/

section Received

variable {head body first : List UInt8} {headers : List (List UInt8)} {has : Bool} {length : ℕ}
  {run : Accessed (Except Errno HttpRequestAt)}

/-- A reception that brings a head parses this head, and points behind it. -/
theorem ReadsHead.parses_head (reads : ReadsHead [] run) (isHead : IsHead head)
    (received : deliveredBytes run.accesses = head ++ body) :
    run.value.map (HttpRequestAt.head run.memory) = parseHttpHead head ∧
      ∀ parsed, run.value = .ok parsed → load run.memory parsed.body parsed.bodyLen = body := by
  have ends : findHeaderEnd (head ++ body) = some (head.length - 4) := by
    rw [isHead.findHeaderEnd List.prefix_rfl, if_pos (by simp)]
  cases reads with
  | gaveUp length stays noHead =>
    dsimp only at received
    rw [List.nil_append, received, ends] at noHead
    cases noHead
  | @parsed memory count headerEnd accesses length fits arrived found each =>
    have parses := parseHttpRequestAt_gathered length fits found
    -- The parser receives nothing, so all of it was in the buffer.
    have nothing : deliveredBytes (parseHttpRequestAt (store memory (headerEnd + 2) [0]) count
        (headerEnd + 4)).accesses = [] :=
      List.flatMap_eq_nil_iff.mpr fun access member => (parses.each access member).2.2
    have whole : memory.take count = head ++ body := by
      rw [arrived, List.nil_append, ← received]
      simp only [Accessed.after, deliveredBytes, List.flatMap_append] at nothing ⊢
      rw [nothing]
      simp [RequestAccess.delivered]
    rw [whole, ends] at found
    have long : 4 ≤ head.length := isHead.1.length_le
    have headerLen : headerEnd + 4 = head.length := by
      rw [← Option.some.inj found, Nat.sub_add_cancel long]
    rw [whole, headerLen] at parses
    refine ⟨?_, ?_⟩
    · have value := parses.value
      rw [List.take_left] at value
      rw [← value, headerLen]
      rfl
    · intro parsed ok
      have rest := (parses.body parsed (by rw [← headerLen]; exact ok)).2.2
      rw [List.drop_left, ← headerLen] at rest
      exact rest

theorem mem_contentLengthValues {value : List UInt8} :
    value ∈ headers.filterMap contentLengthValue ↔
      ∃ line ∈ headers, IsContentLength line value := by
  simp only [List.mem_filterMap, contentLengthValue_eq_some]

/-- When the header lines are accepted. -/
theorem HeadLines.lengths_iff (lines : HeadLines head first headers) (isHead : IsHead head) :
    (∃ has length, parseHeaderLines false 0 (headers.flatMap (· ++ crlf)) = .ok (has, length)) ↔
      ∀ line ∈ headers, ∀ value, IsContentLength line value →
        ∃ n, LengthIs value n ∧ n ≤ sizeMax := by
  have read (has : Bool) (length : ℕ) := @parseHeaderLines_eq_ok headers false has 0 length
    (List.forall_mem_cons.mp lines.unbroken).2 (lines.nonempty isHead)
  constructor
  · rintro ⟨has, length, ok⟩ line member value named
    obtain ⟨n, accepted⟩ := ((read has length).mp ok).1 value
      (mem_contentLengthValues.mpr ⟨line, member, named⟩)
    exact ⟨n, parseContentLength_eq_ok.mp accepted⟩
  · intro numbers
    have accepted : ∀ value ∈ headers.filterMap contentLengthValue,
        ∃ n, parseContentLength value = .ok n := by
      intro value member
      obtain ⟨line, header, named⟩ := mem_contentLengthValues.mp member
      obtain ⟨n, number⟩ := numbers line header value named
      exact ⟨n, parseContentLength_eq_ok.mpr number⟩
    cases last : (headers.filterMap contentLengthValue).getLast? with
    | none =>
      have empty := List.getLast?_eq_none_iff.mp last
      exact ⟨_, 0, (read _ 0).mpr ⟨accepted, rfl, fun _ => rfl, by simp [last]⟩⟩
    | some value =>
      obtain ⟨n, number⟩ := accepted value (List.mem_of_getLast? last)
      refine ⟨_, n, (read _ n).mpr ⟨accepted, rfl, fun empty => ?_, fun other same => ?_⟩⟩
      · simp [empty] at last
      · rw [last] at same
        exact Option.some.inj same ▸ number

/-- What the accepted header lines say. -/
theorem HeadLines.lengths (lines : HeadLines head first headers) (isHead : IsHead head)
    (ok : parseHeaderLines false 0 (headers.flatMap (· ++ crlf)) = .ok (has, length)) :
    (has = true ↔ ∃ line ∈ headers, ∃ value, IsContentLength line value) ∧
      ∀ before line after value, headers = before ++ line :: after →
        IsContentLength line value → (∀ other ∈ after, ∀ value, ¬ IsContentLength other value) →
        LengthIs value length := by
  obtain ⟨-, present, -, last⟩ := (parseHeaderLines_eq_ok
    (List.forall_mem_cons.mp lines.unbroken).2 (lines.nonempty isHead)).mp ok
  constructor
  · have some_value : has = true ↔ ∃ value, value ∈ headers.filterMap contentLengthValue := by
      rw [present]
      cases headers.filterMap contentLengthValue with
      | nil => simp
      | cons value values => simp
    rw [some_value]
    simp only [mem_contentLengthValues]
    constructor
    · rintro ⟨value, line, member, named⟩
      exact ⟨line, member, value, named⟩
    · rintro ⟨line, member, value, named⟩
      exact ⟨value, line, member, named⟩
  · rintro before line after value rfl named others
    have none_after : after.filterMap contentLengthValue = [] := by
      rw [List.eq_nil_iff_forall_not_mem]
      intro other member
      obtain ⟨line, header, named⟩ := mem_contentLengthValues.mp member
      exact others line header other named
    have values : (before ++ line :: after).filterMap contentLengthValue =
        before.filterMap contentLengthValue ++ [value] := by
      rw [List.filterMap_append, List.filterMap_cons, contentLengthValue_eq_some.mpr named,
        none_after]
    exact (parseContentLength_eq_ok.mp (last value (by rw [values, List.getLast?_concat]))).1

/-- Of every head without NUL that was received, the parser reads what its lines say. It
succeeds if and only if the first line has two spaces and the value of each Content-Length
header is a number, at most `SIZE_MAX`, with blanks around it. The method and the path are
then the first two parts of the first line, the length is announced if there is such a
header, and is the number of the last one; the body is what was received behind the head. -/
theorem http_head_exact (request : CharArray webAppRxBufSize) (recvs : List WebRecv)
    {head body : List UInt8} (isHead : IsHead head) (clean : (0 : UInt8) ∉ head)
    (received : deliveredBytes (readHttpRequestAt request.bytes 0 recvs).1.accesses =
      head ++ body) :
    ∃ first headers, HeadLines head first headers ∧
      let run := (readHttpRequestAt request.bytes 0 recvs).1
      ((∃ parsed, run.value = .ok parsed) ↔
        2 ≤ first.count 0x20 ∧ ∀ line ∈ headers, ∀ value, IsContentLength line value →
          ∃ n, LengthIs value n ∧ n ≤ sizeMax) ∧
      ∀ parsed, run.value = .ok parsed →
        RequestLine first (load run.memory parsed.method parsed.methodLen)
          (load run.memory parsed.path parsed.pathLen) ∧
        (parsed.hasContentLength = true ↔
          ∃ line ∈ headers, ∃ value, IsContentLength line value) ∧
        (∀ before line after value, headers = before ++ line :: after →
          IsContentLength line value → (∀ other ∈ after, ∀ value, ¬ IsContentLength other value) →
          LengthIs value parsed.contentLength) ∧
        load run.memory parsed.body parsed.bodyLen = body := by
  obtain ⟨first, headers, lines⟩ := isHead.exists_lines
  obtain ⟨value, rest⟩ := (readHttpRequestAt_start request recvs).parses_head isHead received
  refine ⟨first, headers, lines, ?_, ?_⟩
  · rw [← exists_requestLine_iff, ← lines.lengths_iff isHead]
    constructor
    · rintro ⟨parsed, ok⟩
      rw [ok] at value
      obtain ⟨line, read⟩ := (lines.parse_eq_ok clean).mp value.symm
      exact ⟨⟨_, _, line⟩, _, _, read⟩
    · rintro ⟨⟨method, path, line⟩, has, length, read⟩
      rw [(lines.parse_eq_ok clean).mpr ⟨line, read⟩] at value
      cases result : (readHttpRequestAt request.bytes 0 recvs).1.value with
      | error err =>
        rw [result] at value
        cases value
      | ok parsed => exact ⟨parsed, rfl⟩
  · intro parsed ok
    rw [ok] at value
    obtain ⟨line, read⟩ := (lines.parse_eq_ok clean).mp value.symm
    obtain ⟨present, last⟩ := lines.lengths isHead read
    exact ⟨line, present, last, rest parsed ok⟩

/-- The head of an upload, cut in the blank line, and the beginning of the body. -/
def uploadPieces : List WebRecv :=
  [.received (uploadHead.take 51), .error .eintr, .received (uploadHead.drop 51 ++ [1, 2])]

theorem http_head_exact_upload :
    let run := (readHttpRequestAt (CharArray.zeroed webAppRxBufSize).bytes 0 uploadPieces).1
    ∃ parsed, run.value = .ok parsed ∧ load run.memory parsed.body parsed.bodyLen = [1, 2] := by
  have head : IsHead uploadHead := by
    unfold IsHead
    decide +kernel
  have received : deliveredBytes (readHttpRequestAt (CharArray.zeroed webAppRxBufSize).bytes 0
      uploadPieces).1.accesses = uploadHead ++ [1, 2] := by
    decide +kernel
  obtain ⟨first, headers, -, -, facts⟩ :=
    http_head_exact (.zeroed webAppRxBufSize) uploadPieces head (by decide) received
  have accepted : (readHttpRequestAt (CharArray.zeroed webAppRxBufSize).bytes 0
      uploadPieces).1.value.isOk = true := by
    decide +kernel
  cases result : (readHttpRequestAt (CharArray.zeroed webAppRxBufSize).bytes 0
      uploadPieces).1.value with
  | error err =>
    rw [result] at accepted
    cases accepted
  | ok parsed => exact ⟨parsed, result, (facts parsed result).2.2.2⟩

end Received

end EspNmeaBridge
