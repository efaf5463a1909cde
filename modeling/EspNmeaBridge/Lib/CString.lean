/-
# C strings in fixed-size arrays

A `char[n]` keeps its `n` bytes whatever is stored in it; the string it holds is
what stands before the first NUL. The operations follow the C library: `strcpy`
and `memcpy` leave the bytes they do not reach as they were, and a `strcpy` whose
terminator would land outside the destination has no result.
-/

import Mathlib

namespace CString

/-- The bytes of an ASCII literal. -/
def ascii (text : String) : List UInt8 := text.toList.map Char.toUInt8

/-- The bytes before the first NUL. -/
def content (bytes : List UInt8) : List UInt8 := bytes.takeWhile (· ≠ 0)

@[simp] theorem content_nil : content [] = [] := rfl

theorem zero_notMem_content (bytes : List UInt8) : (0 : UInt8) ∉ content bytes := by
  intro member
  simpa using List.mem_takeWhile_imp member

theorem content_length_le (bytes : List UInt8) : (content bytes).length ≤ bytes.length :=
  (List.takeWhile_prefix _).length_le

/-- What follows a NUL does not belong to the string. -/
@[simp] theorem content_append_zero (text rest : List UInt8) :
    content (text ++ 0 :: rest) = content text := by
  induction text with
  | nil => simp [content]
  | cons b text ih =>
    by_cases zero : b = 0
    · simp [content, zero]
    · simpa [content, zero] using ih

/-- A byte that is no NUL belongs to the string. -/
@[simp] theorem content_cons {b : UInt8} (nonzero : b ≠ 0) (rest : List UInt8) :
    content (b :: rest) = b :: content rest := by
  simp [content, nonzero]

theorem content_append {text : List UInt8} (nonzero : ∀ b ∈ text, b ≠ 0) (rest : List UInt8) :
    content (text ++ rest) = text ++ content rest :=
  List.takeWhile_append_of_pos fun b member => by simpa using nonzero b member

theorem content_eq_self {text : List UInt8} (clean : (0 : UInt8) ∉ text) :
    content text = text := by
  rw [content, List.takeWhile_eq_self_iff]
  intro b member
  simpa using fun zero : b = 0 => clean (zero ▸ member)

/-- `strncmp(a, b, n) == 0`, for byte ranges of which the first `n` bytes can be read. -/
def strncmpEq : List UInt8 → List UInt8 → ℕ → Bool
  | _, _, 0 => true
  | [], [], _ + 1 => true
  | a :: as, b :: bs, n + 1 => a == b && (a == 0 || strncmpEq as bs n)
  | _, _, _ => false

/-- `strlen(a) == n && strncmp(a, b, n) == 0` says that `b` is the string `a` holds. -/
theorem strncmpEq_content {bytes other : List UInt8}
    (sameLength : (content bytes).length = other.length) :
    strncmpEq bytes other other.length = true ↔ content bytes = other := by
  induction bytes generalizing other with
  | nil =>
    obtain rfl : other = [] := List.length_eq_zero_iff.mp sameLength.symm
    simp [strncmpEq]
  | cons a bytes ih =>
    by_cases zero : a = 0
    · have empty : content (a :: bytes) = [] := by simp [content, zero]
      rw [empty] at sameLength ⊢
      obtain rfl : other = [] := List.length_eq_zero_iff.mp sameLength.symm
      simp [strncmpEq]
    · cases other with
      | nil => simp [content, zero] at sameLength
      | cons b other =>
        have rest : (content bytes).length = other.length := by
          simpa [content, zero] using sameLength
        have unfolds : content (a :: bytes) = a :: content bytes := by simp [content, zero]
        simp [strncmpEq, zero, ih rest, unfolds]

/-- A C `char` array. -/
@[ext] structure CharArray (n : ℕ) where
  bytes : List UInt8
  size_eq : bytes.length = n
  deriving DecidableEq, Repr

namespace CharArray

variable {n : ℕ}

/-- The string the array holds. -/
def str (a : CharArray n) : List UInt8 := content a.bytes

/-- `strlen`. -/
def strlen (a : CharArray n) : ℕ := a.str.length

/-- `memchr(a, '\0', sizeof(a)) != NULL`. -/
def terminated (a : CharArray n) : Bool := a.bytes.contains 0

/-- `strcmp(a, b) == 0`. -/
def strcmpEq (a b : CharArray n) : Bool := a.str == b.str

/-- An array of NUL bytes. -/
def zeroed (n : ℕ) : CharArray n := ⟨List.replicate n 0, List.length_replicate⟩

/-- `memcpy(a, src, length of src)`; bytes that would land past the end are cut. -/
def memcpy (a : CharArray n) (src : List UInt8) : CharArray n :=
  ⟨(src ++ a.bytes.drop src.length).take n, by
    rw [List.length_take, List.length_append, List.length_drop, a.size_eq]
    omega⟩

/-- `strcpy(a, src)`, with no result when the terminator does not fit. -/
def strcpy (a : CharArray n) (src : List UInt8) : Option (CharArray n) :=
  if src.length < n then some (a.memcpy (src ++ [0])) else none

/-- A zeroed array into which `src` was copied. -/
def ofBytes (n : ℕ) (src : List UInt8) : CharArray n := (zeroed n).memcpy src

/-- The byte at an index. -/
def byteAt (a : CharArray n) (i : ℕ) : UInt8 := a.bytes.getD i 0

/-- The bytes from an offset on. -/
def slice (a : CharArray n) (offset length : ℕ) : List UInt8 :=
  (a.bytes.drop offset).take length

/-- `a[i] = b`. -/
def setByte (a : CharArray n) (i : ℕ) (b : UInt8) : CharArray n :=
  ⟨a.bytes.set i b, by rw [List.length_set, a.size_eq]⟩

theorem strlen_le (a : CharArray n) : a.strlen ≤ n := by
  simpa [strlen, str, a.size_eq] using content_length_le a.bytes

theorem zero_notMem_str (a : CharArray n) : (0 : UInt8) ∉ a.str := zero_notMem_content _

@[simp] theorem content_str (a : CharArray n) : content a.str = a.str :=
  content_eq_self a.zero_notMem_str

/-- A terminated array is its string, a NUL and what happens to stand behind. -/
theorem bytes_of_terminated {a : CharArray n} (ended : a.terminated = true) :
    ∃ rest, a.bytes = a.str ++ 0 :: rest := by
  have member : (0 : UInt8) ∈ a.bytes := by simpa [terminated] using ended
  obtain ⟨text, rest, split, clean⟩ := List.eq_append_cons_of_mem member
  refine ⟨rest, ?_⟩
  rw [str, split, content_append_zero, content_eq_self clean]

/-- A string that leaves room is followed by a terminator. -/
theorem terminated_of_strlen_lt {a : CharArray n} (room : a.strlen < n) : a.terminated = true := by
  by_contra open_end
  have clean : (0 : UInt8) ∉ a.bytes := by simpa [terminated] using open_end
  have full : a.strlen = n := by rw [strlen, str, content_eq_self clean, a.size_eq]
  omega

/-- A terminated array leaves room for its terminator. -/
theorem strlen_lt_of_terminated {a : CharArray n} (ended : a.terminated = true) :
    a.strlen < n := by
  obtain ⟨rest, split⟩ := bytes_of_terminated ended
  have total := congrArg List.length split
  rw [a.size_eq, List.length_append, List.length_cons] at total
  simp only [strlen]
  omega

@[simp] theorem strcmpEq_iff {a b : CharArray n} : a.strcmpEq b = true ↔ a.str = b.str := by
  simp [strcmpEq]

theorem bytes_memcpy_terminated (a : CharArray n) {src : List UInt8} (fits : src.length < n) :
    (a.memcpy (src ++ [0])).bytes = src ++ 0 :: a.bytes.drop (src.length + 1) := by
  simp only [memcpy, List.length_append, List.length_singleton]
  rw [List.take_of_length_le]
  · simp
  · simp [a.size_eq]
    omega

/-- Writing a text and its terminator stores the text up to its own first NUL. -/
theorem str_memcpy_terminated (a : CharArray n) {src : List UInt8} (fits : src.length < n) :
    (a.memcpy (src ++ [0])).str = content src := by
  rw [str, bytes_memcpy_terminated a fits, content_append_zero]

theorem strcpy_eq_some {a : CharArray n} {src : List UInt8} (fits : src.length < n) :
    a.strcpy src = some (a.memcpy (src ++ [0])) := by
  simp [strcpy, fits]

theorem bytes_ofBytes {src : List UInt8} (fits : src.length ≤ n) :
    (ofBytes n src).bytes = src ++ List.replicate (n - src.length) 0 := by
  simp only [ofBytes, memcpy, zeroed, List.drop_replicate]
  rw [List.take_of_length_le]
  simp
  omega

/-- A whole array copied into one of its size. -/
@[simp] theorem ofBytes_bytes (a : CharArray n) : ofBytes n a.bytes = a := by
  ext1
  rw [bytes_ofBytes a.size_eq.le, a.size_eq]
  simp

/-- Copied into a larger zeroed array, bytes read back up to their first NUL. -/
theorem str_ofBytes {src : List UInt8} (fits : src.length < n) :
    (ofBytes n src).str = content src := by
  have room : n - src.length = (n - src.length - 1) + 1 := by omega
  rw [str, bytes_ofBytes fits.le, room, List.replicate_succ, content_append_zero]

theorem terminated_ofBytes {src : List UInt8} (fits : src.length < n) :
    (ofBytes n src).terminated = true := by
  have room : n - src.length ≠ 0 := by omega
  simp [terminated, bytes_ofBytes fits.le, room]

/-- A string copied into a zeroed array that has room for it. -/
theorem ofBytes_str {m : ℕ} (a : CharArray n) (fits : a.strlen < m) :
    (ofBytes m a.str).str = a.str ∧ (ofBytes m a.str).strlen = a.strlen ∧
      (ofBytes m a.str).terminated = true := by
  have same : (ofBytes m a.str).str = a.str := (str_ofBytes fits).trans a.content_str
  exact ⟨same, by rw [strlen, same, strlen], terminated_ofBytes fits⟩

theorem byteAt_eq {a : CharArray n} {front rest : List UInt8} {b : UInt8} {i : ℕ}
    (bytes : a.bytes = front ++ b :: rest) (index : front.length = i) : a.byteAt i = b := by
  subst index
  simp [byteAt, bytes, List.getD_eq_getElem?_getD]

theorem slice_eq {a : CharArray n} {front text rest : List UInt8} {offset : ℕ}
    (bytes : a.bytes = front ++ (text ++ rest)) (start : front.length = offset) :
    a.slice offset text.length = text := by
  subst start
  simp [slice, bytes]

/-- `a[0] == '\0'` asks for the empty string. -/
@[simp] theorem byteAt_zero_eq_zero {a : CharArray n} : a.byteAt 0 = 0 ↔ a.str = [] := by
  cases bytes : a.bytes with
  | nil => simp [byteAt, str, bytes]
  | cons b rest => by_cases zero : b = 0 <;> simp [byteAt, str, bytes, content, zero]

/-- Cleared at its first byte, an array holds the empty string. -/
theorem str_setByte_zero (a : CharArray n) : (a.setByte 0 0).str = [] := by
  cases bytes : a.bytes <;> simp [setByte, str, bytes, content]

end CharArray

end CString
