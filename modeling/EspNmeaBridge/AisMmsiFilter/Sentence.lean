/-
# Which frames the filter takes for VDM sentences

The four scanners of the filter work on byte ranges with indices. This file says
what a VDM sentence is without them, as a grammar over the bytes of a frame, and
shows scanner by scanner that the filter reads exactly that: whatever is outside
the grammar passes without a trace, and a first fragment inside it is dropped for
its MMSI alone.
-/

import EspNmeaBridge.AisMmsiFilter

namespace EspNmeaBridge

open CString

/-! ## The grammar -/

/-- A hexadecimal digit of either case and its value. -/
def IsHexDigit (digit : UInt8) (value : ℕ) : Prop :=
  (ascii "0123456789ABCDEF")[value]? = some digit ∨
    (ascii "0123456789abcdef")[value]? = some digit

instance (digit : UInt8) (value : ℕ) : Decidable (IsHexDigit digit value) :=
  inferInstanceAs (Decidable (_ ∨ _))

/-- A decimal number of one to three digits and its value. -/
def IsDecimal (field : List UInt8) (value : ℕ) : Prop :=
  ∃ digits : List ℕ, 1 ≤ digits.length ∧ digits.length ≤ 3 ∧ (∀ d ∈ digits, d < 10) ∧
    field = digits.map (fun d => UInt8.ofNat ('0'.toNat + d)) ∧
    value = Nat.ofDigits 10 digits.reverse

/-- The exclusive or of all bytes. -/
def xorSum (bytes : List UInt8) : UInt8 := bytes.foldl (· ^^^ ·) 0

/-- A frame that carries this body between its start character and a checksum that
is right; whatever stands behind the checksum does not matter. -/
def IsSentence (frame : Frame) (body : List UInt8) : Prop :=
  ∃ (start hi lo : UInt8) (rest : List UInt8) (high low : ℕ),
    frame = start :: body ++ '*'.toUInt8 :: hi :: lo :: rest ∧
    (start = '!'.toUInt8 ∨ start = '$'.toUInt8) ∧ '*'.toUInt8 ∉ body ∧
    IsHexDigit hi high ∧ IsHexDigit lo low ∧ 16 * high + low = (xorSum body).toNat

/-- A VDM sentence: at least seven comma-separated fields, a formatter of five bytes
that ends in `VDM`, and a fragment number from 1 to the total. Both numbers are
numbers of eight bits. -/
structure IsVdmSentence (frame : Frame) (vdm : VdmFields) : Prop where
  fields : ∃ (body : List UInt8) (a b : UInt8) (total fragment fill : List UInt8)
      (more : List (List UInt8)),
    IsSentence frame body ∧
    body.splitOn ','.toUInt8 =
      (a :: b :: ascii "VDM") :: total :: fragment :: vdm.sequenceId :: vdm.channel ::
        vdm.payload :: fill :: more ∧
    IsDecimal total vdm.total.toNat ∧ IsDecimal fragment vdm.fragment.toNat
  one_le_fragment : 1 ≤ vdm.fragment
  fragment_le_total : vdm.fragment ≤ vdm.total

/-! ## What the scanners accept -/

theorem IsHexDigit.value_lt {digit : UInt8} {value : ℕ} (isDigit : IsHexDigit digit value) :
    value < 16 := by
  rcases isDigit with found | found <;>
    simpa [ascii] using (List.getElem?_eq_some_iff.mp found).1

theorem hexValue_eq_some {ch value : UInt8} :
    hexValue ch = some value ↔ IsHexDigit ch value.toNat := by
  constructor
  · have sound : ∀ ch : UInt8, (hexValue ch).all fun v => IsHexDigit ch v.toNat := by
      decide +kernel
    intro found
    simpa [found] using sound ch
  · have complete : ∀ v < 16, (ascii "0123456789ABCDEF")[v]?.bind hexValue = some (UInt8.ofNat v) ∧
        (ascii "0123456789abcdef")[v]?.bind hexValue = some (UInt8.ofNat v) := by
      decide +kernel
    intro isDigit
    have read := complete value.toNat isDigit.value_lt
    rw [UInt8.ofNat_toNat] at read
    rcases isDigit with found | found
    · simpa [found] using read.1
    · simpa [found] using read.2

private theorem modifyHead_nil_append (fields : List (List UInt8)) :
    fields.modifyHead ([] ++ ·) = fields := by
  cases fields <;> rfl

/-- The fields stored so far and those still to come, as far as they are wanted. -/
theorem splitFieldsFrom_eq (fieldCount : ℕ) (fields : List (List UInt8))
    (room : fields.length ≤ fieldCount) (field body : List UInt8) :
    splitFieldsFrom fieldCount fields field body =
      let all := fields ++ (body.splitOn ','.toUInt8).modifyHead (field ++ ·)
      if fieldCount ≤ all.length then some (all.take fieldCount) else none := by
  -- Once all wanted fields are there, nothing behind them matters.
  have stored (fields : List (List UInt8)) (room : fields.length ≤ fieldCount)
      (full : fieldCount ≤ fields.length) (more : List (List UInt8)) :
      (if fieldCount ≤ (fields ++ more).length then some ((fields ++ more).take fieldCount)
        else none) = some fields := by
    rw [if_pos (by simp; omega), List.take_append_of_le_length full, List.take_of_length_le room]
  induction body generalizing fields field with
  | nil =>
    simp only [splitFieldsFrom, List.splitOn_nil, List.modifyHead_cons, List.append_nil]
    by_cases full : fieldCount ≤ fields.length
    · rw [if_pos full, stored fields room full]
    · rw [if_neg full, List.take_of_length_le (by simp; omega)]
  | cons b rest ih =>
    rw [splitFieldsFrom, List.splitOn_cons_eq_if_modifyHead]
    by_cases comma : b = ','.toUInt8
    · subst comma
      simp only [ne_eq, not_true_eq_false, if_false, beq_self_eq_true, if_true,
        List.modifyHead_cons, List.append_nil]
      by_cases full : fieldCount ≤ fields.length
      · rw [if_pos full, stored fields room full]
      · -- The comma closes the field; the rest of the body starts the next one.
        rw [if_neg full, ih (fields ++ [field]) (by simp; omega) [], modifyHead_nil_append]
        simp only [List.append_assoc, List.singleton_append]
    · simp only [ne_eq, comma, not_false_eq_true, if_true, beq_iff_eq, if_false]
      rw [ih fields room]
      simp [Function.comp_def, List.modifyHead_modifyHead]

/-- The field split is that of the whole body, cut behind the wanted fields. -/
theorem splitFields_eq (body : List UInt8) (fieldCount : ℕ) :
    splitFields body fieldCount =
      if fieldCount ≤ (body.splitOn ','.toUInt8).length then
        some ((body.splitOn ','.toUInt8).take fieldCount)
      else none := by
  rw [splitFields, splitFieldsFrom_eq fieldCount [] (by simp), modifyHead_nil_append]
  simp only [List.nil_append]

/-- The test for a decimal digit and the value behind it. -/
theorem digit_iff (b : UInt8) :
    ('0'.toUInt8 ≤ b ∧ b ≤ '9'.toUInt8) ↔
      (b - '0'.toUInt8).toNat < 10 ∧ b = UInt8.ofNat ('0'.toNat + (b - '0'.toUInt8).toNat) := by
  revert b
  decide +kernel

theorem digit_value {d : ℕ} (small : d < 10) :
    '0'.toUInt8 ≤ UInt8.ofNat ('0'.toNat + d) ∧ UInt8.ofNat ('0'.toNat + d) ≤ '9'.toUInt8 ∧
      (UInt8.ofNat ('0'.toNat + d) - '0'.toUInt8).toNat = d := by
  revert d
  decide

/-- The value of digits appended to a number that was read before them. -/
private def appendDigits (parsed : ℕ) (digits : List ℕ) : ℕ :=
  10 ^ digits.length * parsed + Nat.ofDigits 10 digits.reverse

private theorem appendDigits_cons (parsed d : ℕ) (digits : List ℕ) :
    appendDigits parsed (d :: digits) = appendDigits (parsed * 10 + d) digits := by
  simp only [appendDigits, List.length_cons, List.reverse_cons, Nat.ofDigits_append,
    List.length_reverse, Nat.ofDigits_singleton, pow_succ]
  ring

private theorem le_appendDigits (parsed : ℕ) (digits : List ℕ) :
    parsed ≤ appendDigits parsed digits := by
  have := Nat.le_mul_of_pos_left parsed (Nat.pow_pos (n := digits.length) (by decide : 0 < 10))
  unfold appendDigits
  omega

/-- Digits read onto a number, as long as nothing exceeds eight bits. -/
theorem parseUintDigits_eq_some {parsed n : ℕ} {field : List UInt8} :
    parseUintDigits parsed field = some n ↔
      ∃ digits : List ℕ, (∀ d ∈ digits, d < 10) ∧
        field = digits.map (fun d => UInt8.ofNat ('0'.toNat + d)) ∧
        n = appendDigits parsed digits ∧ (digits = [] ∨ n ≤ 255) := by
  induction field generalizing parsed with
  | nil =>
    constructor
    · intro read
      obtain rfl := Option.some.inj read
      exact ⟨[], by simp, rfl, by simp [appendDigits], Or.inl rfl⟩
    · rintro ⟨digits, -, empty, rfl, -⟩
      obtain rfl : digits = [] := List.map_eq_nil_iff.mp empty.symm
      simp [parseUintDigits, appendDigits]
  | cons b rest ih =>
    rw [parseUintDigits]
    constructor
    · intro read
      dsimp only at read
      split_ifs at read with digit large
      obtain ⟨digits, small, rfl, rfl, bound⟩ := ih.mp read
      obtain ⟨d_small, b_eq⟩ := (digit_iff b).mp digit
      refine ⟨(b - '0'.toUInt8).toNat :: digits, ?_, ?_, (appendDigits_cons _ _ _).symm, ?_⟩
      · simpa [d_small] using small
      · rw [List.map_cons, ← b_eq]
      · -- With no digit left the bound is the one just checked.
        rcases bound with rfl | bound
        · simp only [appendDigits] at large ⊢
          simp at large ⊢
          omega
        · exact Or.inr bound
    · rintro ⟨digits, small, shape, rfl, bound⟩
      cases digits with
      | nil => simp at shape
      | cons d digits =>
        obtain ⟨rfl, rfl⟩ := List.cons.inj shape
        obtain ⟨low, high, value⟩ := digit_value (small d (by simp))
        have bound := bound.resolve_left (by simp)
        rw [appendDigits_cons] at bound
        have fits := (le_appendDigits (parsed * 10 + d) digits).trans bound
        rw [if_pos ⟨low, high⟩, value, if_neg (by omega)]
        exact ih.mpr ⟨digits, fun d' member => small d' (by simp [member]), rfl,
          appendDigits_cons _ _ _, Or.inr ((appendDigits_cons _ _ _).trans_le bound)⟩

theorem parseUintField_eq_some {field : List UInt8} {value : UInt8} :
    parseUintField field = some value ↔ IsDecimal field value.toNat := by
  unfold parseUintField IsDecimal
  split_ifs with badLength
  · refine iff_of_false (by simp) ?_
    rintro ⟨digits, nonempty, short, -, rfl, -⟩
    rw [List.length_map] at badLength
    omega
  · rw [Option.map_eq_some_iff]
    constructor
    · rintro ⟨n, read, rfl⟩
      obtain ⟨digits, small, rfl, rfl, bound⟩ := parseUintDigits_eq_some.mp read
      simp only [List.length_map] at badLength
      refine ⟨digits, by omega, by omega, small, rfl, ?_⟩
      have fits := bound.resolve_left (by rintro rfl; simp at badLength)
      simp [appendDigits] at fits ⊢
      omega
    · rintro ⟨digits, nonempty, short, small, rfl, value_eq⟩
      refine ⟨value.toNat, parseUintDigits_eq_some.mpr
        ⟨digits, small, rfl, by simpa [appendDigits] using value_eq, Or.inr ?_⟩, by simp⟩
      have := value.toNat_lt
      omega

theorem formatterIsVdm_iff {formatter : List UInt8} :
    formatterIsVdm formatter = true ↔ ∃ a b, formatter = a :: b :: ascii "VDM" := by
  constructor
  · intro isVdm
    match formatter, isVdm with
    | [a, b, v, d, m], isVdm =>
      simp only [formatterIsVdm, Bool.and_eq_true, beq_iff_eq] at isVdm
      obtain ⟨⟨⟨-, rfl⟩, rfl⟩, rfl⟩ := isVdm
      exact ⟨a, b, rfl⟩
  · rintro ⟨a, b, rfl⟩
    rfl

theorem findStar_of_notMem (start : UInt8) {tail : List UInt8} (none : '*'.toUInt8 ∉ tail) :
    findStar (start :: tail) = 0 := by
  have unfound : tail.findIdx? (· == '*'.toUInt8) = .none := by
    rw [List.findIdx?_eq_none_iff]
    intro b member
    simpa using fun same : b = '*'.toUInt8 => none (same ▸ member)
  simp only [findStar, List.drop_succ_cons, List.drop_zero, unfound]

theorem findStar_append (start : UInt8) {body : List UInt8} (clean : '*'.toUInt8 ∉ body)
    (rest : List UInt8) : findStar (start :: body ++ '*'.toUInt8 :: rest) = body.length + 1 := by
  have found : (body ++ '*'.toUInt8 :: rest).findIdx? (· == '*'.toUInt8) = some body.length := by
    induction body with
    | nil => rfl
    | cons b body ih =>
      obtain ⟨other, clean⟩ := not_or.mp (mt List.mem_cons.mpr clean)
      simp [List.findIdx?_cons, Ne.symm other, ih clean]
  simp only [findStar, List.cons_append, List.drop_succ_cons, List.drop_zero, found]

/-- Two nibbles put together, and the same as numbers. -/
theorem nibbles_eq_iff {hi lo sum : UInt8} (hiSmall : hi.toNat < 16) (loSmall : lo.toNat < 16) :
    sum = hi <<< 4 ||| lo ↔ 16 * hi.toNat + lo.toNat = sum.toNat := by
  have all : ∀ hi < 16, ∀ lo < 16,
      (UInt8.ofNat hi <<< 4 ||| UInt8.ofNat lo).toNat = 16 * hi + lo := by
    decide +kernel
  have together := all hi.toNat hiSmall lo.toNat loSmall
  rw [UInt8.ofNat_toNat, UInt8.ofNat_toNat] at together
  rw [← UInt8.toNat_inj, together]
  exact eq_comm

/-- What the checksum test computes on a frame cut at its first star. -/
theorem checksumIsValid_of_star (start : UInt8) {body : List UInt8}
    (clean : '*'.toUInt8 ∉ body) (tail : List UInt8) (bodyStart bodyLen : ℕ) :
    checksumIsValid (start :: body ++ '*'.toUInt8 :: tail) = some (bodyStart, bodyLen) ↔
      3 ≤ body.length + tail.length ∧ (start = '!'.toUInt8 ∨ start = '$'.toUInt8) ∧
        (∃ hi lo rest high low, tail = hi :: lo :: rest ∧ hexValue hi = some high ∧
          hexValue lo = some low ∧ xorSum body = high <<< 4 ||| low) ∧
        bodyStart = 1 ∧ bodyLen = body.length := by
  have length : (start :: body ++ '*'.toUInt8 :: tail).length = body.length + tail.length + 2 := by
    simp
    omega
  have start_eq : (start :: body ++ '*'.toUInt8 :: tail).getD 0 0 = start := rfl
  -- The two digits stand right behind the first star.
  have behind (k : ℕ) :
      (start :: body ++ '*'.toUInt8 :: tail).getD (body.length + 1 + (k + 1)) 0 =
        tail.getD k 0 := by
    have regroup : start :: body ++ '*'.toUInt8 :: tail =
        (start :: body ++ ['*'.toUInt8]) ++ tail := by simp
    rw [regroup, List.getD_append_right _ _ _ _ (by simp)]
    congr 1
    simp
    omega
  have summed : ((start :: body ++ '*'.toUInt8 :: tail).drop 1).take (body.length + 1 - 1) =
      body := by
    simp
  simp only [checksumIsValid, length, start_eq, findStar_append start clean, summed, behind 0,
    behind 1]
  -- Fewer than two bytes behind the star are too few.
  rcases tail with _ | ⟨hi, _ | ⟨lo, rest⟩⟩
  · simp
  · simp
  · simp only [List.getD_cons_zero, List.getD_cons_succ]
    cases hiValue : hexValue hi with
    | none => simp [hiValue]
    | some high =>
      cases loValue : hexValue lo with
      | none => simp [loValue]
      | some low =>
        simp [hiValue, loValue, xorSum, ← or_iff_not_imp_left, and_assoc, @eq_comm _ 1 bodyStart,
          @eq_comm _ body.length bodyLen]

/-- The checksum test accepts sentences of five bytes and more, and finds their body. -/
theorem checksumIsValid_iff {frame : Frame} {bodyStart bodyLen : ℕ} :
    checksumIsValid frame = some (bodyStart, bodyLen) ↔
      5 ≤ frame.length ∧ bodyStart = 1 ∧
        ∃ body, IsSentence frame body ∧ bodyLen = body.length := by
  constructor
  · intro valid
    -- A valid frame has a start character, and a star behind it.
    cases frame with
    | nil => simp [checksumIsValid] at valid
    | cons start text =>
      by_cases starred : '*'.toUInt8 ∈ text
      · obtain ⟨body, tail, rfl, clean⟩ := List.eq_append_cons_of_mem starred
        obtain ⟨long, isStart, ⟨hi, lo, rest, high, low, rfl, hiValue, loValue, sum⟩, rfl, rfl⟩ :=
          (checksumIsValid_of_star start clean tail bodyStart bodyLen).mp valid
        have hiDigit := hexValue_eq_some.mp hiValue
        have loDigit := hexValue_eq_some.mp loValue
        refine ⟨?_, rfl, body, ⟨start, hi, lo, rest, high.toNat, low.toNat, by simp, isStart,
          clean, hiDigit, loDigit, ?_⟩, rfl⟩
        · simp at long ⊢
          omega
        · exact (nibbles_eq_iff hiDigit.value_lt loDigit.value_lt).mp sum
      · simp [checksumIsValid, findStar_of_notMem start starred] at valid
  · rintro ⟨long, rfl, body,
      ⟨start, hi, lo, rest, high, low, rfl, isStart, clean, hiDigit, loDigit, sum⟩, rfl⟩
    rw [checksumIsValid_of_star start clean]
    have digitValue {digit : UInt8} {value : ℕ} (isDigit : IsHexDigit digit value) :
        (UInt8.ofNat value).toNat = value := by
      have := isDigit.value_lt
      simp
      omega
    have hiEq := digitValue hiDigit
    have loEq := digitValue loDigit
    refine ⟨by simp at long ⊢; omega, isStart,
      ⟨hi, lo, rest, UInt8.ofNat high, UInt8.ofNat low, rfl, ?_, ?_, ?_⟩, rfl, rfl⟩
    · exact hexValue_eq_some.mpr (hiEq.symm ▸ hiDigit)
    · exact hexValue_eq_some.mpr (loEq.symm ▸ loDigit)
    · have hiSmall : (UInt8.ofNat high).toNat < 16 := by rw [hiEq]; exact hiDigit.value_lt
      have loSmall : (UInt8.ofNat low).toNat < 16 := by rw [loEq]; exact loDigit.value_lt
      rw [nibbles_eq_iff hiSmall loSmall, hiEq, loEq]
      exact sum

private theorem one_le_iff {a : UInt8} : 1 ≤ a ↔ a ≠ 0 := by
  rw [UInt8.le_iff_toNat_le, ne_eq, ← UInt8.toNat_inj]
  exact Nat.one_le_iff_ne_zero

/-- What `parseVdm` reads of a frame whose checksum is right. -/
theorem parseVdm_of_checksum {frame : Frame} {bodyStart bodyLen : ℕ} {vdm : VdmFields}
    (valid : checksumIsValid frame = some (bodyStart, bodyLen)) :
    parseVdm frame = some vdm ↔
      ∃ (a b : UInt8) (total fragment fill : List UInt8) (more : List (List UInt8)),
        ((frame.drop bodyStart).take bodyLen).splitOn ','.toUInt8 =
          (a :: b :: ascii "VDM") :: total :: fragment :: vdm.sequenceId :: vdm.channel ::
            vdm.payload :: fill :: more ∧
        IsDecimal total vdm.total.toNat ∧ IsDecimal fragment vdm.fragment.toNat ∧
        1 ≤ vdm.fragment ∧ vdm.fragment ≤ vdm.total := by
  simp only [parseVdm, valid, Option.bind_eq_bind, Option.bind_some, splitFields_eq]
  generalize ((frame.drop bodyStart).take bodyLen).splitOn ','.toUInt8 = fields
  rcases fields with _ | ⟨formatter, _ | ⟨total, _ | ⟨fragment, _ | ⟨sequenceId,
    _ | ⟨channel, _ | ⟨payload, _ | ⟨fill, more⟩⟩⟩⟩⟩⟩⟩
  -- Fewer than seven fields are not read.
  iterate 7
    · simp
  · -- With seven fields each scanner looks at one of them.
    rw [if_pos (by simp)]
    simp only [Option.bind_some, List.take_succ_cons, List.take_zero, List.getD_cons_zero,
      List.getD_cons_succ]
    constructor
    · intro parsed
      split at parsed
      · simp at parsed
      · rename_i isVdm
        obtain ⟨a, b, rfl⟩ := formatterIsVdm_iff.mp (by simpa using isVdm)
        obtain ⟨totalValue, totalRead, parsed⟩ := Option.bind_eq_some_iff.mp parsed
        obtain ⟨fragmentValue, fragmentRead, parsed⟩ := Option.bind_eq_some_iff.mp parsed
        split at parsed
        · simp at parsed
        · rename_i sensible
          simp only [Option.pure_def, Option.some.injEq] at parsed
          subst parsed
          obtain ⟨-, fragmentNonzero, ordered⟩ := by simpa only [not_or] using sensible
          exact ⟨a, b, total, fragment, fill, more, rfl, parseUintField_eq_some.mp totalRead,
            parseUintField_eq_some.mp fragmentRead, one_le_iff.mpr fragmentNonzero,
            UInt8.not_lt.mp ordered⟩
    · rintro ⟨a, b, total, fragment, fill, more, shape, isTotal, isFragment, low, high⟩
      simp only [List.cons.injEq] at shape
      obtain ⟨rfl, rfl, rfl, rfl, rfl, rfl, rfl, rfl⟩ := shape
      have isVdm : formatterIsVdm (a :: b :: ascii "VDM") = true :=
        formatterIsVdm_iff.mpr ⟨a, b, rfl⟩
      have fragmentNonzero : vdm.fragment ≠ 0 := one_le_iff.mp low
      have totalNonzero : vdm.total ≠ 0 := one_le_iff.mp (UInt8.le_trans low high)
      rw [isVdm, parseUintField_eq_some.mpr isTotal, parseUintField_eq_some.mpr isFragment]
      simp [fragmentNonzero, totalNonzero, UInt8.not_lt.mpr high]

theorem IsSentence.body_eq {frame : Frame} {body : List UInt8} (sentence : IsSentence frame body) :
    (frame.drop 1).take body.length = body := by
  obtain ⟨start, hi, lo, rest, -, -, rfl, -⟩ := sentence
  simp

/-- What `parseVdm` reads is what the grammar says. -/
theorem parseVdm_eq_some_iff {frame : Frame} {vdm : VdmFields} :
    parseVdm frame = some vdm ↔ IsVdmSentence frame vdm := by
  constructor
  · intro parsed
    cases valid : checksumIsValid frame with
    | none => simp [parseVdm, valid] at parsed
    | some found =>
      obtain ⟨-, start_eq, body, sentence, length_eq⟩ := checksumIsValid_iff.mp valid
      rw [parseVdm_of_checksum valid, start_eq, length_eq, sentence.body_eq] at parsed
      obtain ⟨a, b, total, fragment, fill, more, fields, isTotal, isFragment, low, high⟩ := parsed
      exact ⟨⟨body, a, b, total, fragment, fill, more, sentence, fields, isTotal, isFragment⟩,
        low, high⟩
  · rintro ⟨⟨body, a, b, total, fragment, fill, more, sentence, fields, isTotal, isFragment⟩,
      low, high⟩
    have long : 5 ≤ frame.length := by
      -- An empty body has one field only.
      have nonempty : body ≠ [] := by
        rintro rfl
        simp at fields
      have := List.length_pos_of_ne_nil nonempty
      obtain ⟨start, hi, lo, rest, -, -, rfl, -⟩ := sentence
      simp
      omega
    have valid : checksumIsValid frame = some (1, body.length) :=
      checksumIsValid_iff.mpr ⟨long, rfl, body, sentence, rfl⟩
    rw [parseVdm_of_checksum valid, sentence.body_eq]
    exact ⟨a, b, total, fragment, fill, more, fields, isTotal, isFragment, low, high⟩

/-! ## Writing a sentence -/

/-- A number as a field carries it. -/
def decimalField (n : ℕ) : List UInt8 :=
  (Nat.digits 10 n).reverse.map fun d => UInt8.ofNat ('0'.toNat + d)

/-- The hexadecimal digit of a nibble. -/
def nibbleDigit (value : ℕ) : UInt8 := (ascii "0123456789ABCDEF").getD value 0

/-- The body that carries these fields. -/
def vdmBody (vdm : VdmFields) : List UInt8 :=
  [','.toUInt8].intercalate [ascii "AIVDM", decimalField vdm.total.toNat,
    decimalField vdm.fragment.toNat, vdm.sequenceId, vdm.channel, vdm.payload, ascii "0"]

/-- The sentence that carries these fields. -/
def vdmSentence (vdm : VdmFields) : Frame :=
  '!'.toUInt8 :: vdmBody vdm ++ '*'.toUInt8 ::
    nibbleDigit ((xorSum (vdmBody vdm)).toNat / 16) ::
    nibbleDigit ((xorSum (vdmBody vdm)).toNat % 16) :: ascii "\r\n"

theorem isHexDigit_nibbleDigit {value : ℕ} (small : value < 16) :
    IsHexDigit (nibbleDigit value) value := by
  have inside : value < (ascii "0123456789ABCDEF").length := small
  refine Or.inl ?_
  rw [nibbleDigit, List.getElem?_eq_getElem inside, List.getD_eq_getElem _ _ inside]

theorem isDecimal_decimalField {n : ℕ} (positive : 1 ≤ n) (small : n < 256) :
    IsDecimal (decimalField n) n := by
  have nonempty : Nat.digits 10 n ≠ [] := Nat.digits_ne_nil_iff_ne_zero.mpr (by omega)
  refine ⟨(Nat.digits 10 n).reverse, ?_, ?_, ?_, rfl, ?_⟩
  · rw [List.length_reverse]
    exact List.length_pos_of_ne_nil nonempty
  · rw [List.length_reverse, Nat.digits_length_le_iff (by decide)]
    exact small.trans (by decide)
  · intro d member
    exact Nat.digits_lt_base (by decide) (List.mem_reverse.mp member)
  · rw [List.reverse_reverse, Nat.ofDigits_digits]

/-- A digit is neither a comma nor a star. -/
theorem IsDecimal.plain {field : List UInt8} {n : ℕ} (decimal : IsDecimal field n) :
    ','.toUInt8 ∉ field ∧ '*'.toUInt8 ∉ field := by
  obtain ⟨digits, -, -, small, rfl, -⟩ := decimal
  have apart (b : UInt8) (low : b < '0'.toUInt8) :
      b ∉ digits.map fun d => UInt8.ofNat ('0'.toNat + d) := by
    intro member
    obtain ⟨d, inside, rfl⟩ := List.mem_map.mp member
    exact UInt8.not_lt.mpr (digit_value (small d inside)).1 low
  exact ⟨apart _ (by decide), apart _ (by decide)⟩

private theorem notMem_intercalate {separator x : UInt8} (apart : x ≠ separator)
    {parts : List (List UInt8)} (clean : ∀ part ∈ parts, x ∉ part) :
    x ∉ [separator].intercalate parts := by
  induction parts with
  | nil => simp
  | cons part rest ih =>
    rw [List.forall_mem_cons] at clean
    cases rest with
    | nil => simpa using clean.1
    | cons next rest =>
      have behind := ih clean.2
      rw [List.intercalate_cons_cons]
      simp [apart, clean.1, behind]

/-- Fields without commas and stars are read back from the sentence that carries them. -/
theorem isVdmSentence_vdmSentence {vdm : VdmFields} (low : 1 ≤ vdm.fragment)
    (high : vdm.fragment ≤ vdm.total)
    (plain : ∀ field ∈ [vdm.sequenceId, vdm.channel, vdm.payload],
      ','.toUInt8 ∉ field ∧ '*'.toUInt8 ∉ field) : IsVdmSentence (vdmSentence vdm) vdm := by
  have total := isDecimal_decimalField (UInt8.le_iff_toNat_le.mp (UInt8.le_trans low high))
    vdm.total.toNat_lt
  have fragment := isDecimal_decimalField (UInt8.le_iff_toNat_le.mp low) vdm.fragment.toNat_lt
  have plainFields : ∀ field ∈ [ascii "AIVDM", decimalField vdm.total.toNat,
      decimalField vdm.fragment.toNat, vdm.sequenceId, vdm.channel, vdm.payload, ascii "0"],
      ','.toUInt8 ∉ field ∧ '*'.toUInt8 ∉ field := by
    simp only [List.forall_mem_cons, List.not_mem_nil, false_implies, implies_true,
      and_true] at plain ⊢
    exact ⟨by decide, total.plain, fragment.plain, plain.1, plain.2.1, plain.2.2, by decide⟩
  have starless : '*'.toUInt8 ∉ vdmBody vdm :=
    notMem_intercalate (by decide) fun field member => (plainFields field member).2
  have sum := (xorSum (vdmBody vdm)).toNat_lt
  refine ⟨⟨vdmBody vdm, 'A'.toUInt8, 'I'.toUInt8, _, _, ascii "0", [], ?_,
    List.splitOn_intercalate _ (fun field member => (plainFields field member).1) (by simp),
    total, fragment⟩, low, high⟩
  exact ⟨'!'.toUInt8, _, _, ascii "\r\n", _, _, rfl, Or.inl rfl, starless,
    isHexDigit_nibbleDigit (by omega), isHexDigit_nibbleDigit (by omega), by omega⟩

/-! ## The verdict on one frame -/

/-- Frames outside the grammar pass and leave no trace; a first fragment inside it
is dropped exactly when it carries the own MMSI. -/
theorem frame_acceptance_exact (filter : AisMmsiFilter) (active : filter.ownMmsi ≠ 0)
    (frame : Frame) :
    ((¬ ∃ vdm, IsVdmSentence frame vdm) →
      aisMmsiFilterShouldDrop filter frame = (filter, false)) ∧
    ∀ vdm, IsVdmSentence frame vdm → vdm.fragment = 1 →
      ((aisMmsiFilterShouldDrop filter frame).2 = true ↔
        decodeMmsi vdm.payload = some filter.ownMmsi) := by
  simp only [← parseVdm_eq_some_iff]
  rcases shouldDrop_cases filter frame with
    ⟨step, passes⟩ | ⟨vdm, parsed, later, -, step⟩ | ⟨vdm, parsed, isFirst, -, step⟩
  · refine ⟨fun _ => step, fun vdm parsed first => ?_⟩
    have foreign := (passes.resolve_left active vdm parsed).1
    rw [step]
    exact iff_of_false (by simp) fun mine => foreign ⟨first, mine⟩
  · refine ⟨fun outside => absurd ⟨vdm, parsed⟩ outside, fun vdm' parsed' first => ?_⟩
    obtain rfl : vdm = vdm' := Option.some.inj (parsed.symm.trans parsed')
    simp [first] at later
  · refine ⟨fun outside => absurd ⟨vdm, parsed⟩ outside, fun vdm' parsed' first => ?_⟩
    obtain rfl : vdm = vdm' := Option.some.inj (parsed.symm.trans parsed')
    rw [step]
    exact iff_of_true rfl isFirst.2

/-- An own single-fragment sentence, line end included. -/
theorem frame_acceptance_exact_own :
    (aisMmsiFilterShouldDrop (aisMmsiFilterInit 123456789)
      (ascii "!AIVDM,1,1,,A,11mg=5@,0*64\r\n")).2 = true :=
  ((frame_acceptance_exact (aisMmsiFilterInit 123456789) (by decide) _).2
    { total := 1, fragment := 1, sequenceId := [], channel := ascii "A",
      payload := ascii "11mg=5@" }
    (parseVdm_eq_some_iff.mp (by decide)) rfl).mpr (by decide)

end EspNmeaBridge
