/-
# JSON texts

A decoder for JSON as its grammar is standardised: objects, arrays, strings with all their
escapes, numbers, the three names, and blanks between them. A number is the rational it
stands for, a string its characters; an escape that is half of a surrogate pair has no
character, and no text. The members of an object keep their order.

What a writer puts out is read back piece by piece: each scalar in front of any text that
does not continue it, and from these an object.
-/

import Mathlib

namespace Json

inductive Value where
  | null
  | bool (value : Bool)
  | number (value : ℚ)
  | string (text : List Char)
  | array (elements : List Value)
  | object (members : List (List Char × Value))

/-! ## Strings -/

def hexDigit (c : Char) : Option ℕ :=
  if '0' ≤ c ∧ c ≤ '9' then some (c.toNat - '0'.toNat)
  else if 'a' ≤ c ∧ c ≤ 'f' then some (c.toNat - 'a'.toNat + 10)
  else if 'A' ≤ c ∧ c ≤ 'F' then some (c.toNat - 'A'.toNat + 10)
  else none

/-- Four hexadecimal digits. -/
def hexUnit : List Char → Option (ℕ × List Char)
  | a :: b :: c :: d :: rest => do
    let a ← hexDigit a
    let b ← hexDigit b
    let c ← hexDigit c
    let d ← hexDigit d
    some (((a * 16 + b) * 16 + c) * 16 + d, rest)
  | _ => none

def scalar (n : ℕ) : Option Char := if valid : n.isValidChar then some (.ofNatAux n valid) else none

/-- The character of one or two UTF-16 units, behind the first `\u`. -/
def unicodeEscape (text : List Char) : Option (Char × List Char) := do
  let (unit, rest) ← hexUnit text
  if 0xD800 ≤ unit ∧ unit ≤ 0xDBFF then
    match rest with
    | '\\' :: 'u' :: rest => do
      let (low, rest) ← hexUnit rest
      if 0xDC00 ≤ low ∧ low ≤ 0xDFFF then
        (scalar (0x10000 + (unit - 0xD800) * 0x400 + (low - 0xDC00))).map (·, rest)
      else none
    | _ => none
  else (scalar unit).map (·, rest)

/-- The character that stands behind a backslash. -/
def escape : List Char → Option (Char × List Char)
  | '"' :: rest => some ('"', rest)
  | '\\' :: rest => some ('\\', rest)
  | '/' :: rest => some ('/', rest)
  | 'b' :: rest => some ('\x08', rest)
  | 'f' :: rest => some ('\x0c', rest)
  | 'n' :: rest => some ('\n', rest)
  | 'r' :: rest => some ('\r', rest)
  | 't' :: rest => some ('\t', rest)
  | 'u' :: rest => unicodeEscape rest
  | _ => none

/-- The characters up to the closing quote, of which there are fewer than the fuel. -/
def stringFrom : (fuel : ℕ) → List Char → Option (List Char × List Char)
  | 0, _ => none
  | _ + 1, [] => none
  | fuel + 1, c :: text =>
    if c = '"' then some ([], text)
    else if c = '\\' then do
      let (c, rest) ← escape text
      let (more, rest) ← stringFrom fuel rest
      some (c :: more, rest)
    else if c.toNat < 0x20 then none
    else do
      let (more, rest) ← stringFrom fuel text
      some (c :: more, rest)

/-- A string, behind its opening quote. -/
def string (text : List Char) : Option (List Char × List Char) := stringFrom text.length text

/-! ## Numbers -/

/-- The digits in front, and what follows them. -/
def digits (text : List Char) : List Char × List Char :=
  (text.takeWhile Char.isDigit, text.dropWhile Char.isDigit)

/-- The fraction, if there is one: its digits. -/
def fraction : List Char → Option (List Char × List Char)
  | '.' :: text => if (digits text).1 = [] then none else some (digits text)
  | text => some ([], text)

/-- The digits of an exponent. -/
def exponentDigits (sign : ℤ) (text : List Char) : Option (ℤ × List Char) :=
  if (digits text).1 = [] then none
  else some (sign * Nat.ofDigitChars 10 (digits text).1 0, (digits text).2)

/-- The exponent, if there is one. -/
def exponent : List Char → Option (ℤ × List Char)
  | c :: text =>
    if c = 'e' ∨ c = 'E' then
      match text with
      | '+' :: text => exponentDigits 1 text
      | '-' :: text => exponentDigits (-1) text
      | text => exponentDigits 1 text
    else some (0, c :: text)
  | [] => some (0, [])

/-- A number without its sign. A leading zero stands alone. -/
def unsigned (text : List Char) : Option (ℚ × List Char) := do
  let (whole, rest) := digits text
  if whole = [] ∨ whole.head? = some '0' ∧ whole ≠ ['0'] then none
  else do
    let (part, rest) ← fraction rest
    let (power, rest) ← exponent rest
    some ((Nat.ofDigitChars 10 (whole ++ part) 0 : ℚ) * 10 ^ (power - part.length), rest)

def number : List Char → Option (ℚ × List Char)
  | '-' :: text => (unsigned text).map fun (value, rest) => (-value, rest)
  | text => unsigned text

/-! ## Values -/

def isSpace (c : Char) : Bool := c = ' ' || c = '\t' || c = '\n' || c = '\r'

def skipSpace (text : List Char) : List Char := text.dropWhile isSpace

mutual

/-- One value. Each call of the three functions uses up one unit of fuel. -/
def value : (fuel : ℕ) → List Char → Option (Value × List Char)
  | 0, _ => none
  | fuel + 1, text =>
    match skipSpace text with
    | 'n' :: 'u' :: 'l' :: 'l' :: rest => some (.null, rest)
    | 't' :: 'r' :: 'u' :: 'e' :: rest => some (.bool true, rest)
    | 'f' :: 'a' :: 'l' :: 's' :: 'e' :: rest => some (.bool false, rest)
    | '"' :: rest => (string rest).map fun (text, rest) => (.string text, rest)
    | '[' :: rest =>
      match skipSpace rest with
      | ']' :: rest => some (.array [], rest)
      | rest => (elements fuel rest).map fun (values, rest) => (.array values, rest)
    | '{' :: rest =>
      match skipSpace rest with
      | '}' :: rest => some (.object [], rest)
      | rest => (members fuel rest).map fun (values, rest) => (.object values, rest)
    | rest => (number rest).map fun (n, rest) => (.number n, rest)

/-- The elements of an array, up to its closing bracket. -/
def elements : (fuel : ℕ) → List Char → Option (List Value × List Char)
  | 0, _ => none
  | fuel + 1, text => do
    let (first, rest) ← value fuel text
    match skipSpace rest with
    | ',' :: rest => do
      let (others, rest) ← elements fuel rest
      some (first :: others, rest)
    | ']' :: rest => some ([first], rest)
    | _ => none

/-- The members of an object, up to its closing brace. -/
def members : (fuel : ℕ) → List Char → Option (List (List Char × Value) × List Char)
  | 0, _ => none
  | fuel + 1, text =>
    match skipSpace text with
    | '"' :: rest => do
      let (name, rest) ← string rest
      match skipSpace rest with
      | ':' :: rest => do
        let (first, rest) ← value fuel rest
        match skipSpace rest with
        | ',' :: rest => do
          let (others, rest) ← members fuel rest
          some ((name, first) :: others, rest)
        | '}' :: rest => some ([(name, first)], rest)
        | _ => none
      | _ => none
    | _ => none

end

/-- A text that is one value and blanks around it. An array is entered with two units of fuel
for one character. -/
def parse (text : List Char) : Option Value := do
  let (value, rest) ← value (2 * text.length + 1) text
  if skipSpace rest = [] then some value else none

/-- The value of a text in UTF-8. -/
def parseUtf8 (bytes : List UInt8) : Option Value := do
  let text ← bytes.toByteArray.utf8Decode?
  parse text.toList

theorem parseUtf8_encode (text : List Char) :
    parseUtf8 (text.flatMap String.utf8EncodeChar) = parse text := by
  have decoded : (text.flatMap String.utf8EncodeChar).toByteArray.utf8Decode? =
      some text.toArray := List.utf8Decode?_utf8Encode
  rw [parseUtf8, decoded]
  rfl

/-! ## Reading strings back -/

section Strings

variable {c : Char} {cs : List Char} {quoted : Char → List Char} {fuel : ℕ}

/-- Inside a string the text stands for the character. -/
def Quotes (text : List Char) (c : Char) : Prop :=
  (text = [c] ∧ c ≠ '"' ∧ c ≠ '\\' ∧ 0x20 ≤ c.toNat) ∨
    ∃ code, text = '\\' :: code ∧ ∀ rest, escape (code ++ rest) = some (c, rest)

theorem Quotes.ne_nil {text : List Char} (quotes : Quotes text c) : text ≠ [] := by
  rcases quotes with ⟨rfl, -⟩ | ⟨code, rfl, -⟩ <;> exact List.cons_ne_nil _ _

theorem stringFrom_quotes (quotes : ∀ c ∈ cs, Quotes (quoted c) c) (enough : cs.length < fuel)
    (rest : List Char) :
    stringFrom fuel (cs.flatMap quoted ++ '"' :: rest) = some (cs, rest) := by
  induction cs generalizing fuel with
  | nil =>
    obtain ⟨fuel, rfl⟩ := Nat.exists_eq_add_one.mpr enough
    rfl
  | cons c cs ih =>
    obtain ⟨fuel, rfl⟩ := Nat.exists_eq_add_one.mpr (Nat.zero_lt_of_lt enough)
    obtain ⟨first, others⟩ := List.forall_mem_cons.mp quotes
    have more := ih others (Nat.lt_of_succ_lt_succ enough)
    rw [List.flatMap_cons, List.append_assoc]
    rcases first with ⟨single, notQuote, notBackslash, printable⟩ | ⟨code, escaped, read⟩
    · rw [single, List.singleton_append, stringFrom, if_neg notQuote, if_neg notBackslash,
        if_neg (not_lt.mpr printable), more]
      rfl
    · rw [escaped, List.cons_append, stringFrom, if_neg (by decide), if_pos rfl, read]
      simp only [Option.bind_eq_bind, Option.bind_some, more]

theorem length_le_quoted (quotes : ∀ c ∈ cs, Quotes (quoted c) c) :
    cs.length ≤ (cs.flatMap quoted).length := by
  induction cs with
  | nil => exact le_rfl
  | cons c cs ih =>
    obtain ⟨first, others⟩ := List.forall_mem_cons.mp quotes
    have positive : 0 < (quoted c).length := List.length_pos_iff.mpr first.ne_nil
    have more := ih others
    rw [List.flatMap_cons, List.length_append, List.length_cons]
    omega

/-- A written string is read back. -/
theorem string_quotes (quotes : ∀ c ∈ cs, Quotes (quoted c) c) (rest : List Char) :
    string (cs.flatMap quoted ++ '"' :: rest) = some (cs, rest) := by
  apply stringFrom_quotes quotes
  have long := length_le_quoted quotes
  rw [List.length_append, List.length_cons]
  omega

/-- What stands behind a backslash for the character, if there is a short escape for it. -/
def shortEscape (c : Char) : Option Char :=
  if c = '"' ∨ c = '\\' then some c
  else if c = '\x08' then some 'b'
  else if c = '\x0c' then some 'f'
  else if c = '\n' then some 'n'
  else if c = '\r' then some 'r'
  else if c = '\t' then some 't'
  else none

/-- The character with its short escape. -/
def shortForm (c : Char) : List Char :=
  match shortEscape c with
  | some code => ['\\', code]
  | none => [c]

/-- Other control characters have no short escape. -/
def HasShortForm (c : Char) : Prop := shortEscape c ≠ none ∨ 0x20 ≤ c.toNat

instance (c : Char) : Decidable (HasShortForm c) := inferInstanceAs (Decidable (_ ∨ _))

theorem quotes_shortForm (short : HasShortForm c) : Quotes (shortForm c) c := by
  unfold shortForm
  cases escaped : shortEscape c with
  | some code =>
    refine Or.inr ⟨[code], rfl, fun rest => ?_⟩
    unfold shortEscape at escaped
    split_ifs at escaped with special
    · rcases special with rfl | rfl <;> cases escaped <;> rfl
    all_goals
      subst c
      cases escaped
      rfl
  | none =>
    have printable := short.resolve_left (not_not.mpr escaped)
    unfold shortEscape at escaped
    split_ifs at escaped with special
    rw [not_or] at special
    exact Or.inl ⟨rfl, special.1, special.2, printable⟩

end Strings

/-! ## Reading scalars back -/

/-- Nothing in front that would continue a number. -/
def Ends (rest : List Char) : Prop :=
  ∀ c, rest.head? = some c → c.isDigit = false ∧ c ≠ '.' ∧ c ≠ 'e' ∧ c ≠ 'E'

/-- The text is read as the value. -/
def Reads (text : List Char) (v : Value) : Prop :=
  ∀ fuel rest, Ends rest → value (fuel + 1) (text ++ rest) = some (v, rest)

section Scalars

theorem reads_true : Reads "true".toList (.bool true) := by
  intro fuel rest _
  simp [value, skipSpace, isSpace]

theorem reads_false : Reads "false".toList (.bool false) := by
  intro fuel rest _
  simp [value, skipSpace, isSpace]

theorem reads_string {cs : List Char} {quoted : Char → List Char}
    (quotes : ∀ c ∈ cs, Quotes (quoted c) c) :
    Reads ('"' :: (cs.flatMap quoted ++ ['"'])) (.string cs) := by
  intro fuel rest _
  have read := string_quotes quotes rest
  rw [List.cons_append, List.append_assoc, List.singleton_append]
  simp [value, skipSpace, isSpace, read]

/-- A leading zero is the number zero. -/
theorem eq_zero_of_head_toDigits {n : ℕ} (zero : (Nat.toDigits 10 n).head? = some '0') :
    n = 0 := by
  induction n using Nat.strong_induction_on with
  | h n ih =>
    rcases Nat.lt_or_ge n 10 with small | large
    · have all : ∀ n < 10, [n.digitChar].head? = some '0' → n = 0 := by decide
      rw [Nat.toDigits_of_lt_base small] at zero
      exact all n small zero
    · rw [Nat.toDigits_of_base_le (by decide) large,
        List.head?_append_of_ne_nil _ Nat.toDigits_ne_nil] at zero
      have none := ih (n / 10) (by omega) zero
      omega

theorem digits_append {ds rest : List Char} (all : ∀ c ∈ ds, c.isDigit = true)
    (ends : Ends rest) : digits (ds ++ rest) = (ds, rest) := by
  have front : rest.takeWhile Char.isDigit = [] := by
    cases rest with
    | nil => rfl
    | cons c rest => exact List.takeWhile_cons_of_neg (by simp [(ends c rfl).1])
  have back : rest.dropWhile Char.isDigit = rest := by
    cases rest with
    | nil => rfl
    | cons c rest => exact List.dropWhile_cons_of_neg (by simp [(ends c rfl).1])
  rw [digits, List.takeWhile_append_of_pos all, List.dropWhile_append_of_pos all, front, back,
    List.append_nil]

theorem fraction_of_ends {rest : List Char} (ends : Ends rest) :
    fraction rest = some ([], rest) := by
  cases rest with
  | nil => rfl
  | cons c rest =>
    obtain ⟨-, notPoint, -⟩ := ends c rfl
    simp [fraction, notPoint]

theorem exponent_of_ends {rest : List Char} (ends : Ends rest) :
    exponent rest = some (0, rest) := by
  cases rest with
  | nil => rfl
  | cons c rest =>
    obtain ⟨-, -, lower, upper⟩ := ends c rfl
    simp [exponent, lower, upper]

theorem isDigit_of_mem_decimal {n : ℕ} : ∀ c ∈ Nat.toDigits 10 n, c.isDigit = true :=
  fun _ member => Nat.isDigit_of_mem_toDigits (by decide) (by decide) member

theorem unsigned_toDigits (n : ℕ) {rest : List Char} (ends : Ends rest) :
    unsigned (Nat.toDigits 10 n ++ rest) = some (↑n, rest) := by
  have canonical : ¬ (Nat.toDigits 10 n = [] ∨
      (Nat.toDigits 10 n).head? = some '0' ∧ Nat.toDigits 10 n ≠ ['0']) := by
    rintro (empty | ⟨zero, longer⟩)
    · exact Nat.toDigits_ne_nil empty
    · rw [eq_zero_of_head_toDigits zero] at longer
      exact longer (Nat.toDigits_zero 10)
  simp only [unsigned, digits_append isDigit_of_mem_decimal ends, if_neg canonical,
    fraction_of_ends ends, exponent_of_ends ends, Option.bind_eq_bind, Option.bind_some,
    List.append_nil, Nat.ofDigitChars_ten_toDigits]
  simp

/-- A written number is read back. -/
theorem reads_nat (n : ℕ) : Reads (Nat.toDigits 10 n) (.number n) := by
  intro fuel rest ends
  have read := unsigned_toDigits n ends
  obtain ⟨c, ds, split⟩ := List.exists_cons_of_ne_nil (@Nat.toDigits_ne_nil n 10)
  have digit : c.isDigit = true := by
    apply isDigit_of_mem_decimal (n := n)
    simp [split]
  rw [split, List.cons_append] at read ⊢
  have other {d : Char} (notDigit : d.isDigit = false) : c ≠ d := by
    rintro rfl
    rw [digit] at notDigit
    cases notDigit
  have noSpace : skipSpace (c :: (ds ++ rest)) = c :: (ds ++ rest) := by
    apply List.dropWhile_cons_of_neg
    simp [isSpace, @other ' ' rfl, @other '\t' rfl, @other '\n' rfl, @other '\r' rfl]
  have noSign : number (c :: (ds ++ rest)) = unsigned (c :: (ds ++ rest)) := by
    simp [number, @other '-' rfl]
  -- A digit begins none of the other values.
  simp [value, noSpace, @other 'n' rfl, @other 't' rfl, @other 'f' rfl, @other '"' rfl,
    @other '[' rfl, @other '{' rfl, noSign, read]

end Scalars

/-! ## Reading objects back -/

/-- A member of an object, with the text of its value. -/
structure Member where
  name : List Char
  text : List Char
  value : Value

namespace Member

/-- The name needs no escape, and the text is read as the value. -/
structure Readable (member : Member) : Prop where
  plain : ∀ c ∈ member.name, Quotes [c] c
  reads : Reads member.text member.value

def written (member : Member) : List Char := '"' :: (member.name ++ '"' :: ':' :: member.text)

end Member

/-- The members one after the other, with commas between them. -/
def writeMembers : List Member → List Char
  | [] => []
  | [member] => member.written
  | member :: next :: rest => member.written ++ ',' :: writeMembers (next :: rest)

def writeObject (written : List Member) : List Char := '{' :: (writeMembers written ++ ['}'])

section Objects

theorem ends_comma (rest : List Char) : Ends (',' :: rest) := by
  rintro c ⟨⟩
  decide

theorem ends_brace (rest : List Char) : Ends ('}' :: rest) := by
  rintro c ⟨⟩
  decide

theorem length_le_writeMembers (written : List Member) :
    written.length ≤ (writeMembers written).length := by
  fun_induction writeMembers written with
  | case1 => exact le_rfl
  | case2 member =>
    rw [Member.written, List.length_cons]
    exact Nat.succ_le_succ (Nat.zero_le _)
  | case3 member next rest ih =>
    simp only [List.length_append, List.length_cons] at ih ⊢
    omega

end Objects

/-- The text is read as the value, given fuel for what is nested in it. -/
def ReadsFrom (least : ℕ) (text : List Char) (v : Value) : Prop :=
  ∀ fuel rest, least ≤ fuel → Ends rest → value (fuel + 1) (text ++ rest) = some (v, rest)

theorem Reads.readsFrom {text : List Char} {v : Value} (reads : Reads text v) (least : ℕ) :
    ReadsFrom least text v :=
  fun fuel rest _ ends => reads fuel rest ends

theorem ReadsFrom.mono {least more : ℕ} {text : List Char} {v : Value}
    (reads : ReadsFrom least text v) (le : least ≤ more) : ReadsFrom more text v :=
  fun fuel rest enough ends => reads fuel rest (le.trans enough) ends

/-- The name needs no escape, and the text is read as the value. -/
structure Member.ReadableFrom (least : ℕ) (member : Member) : Prop where
  plain : ∀ c ∈ member.name, Quotes [c] c
  reads : ReadsFrom least member.text member.value

theorem Member.Readable.readableFrom {member : Member} (readable : member.Readable) (least : ℕ) :
    member.ReadableFrom least :=
  ⟨readable.plain, readable.reads.readsFrom least⟩

section Nested

variable {member : Member} {written : List Member} {least fuel : ℕ}

/-- The name and the value of a member in front of what ends it. -/
theorem members_written_from (readable : member.ReadableFrom least) (enough : least ≤ fuel)
    {rest : List Char} (ends : Ends rest) :
    members (fuel + 2) (member.written ++ rest) =
      match skipSpace rest with
      | ',' :: rest => do
        let (others, rest) ← members (fuel + 1) rest
        some ((member.name, member.value) :: others, rest)
      | '}' :: rest => some ([(member.name, member.value)], rest)
      | _ => none := by
  have name := string_quotes readable.plain (':' :: (member.text ++ rest))
  rw [List.flatMap_singleton'] at name
  have text := readable.reads fuel rest enough ends
  rw [Member.written, List.cons_append, List.append_assoc, List.cons_append, List.cons_append]
  simp [members, skipSpace, isSpace, name, text]

theorem members_writeMembers_from (nonempty : written ≠ [])
    (readable : ∀ m ∈ written, m.ReadableFrom least) (enough : written.length + least < fuel)
    (rest : List Char) :
    members fuel (writeMembers written ++ '}' :: rest) =
      some (written.map fun m => (m.name, m.value), rest) := by
  induction written generalizing fuel with
  | nil => exact absurd rfl nonempty
  | cons member more ih =>
    obtain ⟨first, others⟩ := List.forall_mem_cons.mp readable
    rw [List.length_cons] at enough
    obtain ⟨fuel, rfl⟩ : ∃ k, fuel = k + 2 := ⟨fuel - 2, by omega⟩
    have inner : least ≤ fuel := by omega
    cases more with
    | nil => exact members_written_from first inner (ends_brace rest)
    | cons next more =>
      have later : members (fuel + 1) (writeMembers (next :: more) ++ '}' :: rest) =
          some ((next :: more).map fun m => (m.name, m.value), rest) :=
        ih (List.cons_ne_nil next more) others (by omega)
      rw [writeMembers, List.append_assoc, List.cons_append,
        members_written_from first inner (ends_comma _)]
      simp [skipSpace, isSpace, later]

/-- A written object is read back where it is nested in another. -/
theorem readsFrom_writeObject (nonempty : written ≠ [])
    (readable : ∀ m ∈ written, m.ReadableFrom least) :
    ReadsFrom (written.length + least + 1) (writeObject written)
      (.object (written.map fun m => (m.name, m.value))) := by
  intro fuel rest enough _
  have read := members_writeMembers_from nonempty readable enough rest
  obtain ⟨member, more, rfl⟩ := List.exists_cons_of_ne_nil nonempty
  obtain ⟨text, starts⟩ : ∃ text, writeMembers (member :: more) = '"' :: text := by
    cases more <;> exact ⟨_, rfl⟩
  rw [starts, List.cons_append] at read
  rw [writeObject, starts, List.cons_append, List.append_assoc, List.singleton_append,
    List.cons_append]
  simp [value, skipSpace, isSpace, read]

/-- A text that is read as a value is that value, and blanks behind it change nothing. -/
theorem parse_of_readsFrom {text blanks : List Char} {v : Value} (reads : ReadsFrom least text v)
    (enough : least ≤ 2 * text.length) (blank : ∀ c ∈ blanks, isSpace c = true) :
    parse (text ++ blanks) = some v := by
  have ends : Ends blanks := by
    intro c first
    have space := blank c (List.mem_of_mem_head? first)
    simp only [isSpace, Bool.or_eq_true, decide_eq_true_eq] at space
    rcases space with ((rfl | rfl) | rfl) | rfl <;> decide
  have skipped : skipSpace blanks = [] := List.dropWhile_eq_nil_iff.mpr blank
  rw [parse, reads _ blanks (by rw [List.length_append]; omega) ends]
  simp [skipped]

/-- A written object is read back. -/
theorem parse_writeObject (nonempty : written ≠ []) (readable : ∀ m ∈ written, m.Readable) :
    parse (writeObject written) = some (.object (written.map fun m => (m.name, m.value))) := by
  have reads := readsFrom_writeObject nonempty fun m member =>
    (readable m member).readableFrom 0
  have enough : written.length + 0 + 1 ≤ 2 * (writeObject written).length := by
    have long := length_le_writeMembers written
    rw [writeObject, List.length_cons, List.length_append]
    omega
  simpa using parse_of_readsFrom reads enough (List.forall_mem_nil _)

end Nested

/-! ## Negative numbers and null -/

/-- A written negative number is read back. -/
theorem reads_neg (n : ℕ) : Reads ('-' :: Nat.toDigits 10 n) (.number (-(n : ℚ))) := by
  intro fuel rest ends
  have read := unsigned_toDigits n ends
  simp [value, skipSpace, isSpace, number, read]

theorem reads_null : Reads "null".toList .null := by
  intro fuel rest _
  simp [value, skipSpace, isSpace]

end Json
