import BoundSeal.Rust.Json
import BoundSeal.Rust.Result
import BoundSeal.Rust.Time

/-!
# JSON files: `serde_json::to_vec_pretty` and `serde_json::from_slice`

The crates that keep state in files write every record with
`serde_json::to_vec_pretty` and a final newline, and accept a file only if
writing the record they read from it gives the same bytes again.

A number that is not negative is read as `number`, whichever of the two numeric
constructors it was written from; `normalize` makes that choice throughout a value.
-/

namespace BoundSeal.Rust

namespace Json

/-! ## The pretty writer -/

def indent (depth : ℕ) : List Char := List.replicate (2 * depth) ' '

/-- What stands between the last entry and the closing bracket, if there is an entry. -/
def closing (depth : ℕ) (isEmpty : Bool) : List Char := if isEmpty then [] else '\n' :: indent depth

/-- What stands before an entry. -/
def opening (depth : ℕ) (first : Bool) : List Char :=
  (if first then [] else [',']) ++ '\n' :: indent depth

mutual

/-- The characters of a value, each entry on a line of its own. -/
def prettyChars : ℕ → Json → List Char
  | _, .null => "null".toList
  | _, .bool true => "true".toList
  | _, .bool false => "false".toList
  | _, .number n => Nat.toDigits 10 n
  | _, .integer n => if n < 0 then '-' :: Nat.toDigits 10 n.natAbs else Nat.toDigits 10 n.natAbs
  | _, .text s => quote s
  | depth, .array items =>
    '[' :: (prettyItems (depth + 1) true items ++ closing depth items.isEmpty ++ [']'])
  | depth, .object fields =>
    '\x7b' :: (prettyFields (depth + 1) true fields ++ closing depth fields.isEmpty ++ ['\x7d'])

def prettyItems : ℕ → Bool → List Json → List Char
  | _, _, [] => []
  | depth, first, item :: items =>
    opening depth first ++ prettyChars depth item ++ prettyItems depth false items

def prettyFields : ℕ → Bool → List (String × Json) → List Char
  | _, _, [] => []
  | depth, first, (name, value) :: fields =>
    opening depth first ++ quote name ++ ':' :: ' ' :: prettyChars depth value ++
      prettyFields depth false fields

end

/-- `serde_json::to_vec_pretty`. -/
def toVecPretty (value : Json) : Bytes := (value.prettyChars 0).flatMap String.utf8EncodeChar

/-! ## The reader -/

def isSpace (c : Char) : Bool := c == ' ' || c == '\n' || c == '\t' || c == '\x0d'

def skipSpace (input : List Char) : List Char := input.dropWhile isSpace

def hexValue (c : Char) : Option ℕ :=
  if c.isDigit then some (c.toNat - '0'.toNat)
  else if 'a' ≤ c ∧ c ≤ 'f' then some (c.toNat - 'a'.toNat + 10)
  else if 'A' ≤ c ∧ c ≤ 'F' then some (c.toNat - 'A'.toNat + 10)
  else none

/-- The character of the escape `\uXXXX`. -/
def unicodeEscape (a b c d : Char) : Option Char := do
  let a ← hexValue a
  let b ← hexValue b
  let c ← hexValue c
  let d ← hexValue d
  let n := ((a * 16 + b) * 16 + c) * 16 + d
  if n.isValidChar then some (Char.ofNat n) else none

def shortEscape (c : Char) : Option Char :=
  if c = '"' then some '"'
  else if c = '\\' then some '\\'
  else if c = '/' then some '/'
  else if c = 'b' then some '\x08'
  else if c = 'f' then some '\x0c'
  else if c = 'n' then some '\n'
  else if c = 'r' then some '\x0d'
  else if c = 't' then some '\t'
  else none

/-- One character of a text, and what follows it. -/
def readChar : List Char → Option (Char × List Char)
  | [] => none
  | c :: rest =>
    if c = '\\' then
      match rest with
      | [] => none
      | e :: rest =>
        if e = 'u' then
          match rest with
          | a :: b :: c :: d :: rest => (unicodeEscape a b c d).map (·, rest)
          | _ => none
        else (shortEscape e).map (·, rest)
    else if c.toNat < 0x20 then none
    else some (c, rest)

/-- The characters of a text up to its closing quotation mark. -/
def readText : ℕ → List Char → Option (List Char × List Char)
  | 0, _ => none
  | fuel + 1, input =>
    if input.head? = some '"' then some ([], input.tail)
    else do
      let (c, rest) ← readChar input
      let (word, rest) ← readText fuel rest
      some (c :: word, rest)

def readQuoted (input : List Char) : Option (String × List Char) :=
  if input.head? = some '"' then
    (readText input.length input.tail).map fun (word, rest) => (String.ofList word, rest)
  else none

/-- The digits of an integer; no leading zero, and no fraction or exponent after them. -/
def readDigits (input : List Char) : Option (ℕ × List Char) :=
  let digits := input.takeWhile Char.isDigit
  let rest := input.dropWhile Char.isDigit
  if digits = [] ∨ (digits.head? = some '0' ∧ 1 < digits.length) ∨
      rest.head? = some '.' ∨ rest.head? = some 'e' ∨ rest.head? = some 'E' then none
  else some (Nat.ofDigitChars 10 digits 0, rest)

/-- A value that is neither a text, an array nor an object. -/
def readScalar (input : List Char) : Option (Json × List Char) :=
  if "null".toList.isPrefixOf input then some (.null, input.drop 4)
  else if "true".toList.isPrefixOf input then some (.bool true, input.drop 4)
  else if "false".toList.isPrefixOf input then some (.bool false, input.drop 5)
  else if input.head? = some '-' then
    (readDigits input.tail).map fun (n, rest) => (.integer (-n), rest)
  else (readDigits input).map fun (n, rest) => (.number n, rest)

/-- Where the next entry starts: after the bracket, or after a comma. -/
def entryStart (first : Bool) (input : List Char) : Option (List Char) :=
  if first then some input
  else if input.head? = some ',' then some input.tail
  else none

mutual

def readValue : ℕ → List Char → Option (Json × List Char)
  | 0, _ => none
  | fuel + 1, input =>
    let input := skipSpace input
    if input.head? = some '"' then (readQuoted input).map fun (word, rest) => (.text word, rest)
    else if input.head? = some '[' then
      (readItems fuel true input.tail).map fun (items, rest) => (.array items, rest)
    else if input.head? = some '\x7b' then
      (readFields fuel true input.tail).map fun (fields, rest) => (.object fields, rest)
    else readScalar input

def readItems : ℕ → Bool → List Char → Option (List Json × List Char)
  | 0, _, _ => none
  | fuel + 1, first, input =>
    let input := skipSpace input
    if input.head? = some ']' then some ([], input.tail)
    else do
      let start ← entryStart first input
      let (item, rest) ← readValue fuel start
      let (items, rest) ← readItems fuel false rest
      some (item :: items, rest)

def readFields : ℕ → Bool → List Char → Option (List (String × Json) × List Char)
  | 0, _, _ => none
  | fuel + 1, first, input =>
    let input := skipSpace input
    if input.head? = some '\x7d' then some ([], input.tail)
    else do
      let start ← entryStart first input
      let (name, rest) ← readQuoted (skipSpace start)
      let rest := skipSpace rest
      if rest.head? = some ':' then
        let (value, rest) ← readValue fuel rest.tail
        let (fields, rest) ← readFields fuel false rest
        some ((name, value) :: fields, rest)
      else none

end

/-- `serde_json::from_slice`, to a value: one value and nothing but white space after it. -/
def fromSlice (input : Bytes) : Option Json := do
  let word ← fromUtf8 input
  let (value, rest) ← readValue (word.toList.length + 1) word.toList
  if skipSpace rest = [] then some value else none

/-- `serde_json::from_str`, to a value: one value and nothing but white space after it. -/
def fromStr (word : String) : Option Json := do
  let (value, rest) ← readValue (word.toList.length + 1) word.toList
  if skipSpace rest = [] then some value else none

/-! ## Layouts

The pretty and the compact writer differ in white space only: in what stands on
both sides of the entries of a level, and after a colon. -/

/-- Where a writer puts white space. -/
structure Layout where
  blank : ℕ → List Char
  gap : List Char
  blank_space : ∀ depth, ∀ c ∈ blank depth, isSpace c = true
  gap_space : ∀ c ∈ gap, isSpace c = true

namespace Layout

/-- Each entry on a line of its own. -/
def pretty : Layout where
  blank depth := '\n' :: indent depth
  gap := [' ']
  blank_space depth c hc := by
    rcases List.mem_cons.mp hc with rfl | hc
    · rfl
    · rw [List.eq_of_mem_replicate hc]
      rfl
  gap_space c hc := by
    rw [List.mem_singleton.mp hc]
    rfl

/-- No white space at all. -/
def compact : Layout where
  blank _ := []
  gap := []
  blank_space _ _ hc := absurd hc List.not_mem_nil
  gap_space _ hc := absurd hc List.not_mem_nil

variable (layout : Layout)

/-- What stands between the last entry and the closing bracket, if there is an entry. -/
def closing (depth : ℕ) (isEmpty : Bool) : List Char := if isEmpty then [] else layout.blank depth

/-- What stands before an entry. -/
def opening (depth : ℕ) (first : Bool) : List Char := (if first then [] else [',']) ++ layout.blank depth

mutual

/-- The characters of a value. -/
def written : ℕ → Json → List Char
  | _, .null => "null".toList
  | _, .bool true => "true".toList
  | _, .bool false => "false".toList
  | _, .number n => Nat.toDigits 10 n
  | _, .integer n => if n < 0 then '-' :: Nat.toDigits 10 n.natAbs else Nat.toDigits 10 n.natAbs
  | _, .text s => quote s
  | depth, .array items =>
    '[' :: (writtenItems (depth + 1) true items ++ layout.closing depth items.isEmpty ++ [']'])
  | depth, .object fields =>
    '\x7b' :: (writtenFields (depth + 1) true fields ++ layout.closing depth fields.isEmpty ++ ['\x7d'])

def writtenItems : ℕ → Bool → List Json → List Char
  | _, _, [] => []
  | depth, first, item :: items =>
    layout.opening depth first ++ written depth item ++ writtenItems depth false items

def writtenFields : ℕ → Bool → List (String × Json) → List Char
  | _, _, [] => []
  | depth, first, (name, value) :: fields =>
    layout.opening depth first ++ quote name ++ ':' :: layout.gap ++ written depth value ++
      writtenFields depth false fields

end

end Layout

open Layout

mutual

theorem written_pretty (value : Json) (depth : ℕ) : Layout.pretty.written depth value = prettyChars depth value := by
  cases value with
  | null => rfl
  | bool b => cases b <;> rfl
  | number | integer | text => rw [Layout.written, prettyChars]
  | array items =>
    rw [written, prettyChars, writtenItems_pretty items]
    rfl
  | object fields =>
    rw [written, prettyChars, writtenFields_pretty fields]
    rfl

theorem writtenItems_pretty (items : List Json) (depth : ℕ) (first : Bool) :
    Layout.pretty.writtenItems depth first items = prettyItems depth first items := by
  cases items with
  | nil => rw [Layout.writtenItems, prettyItems]
  | cons item items =>
    rw [writtenItems, prettyItems, written_pretty item, writtenItems_pretty items]
    rfl

theorem writtenFields_pretty (fields : List (String × Json)) (depth : ℕ) (first : Bool) :
    Layout.pretty.writtenFields depth first fields = prettyFields depth first fields := by
  cases fields with
  | nil => rw [Layout.writtenFields, prettyFields]
  | cons field fields =>
    obtain ⟨name, value⟩ := field
    rw [writtenFields, prettyFields, written_pretty value, writtenFields_pretty fields]
    simp [pretty, Layout.opening, opening]

end

theorem intercalate_comma (entry : List Char) (entries : List (List Char)) :
    [','].intercalate (entry :: entries) = entry ++ entries.flatMap fun other => ',' :: other := by
  induction entries generalizing entry with
  | nil => simp [List.intercalate]
  | cons other entries ih =>
    rw [List.intercalate_cons_cons, ih, List.flatMap_cons]
    simp

mutual

theorem written_compact (value : Json) (depth : ℕ) : Layout.compact.written depth value = chars value := by
  cases value with
  | null => rfl
  | bool b => cases b <;> rfl
  | number | integer | text => rw [Layout.written, chars]
  | array items =>
    rw [written, chars]
    cases items with
    | nil => simp [Layout.writtenItems, itemChars, Layout.closing]
    | cons item items =>
      rw [itemChars, intercalate_comma, writtenItems, written_compact item, writtenItems_compact items]
      simp [Layout.opening, Layout.closing, compact]
  | object fields =>
    rw [written, chars]
    cases fields with
    | nil => simp [Layout.writtenFields, fieldChars, Layout.closing]
    | cons field fields =>
      obtain ⟨name, value⟩ := field
      rw [fieldChars, intercalate_comma, writtenFields, written_compact value, writtenFields_compact fields]
      simp [Layout.opening, Layout.closing, compact]

theorem writtenItems_compact (items : List Json) (depth : ℕ) :
    Layout.compact.writtenItems depth false items = (itemChars items).flatMap fun entry => ',' :: entry := by
  cases items with
  | nil => rw [Layout.writtenItems, itemChars, List.flatMap_nil]
  | cons item items =>
    rw [writtenItems, itemChars, written_compact item, writtenItems_compact items]
    simp [Layout.opening, compact]

theorem writtenFields_compact (fields : List (String × Json)) (depth : ℕ) :
    Layout.compact.writtenFields depth false fields = (fieldChars fields).flatMap fun entry => ',' :: entry := by
  cases fields with
  | nil => rw [Layout.writtenFields, fieldChars, List.flatMap_nil]
  | cons field fields =>
    obtain ⟨name, value⟩ := field
    rw [writtenFields, fieldChars, written_compact value, writtenFields_compact fields]
    simp [Layout.opening, compact]

end

/-! ## The reader inverts the writers -/

mutual

/-- The value with every number in the form the reader gives it. -/
def normalize : Json → Json
  | .null => .null
  | .bool b => .bool b
  | .number n => .number n
  | .integer n => if n < 0 then .integer n else .number n.natAbs
  | .text s => .text s
  | .array items => .array (normalizeItems items)
  | .object fields => .object (normalizeFields fields)

def normalizeItems : List Json → List Json
  | [] => []
  | item :: items => item.normalize :: normalizeItems items

def normalizeFields : List (String × Json) → List (String × Json)
  | [] => []
  | (name, value) :: fields => (name, value.normalize) :: normalizeFields fields

end

def Follows (rest : List Char) : Prop :=
  ∀ c, rest.head? = some c → c = ',' ∨ c = ']' ∨ c = '\x7d' ∨ isSpace c = true

theorem follows_nil : Follows [] := fun _ hc => absurd hc (by simp)

variable {c : Char}

variable {rest : List Char}

theorem follows_cons (h : c = ',' ∨ c = ']' ∨ c = '\x7d' ∨ isSpace c = true) :
    Follows (c :: rest) := by
  intro d hd
  cases hd
  exact h

/-! ### White space -/

theorem skipSpace_append {blank : List Char} (h : ∀ c ∈ blank, isSpace c = true)
    (rest : List Char) : skipSpace (blank ++ rest) = skipSpace rest := by
  rw [skipSpace, List.dropWhile_append_of_pos h]
  rfl

theorem skipSpace_cons (rest : List Char) (h : isSpace c = false) :
    skipSpace (c :: rest) = c :: rest := by
  rw [skipSpace, List.dropWhile_cons_of_neg]
  simp [h]

/-! ### Texts -/

theorem hexValue_hexDigit : ∀ n : Fin 16, hexValue (hexDigit n) = some n.val := by decide

theorem unicodeEscape_eq (h : c.toNat < 0x20) :
    unicodeEscape '0' '0' (hexDigit (c.toNat / 16)) (hexDigit (c.toNat % 16)) = some c := by
  have hhigh := hexValue_hexDigit ⟨c.toNat / 16, by omega⟩
  have hlow := hexValue_hexDigit ⟨c.toNat % 16, by omega⟩
  have hzero : hexValue '0' = some 0 := by decide
  have hsum : ((0 * 16 + 0) * 16 + c.toNat / 16) * 16 + c.toNat % 16 = c.toNat := by omega
  have hvalid : c.toNat.isValidChar := c.valid
  simp only [unicodeEscape, hzero, hhigh, hlow, Option.bind_eq_bind, Option.bind_some, hsum,
    if_pos hvalid, Char.ofNat_toNat]

theorem readChar_escapeChar (c : Char) (rest : List Char) :
    readChar (escapeChar c ++ rest) = some (c, rest) := by
  unfold escapeChar
  by_cases h₁ : c = '"'
  · subst h₁; rfl
  by_cases h₂ : c = '\\'
  · subst h₂; rfl
  by_cases h₃ : c = '\x08'
  · subst h₃; rfl
  by_cases h₄ : c = '\x0c'
  · subst h₄; rfl
  by_cases h₅ : c = '\n'
  · subst h₅; rfl
  by_cases h₆ : c = '\x0d'
  · subst h₆; rfl
  by_cases h₇ : c = '\t'
  · subst h₇; rfl
  rw [if_neg h₁, if_neg h₂, if_neg h₃, if_neg h₄, if_neg h₅, if_neg h₆, if_neg h₇]
  by_cases h₈ : c.toNat < 0x20
  · rw [if_pos h₈]
    simp [readChar, unicodeEscape_eq h₈]
  · rw [if_neg h₈]
    simp [readChar, h₂, h₈]

theorem escapeChar_head (c : Char) : ∃ d ds, escapeChar c = d :: ds ∧ d ≠ '"' := by
  unfold escapeChar
  by_cases h : c = '"'
  · exact ⟨'\\', ['"'], by rw [if_pos h], by decide⟩
  · rw [if_neg h]
    split_ifs
    all_goals first
      | exact ⟨_, _, rfl, by decide⟩
      | exact ⟨_, _, rfl, h⟩

theorem readText_escaped (word rest : List Char) {fuel : ℕ} (hfuel : word.length < fuel) :
    readText fuel (word.flatMap escapeChar ++ '"' :: rest) = some (word, rest) := by
  induction word generalizing fuel with
  | nil =>
    obtain ⟨fuel, rfl⟩ : ∃ k, fuel = k + 1 := ⟨fuel - 1, by simp at hfuel; omega⟩
    rfl
  | cons c word ih =>
    obtain ⟨fuel, rfl⟩ : ∃ k, fuel = k + 1 := ⟨fuel - 1, by simp at hfuel; omega⟩
    have hread := readChar_escapeChar c (word.flatMap escapeChar ++ '"' :: rest)
    obtain ⟨d, ds, hhead, hd⟩ := escapeChar_head c
    rw [List.flatMap_cons, List.append_assoc, readText, if_neg, hread]
    · simp only [List.length_cons] at hfuel
      simp [ih (show word.length < fuel by omega)]
    · rw [hhead]
      simpa using hd

theorem readQuoted_quote (s : String) (rest : List Char) :
    readQuoted (quote s ++ rest) = some (s, rest) := by
  have hlength : s.toList.length ≤ (s.toList.flatMap escapeChar).length := by
    induction s.toList with
    | nil => exact Nat.le_refl 0
    | cons c word ih =>
      obtain ⟨d, ds, hhead, -⟩ := escapeChar_head c
      rw [List.flatMap_cons, List.length_append, hhead, List.length_cons, List.length_cons]
      omega
  have hfuel : s.toList.length < (quote s ++ rest).length := by
    simp only [quote, List.length_append, List.length_cons]
    omega
  have htail : (quote s ++ rest).tail = s.toList.flatMap escapeChar ++ '"' :: rest := by simp [quote]
  rw [readQuoted, if_pos (by simp [quote]), htail, readText_escaped _ _ hfuel]
  simp

/-! ### Numbers and words -/

/-- A numeral does not start with a zero, except that of zero. -/
theorem toDigits_head (n : ℕ) (h : (Nat.toDigits 10 n).head? = some '0') : n = 0 := by
  induction n using Nat.strong_induction_on with
  | _ n ih =>
    by_cases hn : n < 10
    · rw [Nat.toDigits_of_lt_base hn] at h
      interval_cases n <;> revert h <;> decide
    · rw [Nat.toDigits_of_base_le (by decide) (Nat.le_of_not_lt hn),
        List.head?_append_of_ne_nil _ Nat.toDigits_ne_nil] at h
      have := ih (n / 10) (by omega) h
      omega

theorem not_isDigit_of_follows (h : Follows rest) (c : Char) (hc : rest.head? = some c) :
    c.isDigit = false ∧ c ≠ '.' ∧ c ≠ 'e' ∧ c ≠ 'E' := by
  rcases h c hc with rfl | rfl | rfl | hspace
  · decide
  · decide
  · decide
  · simp only [isSpace, Bool.or_eq_true, beq_iff_eq] at hspace
    rcases hspace with ((rfl | rfl) | rfl) | rfl <;> decide

theorem readDigits_toDigits (n : ℕ) (h : Follows rest) :
    readDigits (Nat.toDigits 10 n ++ rest) = some (n, rest) := by
  have hdigits : ∀ c ∈ Nat.toDigits 10 n, c.isDigit = true := fun c hc =>
    Nat.isDigit_of_mem_toDigits (by decide) (by decide) hc
  have hstop : rest.takeWhile Char.isDigit = [] ∧ rest.dropWhile Char.isDigit = rest := by
    cases rest with
    | nil => exact ⟨rfl, rfl⟩
    | cons c rest =>
      have hc := (not_isDigit_of_follows h c rfl).1
      exact ⟨List.takeWhile_cons_of_neg (by simp [hc]), List.dropWhile_cons_of_neg (by simp [hc])⟩
  have htake : (Nat.toDigits 10 n ++ rest).takeWhile Char.isDigit = Nat.toDigits 10 n := by
    rw [List.takeWhile_append_of_pos hdigits, hstop.1, List.append_nil]
  have hdrop : (Nat.toDigits 10 n ++ rest).dropWhile Char.isDigit = rest := by
    rw [List.dropWhile_append_of_pos hdigits, hstop.2]
  rw [readDigits, htake, hdrop, if_neg, Nat.ofDigitChars_ten_toDigits]
  rintro (hnil | ⟨hzero, hlong⟩ | hc | hc | hc)
  · exact Nat.toDigits_ne_nil hnil
  · rw [toDigits_head n hzero] at hlong
    exact absurd hlong (by decide)
  · exact (not_isDigit_of_follows h _ hc).2.1 rfl
  · exact (not_isDigit_of_follows h _ hc).2.2.1 rfl
  · exact (not_isDigit_of_follows h _ hc).2.2.2 rfl

/-- The first character of a numeral. -/
theorem toDigits_cons (n : ℕ) : ∃ c cs, Nat.toDigits 10 n = c :: cs ∧ c.isDigit = true := by
  cases h : Nat.toDigits 10 n with
  | nil => exact absurd h Nat.toDigits_ne_nil
  | cons c cs =>
    exact ⟨c, cs, rfl, Nat.isDigit_of_mem_toDigits (b := 10) (n := n) (by decide) (by decide)
      (by rw [h]; exact List.mem_cons_self)⟩

theorem ne_of_isDigit {c d : Char} (hc : c.isDigit = true) (hd : d.isDigit = false) : c ≠ d := by
  rintro rfl
  rw [hc] at hd
  cases hd

theorem readScalar_number (n : ℕ) (h : Follows rest) :
    readScalar (Nat.toDigits 10 n ++ rest) = some (.number n, rest) := by
  obtain ⟨c, cs, hcons, hc⟩ := toDigits_cons n
  have hread := readDigits_toDigits n h
  rw [hcons] at hread ⊢
  have hn : 'n' ≠ c := (ne_of_isDigit hc (by decide)).symm
  have ht : 't' ≠ c := (ne_of_isDigit hc (by decide)).symm
  have hf : 'f' ≠ c := (ne_of_isDigit hc (by decide)).symm
  have hm : c ≠ '-' := ne_of_isDigit hc (by decide)
  rw [List.cons_append] at hread ⊢
  simp [readScalar, hread, hn, ht, hf, hm]

theorem readScalar_negative (n : ℕ) (h : Follows rest) :
    readScalar ('-' :: Nat.toDigits 10 n ++ rest) = some (.integer (-n), rest) := by
  simp [readScalar, readDigits_toDigits n h]

/-! ### Values -/

section

variable (layout : Layout)

theorem written_cons (depth : ℕ) (value : Json) :
    ∃ c cs, layout.written depth value = c :: cs ∧ isSpace c = false ∧ c ≠ ']' ∧ c ≠ '\x7d' := by
  have hdigit : ∀ n : ℕ, ∃ c cs, Nat.toDigits 10 n = c :: cs ∧ isSpace c = false ∧ c ≠ ']' ∧ c ≠ '\x7d' := by
    intro n
    obtain ⟨c, cs, hcons, hc⟩ := toDigits_cons n
    have hne : ∀ {d : Char}, d.isDigit = false → c ≠ d := ne_of_isDigit hc
    refine ⟨c, cs, hcons, ?_, hne (by decide), hne (by decide)⟩
    have hblank : c ≠ ' ' ∧ c ≠ '\n' ∧ c ≠ '\t' ∧ c ≠ '\x0d' :=
      ⟨hne (by decide), hne (by decide), hne (by decide), hne (by decide)⟩
    simp [isSpace, hblank]
  cases value with
  | null => exact ⟨'n', _, rfl, by decide⟩
  | bool b =>
    cases b with
    | true => exact ⟨'t', _, rfl, by decide⟩
    | false => exact ⟨'f', _, rfl, by decide⟩
  | number n =>
    rw [written]
    exact hdigit n
  | integer n =>
    rw [written]
    by_cases hn : n < 0
    · rw [if_pos hn]
      exact ⟨'-', _, rfl, by decide⟩
    · rw [if_neg hn]
      exact hdigit n.natAbs
  | text s => exact ⟨'"', _, by rw [Layout.written, quote, List.cons_append], by decide⟩
  | array items => exact ⟨'[', _, by rw [Layout.written], by decide⟩
  | object fields => exact ⟨'\x7b', _, by rw [Layout.written], by decide⟩

theorem skipSpace_written (depth : ℕ) (value : Json) (rest : List Char) :
    skipSpace (layout.written depth value ++ rest) = layout.written depth value ++ rest := by
  obtain ⟨c, cs, hcons, hspace, -⟩ := written_cons layout depth value
  rw [hcons, List.cons_append, skipSpace_cons _ hspace]

theorem readValue_of_scalar {value : Json} {depth fuel : ℕ} {rest : List Char} {cs : List Char}
    (hcons : layout.written depth value = c :: cs) (hc : c ≠ '"' ∧ c ≠ '[' ∧ c ≠ '\x7b') :
    readValue (fuel + 1) (layout.written depth value ++ rest) = readScalar (layout.written depth value ++ rest) := by
  rw [readValue, skipSpace_written, hcons]
  simp [hc.1, hc.2.1, hc.2.2]

theorem readValue_congr {input input' : List Char} (h : skipSpace input = skipSpace input')
    (fuel : ℕ) : readValue fuel input = readValue fuel input' := by
  cases fuel with
  | zero => rfl
  | succ fuel => rw [readValue, readValue, h]

theorem follows_entries {α : Type} {entries : List α} {text : List α → List Char} {tail : List Char}
    (hnil : text [] = []) (hcons : ∀ a l, ∃ cs, text (a :: l) = ',' :: cs) (htail : Follows tail) :
    Follows (text entries ++ tail) := by
  cases entries with
  | nil => simpa [hnil] using htail
  | cons a l =>
    obtain ⟨cs, hcs⟩ := hcons a l
    rw [hcs, List.cons_append]
    exact follows_cons (.inl rfl)

theorem entryStart_opening (depth : ℕ) (first : Bool) {entry : List Char} {cs : List Char}
    (hentry : entry = c :: cs) (hc : isSpace c = false) (close : Char) (hclose : c ≠ close)
    (hcomma : close ≠ ',') :
    (skipSpace (layout.opening depth first ++ entry)).head? ≠ some close ∧
      ∃ start, entryStart first (skipSpace (layout.opening depth first ++ entry)) = some start ∧
        skipSpace start = entry := by
  have hskip : skipSpace entry = entry := by rw [hentry, skipSpace_cons _ hc]
  cases first with
  | true =>
    have hstart : skipSpace (layout.opening depth true ++ entry) = entry := by
      rw [Layout.opening, if_pos rfl, List.nil_append, skipSpace_append (layout.blank_space depth), hskip]
    rw [hstart]
    refine ⟨?_, entry, rfl, hskip⟩
    rw [hentry]
    simpa using hclose
  | false =>
    have hstart : skipSpace (layout.opening depth false ++ entry) = ',' :: (layout.blank depth ++ entry) := by
      rw [Layout.opening, if_neg Bool.false_ne_true]
      exact skipSpace_cons _ (by decide)
    rw [hstart]
    refine ⟨?_, layout.blank depth ++ entry, rfl, ?_⟩
    · simpa using hcomma.symm
    · rw [skipSpace_append (layout.blank_space depth), hskip]

theorem follows_closing (depth : ℕ) (isEmpty : Bool) {close : Char} (hclose : close = ']' ∨ close = '\x7d')
    (rest : List Char) : Follows (layout.closing depth isEmpty ++ close :: rest) := by
  have hclose : Follows (close :: rest) := follows_cons (.inr (by tauto))
  unfold Layout.closing
  cases isEmpty with
  | true => exact hclose
  | false =>
    rw [if_neg Bool.false_ne_true]
    cases h : layout.blank depth with
    | nil => exact hclose
    | cons c cs =>
      exact follows_cons (.inr (.inr (.inr (layout.blank_space depth c (h ▸ List.mem_cons_self)))))

theorem skipSpace_closing (depth : ℕ) (isEmpty : Bool) {close : Char} (hclose : isSpace close = false)
    (rest : List Char) : skipSpace (layout.closing depth isEmpty ++ close :: rest) = close :: rest := by
  unfold Layout.closing
  cases isEmpty with
  | true => exact skipSpace_cons _ hclose
  | false =>
    rw [if_neg Bool.false_ne_true, skipSpace_append (layout.blank_space depth)]
    exact skipSpace_cons _ hclose

theorem readValue_number (n depth fuel : ℕ) {rest : List Char} (hrest : Follows rest) :
    readValue (fuel + 1) (layout.written depth (.number n) ++ rest) = some (.number n, rest) := by
  obtain ⟨d, ds, hdigits, hd⟩ := toDigits_cons n
  have hcons : layout.written depth (.number n) = d :: ds := by rw [written, hdigits]
  have hd' : d ≠ '"' ∧ d ≠ '[' ∧ d ≠ '\x7b' :=
    ⟨ne_of_isDigit hd (by decide), ne_of_isDigit hd (by decide), ne_of_isDigit hd (by decide)⟩
  rw [readValue_of_scalar layout hcons hd', written, readScalar_number n hrest]

theorem readValue_integer (n : ℤ) (depth fuel : ℕ) {rest : List Char} (hrest : Follows rest) :
    readValue (fuel + 1) (layout.written depth (.integer n) ++ rest) = some ((Json.integer n).normalize, rest) := by
  rw [normalize]
  by_cases hn : n < 0
  · have hcons : layout.written depth (.integer n) = '-' :: Nat.toDigits 10 n.natAbs := by
      rw [written, if_pos hn]
    rw [readValue_of_scalar layout hcons (by decide), hcons, readScalar_negative _ hrest, if_pos hn]
    have habs : -(n.natAbs : ℤ) = n := by omega
    rw [habs]
  · have hsame : layout.written depth (.integer n) = layout.written depth (.number n.natAbs) := by
      simp only [written, if_neg hn]
    rw [hsame, readValue_number layout _ _ _ hrest, if_neg hn]

mutual

theorem readValue_written (value : Json) (depth : ℕ) {fuel : ℕ} {rest : List Char}
    (hfuel : (layout.written depth value).length ≤ fuel) (hrest : Follows rest) :
    readValue fuel (layout.written depth value ++ rest) = some (value.normalize, rest) := by
  obtain ⟨c, cs, hcons, -⟩ := written_cons layout depth value
  obtain ⟨fuel, rfl⟩ : ∃ k, fuel = k + 1 :=
    ⟨fuel - 1, by rw [hcons, List.length_cons] at hfuel; omega⟩
  cases value with
  | null => rfl
  | bool b => cases b <;> rfl
  | number n => rw [readValue_number layout n depth fuel hrest, normalize]
  | integer n => exact readValue_integer layout n depth fuel hrest
  | text s =>
    rw [readValue, skipSpace_written, written, if_pos (by simp [quote]), readQuoted_quote]
    simp [normalize]
  | array items =>
    have hlength : (layout.writtenItems (depth + 1) true items).length < fuel := by
      simp only [written, List.length_cons, List.length_append] at hfuel
      omega
    have hitems := readItems_writtenItems items (depth + 1) true hlength
      (skipSpace_closing layout depth items.isEmpty (by decide) rest) (follows_closing layout depth _ (.inl rfl) rest)
    rw [readValue, skipSpace_written, written]
    simp [hitems, normalize]
  | object fields =>
    have hlength : (layout.writtenFields (depth + 1) true fields).length < fuel := by
      simp only [written, List.length_cons, List.length_append] at hfuel
      omega
    have hfields := readFields_writtenFields fields (depth + 1) true hlength
      (skipSpace_closing layout depth fields.isEmpty (by decide) rest) (follows_closing layout depth _ (.inr rfl) rest)
    rw [readValue, skipSpace_written, written]
    simp [hfields, normalize]

theorem readItems_writtenItems (items : List Json) (depth : ℕ) (first : Bool) {fuel : ℕ}
    {tail rest : List Char} (hfuel : (layout.writtenItems depth first items).length < fuel)
    (htail : skipSpace tail = ']' :: rest) (hfollows : Follows tail) :
    readItems fuel first (layout.writtenItems depth first items ++ tail) = some (normalizeItems items, rest) := by
  obtain ⟨fuel, rfl⟩ : ∃ k, fuel = k + 1 := ⟨fuel - 1, by omega⟩
  cases items with
  | nil =>
    rw [readItems]
    simp [writtenItems, htail, normalizeItems]
  | cons item items =>
    have htail' : Follows (layout.writtenItems depth false items ++ tail) :=
      follows_entries (by rw [Layout.writtenItems])
        (fun a l => ⟨_, by
          rw [Layout.writtenItems, Layout.opening, if_neg Bool.false_ne_true]; rfl⟩)
        hfollows
    obtain ⟨c, cs, hcons, hspace, hclose, -⟩ := written_cons layout depth item
    obtain ⟨hhead, start, hstart, hskip⟩ := entryStart_opening layout depth first
      (show layout.written depth item ++ (layout.writtenItems depth false items ++ tail) =
        c :: _ by rw [hcons, List.cons_append])
      hspace ']' hclose (by decide)
    rw [writtenItems, List.length_append, List.length_append] at hfuel
    have hone : 1 ≤ (layout.written depth item).length := by rw [hcons, List.length_cons]; omega
    have hvalue : readValue fuel start = some (item.normalize, layout.writtenItems depth false items ++ tail) := by
      rw [readValue_congr (hskip.trans (skipSpace_written layout depth item _).symm)]
      exact readValue_written item depth (by omega) htail'
    have hrest : readItems fuel false (layout.writtenItems depth false items ++ tail) = some
      (normalizeItems items, rest) :=
      readItems_writtenItems items depth false (by omega) htail hfollows
    rw [readItems, writtenItems, List.append_assoc, List.append_assoc, if_neg hhead, hstart]
    simp [hvalue, hrest, normalizeItems]

theorem readFields_writtenFields (fields : List (String × Json)) (depth : ℕ) (first : Bool)
    {fuel : ℕ} {tail rest : List Char}
    (hfuel : (layout.writtenFields depth first fields).length < fuel)
    (htail : skipSpace tail = '\x7d' :: rest) (hfollows : Follows tail) :
    readFields fuel first (layout.writtenFields depth first fields ++ tail) = some (normalizeFields fields, rest) := by
  obtain ⟨fuel, rfl⟩ : ∃ k, fuel = k + 1 := ⟨fuel - 1, by omega⟩
  cases fields with
  | nil =>
    rw [readFields]
    simp [writtenFields, htail, normalizeFields]
  | cons field fields =>
    obtain ⟨name, value⟩ := field
    have htail' : Follows (layout.writtenFields depth false fields ++ tail) :=
      follows_entries (by rw [Layout.writtenFields])
        (fun a l => ⟨_, by rw [Layout.writtenFields, Layout.opening, if_neg Bool.false_ne_true]; rfl⟩) hfollows
    obtain ⟨hhead, start, hstart, hskip⟩ := entryStart_opening layout depth first
      (show quote name ++ ':' :: (layout.gap ++ (layout.written depth value ++
        (layout.writtenFields depth false fields ++ tail))) = '"' :: _ by rw [quote]; rfl)
      (by decide) '\x7d' (by decide) (by decide)
    simp only [writtenFields, List.length_append, List.length_cons, quote] at hfuel
    have hvalue : readValue fuel (layout.gap ++ (layout.written depth value ++
        (layout.writtenFields depth false fields ++ tail))) =
        some (value.normalize, layout.writtenFields depth false fields ++ tail) := by
      rw [readValue_congr (skipSpace_append layout.gap_space _)]
      exact readValue_written value depth (by omega) htail'
    have hrest : readFields fuel false (layout.writtenFields depth false fields ++ tail) =
        some (normalizeFields fields, rest) :=
      readFields_writtenFields fields depth false (by omega) htail hfollows
    have hcolon : skipSpace (':' :: (layout.gap ++ (layout.written depth value ++
        (layout.writtenFields depth false fields ++ tail)))) =
        ':' :: (layout.gap ++ (layout.written depth value ++ (layout.writtenFields depth false fields ++ tail))) :=
      skipSpace_cons _ (by decide)
    rw [readFields, writtenFields]
    simp only [List.append_assoc, List.cons_append]
    rw [if_neg hhead, hstart]
    simp [hskip, readQuoted_quote, hcolon, hvalue, hrest, normalizeFields]

end

end

theorem fromUtf8_encoded (chars : List Char) :
    fromUtf8 (chars.flatMap String.utf8EncodeChar) = some (String.ofList chars) := by
  have hbytes : (⟨(chars.flatMap String.utf8EncodeChar).toArray⟩ : ByteArray) = chars.utf8Encode := by
    rw [List.utf8Encode]
    exact ByteArray.ext (by simp)
  rw [fromUtf8, String.fromUTF8?, hbytes, dif_pos ⟨chars, rfl⟩]
  rfl

/-- **The reader inverts the pretty writer**, also with a newline at the end. -/
theorem fromSlice_toVecPretty (value : Json) : fromSlice (value.toVecPretty ++ [10]) = some value.normalize := by
  have hbytes : value.toVecPretty ++ [10] = (value.prettyChars 0 ++ ['\n']).flatMap String.utf8EncodeChar := by
    rw [List.flatMap_append]
    rfl
  have hread : readValue ((value.prettyChars 0 ++ ['\n']).length + 1)
      (value.prettyChars 0 ++ ['\n']) = some (value.normalize, ['\n']) := by
    rw [← written_pretty]
    exact readValue_written .pretty value 0 (by rw [List.length_append]; omega) (follows_cons (.inr (.inr (.inr rfl))))
  rw [fromSlice, hbytes, fromUtf8_encoded]
  simp only [Option.bind_eq_bind, Option.bind_some, String.toList_ofList, hread]
  rfl

/-- **The reader inverts the compact writer.** -/
theorem fromStr_chars (value : Json) : fromStr (String.ofList value.chars) = some value.normalize := by
  have hread : readValue (value.chars.length + 1) value.chars = some (value.normalize, []) := by
    have hwritten := readValue_written .compact value 0 (Nat.le_succ _) follows_nil
    rwa [List.append_nil, written_compact] at hwritten
  rw [fromStr, String.toList_ofList, hread]
  rfl

theorem fromSlice_toVec (value : Json) : fromSlice value.toVec = some value.normalize := by
  rw [fromSlice, toVec, fromUtf8_encoded]
  exact fromStr_chars value

/-! ## How long a text can be -/

def byteLength (l : List Char) : ℕ := (l.flatMap String.utf8EncodeChar).length

@[simp] theorem byteLength_nil : byteLength [] = 0 := rfl

@[simp] theorem byteLength_cons (c : Char) (l : List Char) : byteLength (c :: l) = c.utf8Size + byteLength l := by
  rw [byteLength, List.flatMap_cons, List.length_append, String.length_utf8EncodeChar]
  rfl

@[simp] theorem byteLength_append (l l' : List Char) : byteLength (l ++ l') = byteLength l + byteLength l' := by
  induction l with
  | nil => simp
  | cons c l ih =>
    rw [List.cons_append, byteLength_cons, byteLength_cons, ih]
    omega

theorem utf8Size_of_ascii (h : c.toNat < 0x80) : c.utf8Size = 1 := by
  have hval : c.val ≤ 0x7f := UInt32.le_iff_toNat_le.mpr (Nat.le_of_lt_succ h)
  simp [Char.utf8Size, hval]

theorem byteLength_of_ascii {l : List Char} (h : ∀ c ∈ l, c.utf8Size = 1) : byteLength l = l.length := by
  induction l with
  | nil => rfl
  | cons c l ih =>
    rw [byteLength_cons, h c List.mem_cons_self, ih fun e he => h e (List.mem_cons_of_mem _ he), List.length_cons]
    omega

def quoteBytes (s : String) : ℕ := byteLength (quote s)

/-- A text that is written without escapes, one byte for a character. -/
def isPlain (s : String) : Bool :=
  s.toList.all fun c => 0x20 ≤ c.toNat && c.toNat < 0x7f && c != '"' && c != '\\'

theorem quoteBytes_eq (s : String) : quoteBytes s = byteLength (s.toList.flatMap escapeChar) + 2 := by
  have hquote : ('"' : Char).utf8Size = 1 := rfl
  simp only [quoteBytes, quote, List.cons_append, byteLength_cons, byteLength_append, byteLength_nil, hquote]
  omega

theorem quoteBytes_of_isPlain {s : String} (h : isPlain s = true) : quoteBytes s = 2 + s.toList.length := by
  have hchar : ∀ c ∈ s.toList, escapeChar c = [c] ∧ c.utf8Size = 1 := by
    intro c hc
    have hc := List.all_eq_true.mp h c hc
    simp only [Bool.and_eq_true, decide_eq_true_eq, bne_iff_ne] at hc
    obtain ⟨⟨⟨hlow, hhigh⟩, hquote⟩, hbackslash⟩ := hc
    have hne : ∀ d : Char, d.toNat < 0x20 → c ≠ d := by
      rintro d hd rfl
      omega
    refine ⟨?_, ?_⟩
    · rw [escapeChar, if_neg hquote, if_neg hbackslash, if_neg (hne _ (by decide)), if_neg (hne _ (by decide)),
        if_neg (hne _ (by decide)), if_neg (hne _ (by decide)), if_neg (hne _ (by decide)), if_neg (by omega)]
    · exact utf8Size_of_ascii (by omega)
  have hword : ∀ word : List Char, (∀ c ∈ word, escapeChar c = [c] ∧ c.utf8Size = 1) →
      byteLength (word.flatMap escapeChar) = word.length := by
    intro word hall
    induction word with
    | nil => rfl
    | cons c word ih =>
      obtain ⟨hescape, hsize⟩ := hall c List.mem_cons_self
      rw [List.flatMap_cons, hescape, byteLength_append, ih fun e he => hall e (List.mem_cons_of_mem _ he),
        byteLength_cons, hsize, byteLength_nil, List.length_cons]
      omega
  rw [quoteBytes_eq, hword _ hchar]
  omega

mutual

/-- A value without arrays whose texts are no longer than a digest and whose numbers
are machine integers. -/
def Short : Json → Prop
  | .number n => n ≤ u64Max
  | .integer n => n.natAbs ≤ u64Max
  | .text s => quoteBytes s ≤ 66
  | .array _ => False
  | .object fields => ShortFields fields
  | _ => True

def ShortFields : List (String × Json) → Prop
  | [] => True
  | (_, value) :: fields => Short value ∧ ShortFields fields

end

mutual

def bound : ℕ → Json → ℕ
  | _, .number _ => 20
  | _, .integer _ => 21
  | _, .null | _, .bool _ | _, .text _ | _, .array _ => 66
  | depth, .object fields => 3 + 2 * depth + boundFields (depth + 1) fields

def boundFields : ℕ → List (String × Json) → ℕ
  | _, [] => 0
  | depth, (name, value) :: fields =>
    4 + 2 * depth + quoteBytes name + bound depth value + boundFields depth fields

end

section

variable (depth : ℕ)

theorem bound_option (s : Option String) : bound depth (option text s) = 66 := by
  cases s with
  | none => rw [option, bound]
  | some s => rw [option, bound]

theorem byteLength_indent : byteLength (indent depth) = 2 * depth := by
  rw [byteLength_of_ascii, indent, List.length_replicate]
  intro c hc
  rw [List.eq_of_mem_replicate hc]
  rfl

theorem byteLength_opening_le (first : Bool) : byteLength (opening depth first) ≤ 2 + 2 * depth := by
  have hcomma : (',' : Char).utf8Size = 1 := rfl
  have hline : ('\n' : Char).utf8Size = 1 := rfl
  cases first with
  | true => simp [opening, byteLength_indent, hline]
  | false =>
    simp [opening, byteLength_indent, hcomma, hline]
    omega

theorem byteLength_closing_le (isEmpty : Bool) : byteLength (closing depth isEmpty) ≤ 1 + 2 * depth := by
  have hline : ('\n' : Char).utf8Size = 1 := rfl
  cases isEmpty <;> simp [closing, byteLength_indent, hline]

end

theorem byteLength_toDigits (n : ℕ) : byteLength (Nat.toDigits 10 n) = (Nat.toDigits 10 n).length := by
  refine byteLength_of_ascii fun c hc => ?_
  have hdigit := Nat.isDigit_of_mem_toDigits (by decide) (by decide) hc
  simp only [Char.isDigit, Bool.and_eq_true, decide_eq_true_eq, ge_iff_le, UInt32.le_iff_toNat_le] at hdigit
  have hhigh : c.toNat ≤ 57 := hdigit.2
  exact utf8Size_of_ascii (by omega)

theorem byteLength_toDigits_le {n : ℕ} (h : n ≤ u64Max) : byteLength (Nat.toDigits 10 n) ≤ 20 := by
  rw [byteLength_toDigits, Nat.length_toDigits_le_iff (by decide) (by decide)]
  exact lt_of_le_of_lt h (by decide)

mutual

theorem byteLength_prettyChars_le {value : Json} (h : Short value) (depth : ℕ) :
    byteLength (prettyChars depth value) ≤ bound depth value := by
  cases value with
  | null =>
    rw [prettyChars, bound]
    decide
  | bool b =>
    rw [bound]
    cases b <;> rw [prettyChars] <;> decide
  | number n =>
    rw [prettyChars, bound]
    exact byteLength_toDigits_le h
  | integer n =>
    have hminus : ('-' : Char).utf8Size = 1 := rfl
    have hdigits := byteLength_toDigits_le (n := n.natAbs) h
    rw [prettyChars, bound]
    by_cases hn : n < 0
    · rw [if_pos hn, byteLength_cons, hminus]
      omega
    · rw [if_neg hn]
      omega
  | text s => exact h
  | array items => exact h.elim
  | object fields =>
    have hfields := @byteLength_prettyFields_le fields h (depth + 1) true
    have hclosing := byteLength_closing_le depth fields.isEmpty
    have hopen : ('\x7b' : Char).utf8Size = 1 := rfl
    have hclose : ('\x7d' : Char).utf8Size = 1 := rfl
    simp only [prettyChars, bound, byteLength_cons, byteLength_append, byteLength_nil, hopen, hclose]
    omega

theorem byteLength_prettyFields_le {fields : List (String × Json)} (h : ShortFields fields) (depth : ℕ) (first : Bool) :
    byteLength (prettyFields depth first fields) ≤ boundFields depth fields := by
  cases fields with
  | nil => simp [prettyFields, boundFields]
  | cons field fields =>
    obtain ⟨name, value⟩ := field
    have hopening := byteLength_opening_le depth first
    have hname : byteLength (quote name) = quoteBytes name := rfl
    have hvalue := byteLength_prettyChars_le h.1 depth
    have hfields := byteLength_prettyFields_le h.2 depth false
    have hcolon : (':' : Char).utf8Size = 1 := rfl
    have hspace : (' ' : Char).utf8Size = 1 := rfl
    simp only [prettyFields, boundFields, byteLength_append, byteLength_cons, hcolon, hspace]
    omega

end

/-! ## Fields of a record -/

/-- The fields of an object, none unknown (`deny_unknown_fields`) and none repeated. -/
def knownFields (names : List String) : Json → Option (List (String × Json))
  | .object fields =>
    if (fields.all fun field => names.contains field.1) ∧ (fields.map (·.1)).Nodup then some fields else none
  | _ => none

/-- The fields of an object, none of the named ones repeated; others are passed over. -/
def recordFields (names : List String) : Json → Option (List (String × Json))
  | .object fields => if ((fields.map (·.1)).filter names.contains).Nodup then some fields else none
  | _ => none

/-- An unsigned integer. -/
def asNat : Json → Option ℕ
  | .number n => some n
  | _ => none

def asInt : Json → Option ℤ
  | .number n => some n
  | .integer n => some n
  | _ => none

/-- A truth value. -/
def asBool : Json → Option Bool
  | .bool b => some b
  | _ => none

def asText : Json → Option String
  | .text s => some s
  | _ => none

def asList (read : Json → Option α) : Json → Option (List α)
  | .array items => items.mapM read
  | _ => none

/-- A value or `null`. -/
def asOption (read : Json → Option α) : Json → Option (Option α)
  | .null => some none
  | value => (read value).map some

def textMap (m : BTreeMap String String) : Json := .object (m.toList.map fun entry => (entry.1, .text entry.2))

/-- A map of texts; of two entries of one name the later one counts. -/
def asTextMap : Json → Option (BTreeMap String String)
  | .object fields =>
    (fields.mapM fun field => (asText field.2).map fun value => (field.1, value)).map (Std.ExtTreeMap.ofList · compare)
  | _ => none

def field (fields : List (String × Json)) (name : String) (read : Json → Option α) : Option α :=
  (fields.lookup name).bind read

/-- An `Option` field, which may be missing. -/
def optionalField (fields : List (String × Json)) (name : String) (read : Json → Option α) :
    Option (Option α) :=
  match fields.lookup name with
  | none => some none
  | some value => asOption read value

@[simp] theorem normalize_number (n : ℕ) : (Json.number n).normalize = .number n := by rw [normalize]

@[simp] theorem normalize_bool (b : Bool) : (Json.bool b).normalize = .bool b := by rw [normalize]

@[simp] theorem normalize_text (s : String) : (Json.text s).normalize = .text s := by rw [normalize]

@[simp] theorem normalize_object (fields : List (String × Json)) :
    (Json.object fields).normalize = .object (normalizeFields fields) := by rw [normalize]

@[simp] theorem normalizeFields_nil : normalizeFields [] = [] := by rw [normalizeFields]

@[simp] theorem normalizeFields_cons (name : String) (value : Json) (fields : List (String × Json)) :
    normalizeFields ((name, value) :: fields) = (name, value.normalize) :: normalizeFields fields := by
  rw [normalizeFields]

section

variable {names : List String} {fields : List (String × Json)} (h : fields.map (·.1) = names) (hnodup : names.Nodup)

include h hnodup

theorem knownFields_object : knownFields names (.object fields) = some fields := by
  rw [knownFields, if_pos]
  refine ⟨List.all_eq_true.mpr fun field hfield => ?_, by rwa [h]⟩
  rw [List.contains_iff_mem, ← h]
  exact List.mem_map_of_mem hfield

theorem recordFields_object : recordFields names (.object fields) = some fields := by
  rw [recordFields, if_pos]
  rw [h]
  exact hnodup.filter _

end

theorem field_self (name : String) (value : Json) (fields : List (String × Json))
    (read : Json → Option α) : field ((name, value) :: fields) name read = read value := by
  simp [field]

theorem field_other {name other : String} (h : name ≠ other) (value : Json) (fields : List (String × Json))
    (read : Json → Option α) : field ((other, value) :: fields) name read = field fields name read := by
  have hne : (name == other) = false := beq_eq_false_iff_ne.mpr h
  rw [field, List.lookup_cons, hne]
  rfl

theorem optionalField_self (name : String) (value : Json) (fields : List (String × Json))
    (read : Json → Option α) : optionalField ((name, value) :: fields) name read = asOption read value := by
  simp [optionalField]

theorem optionalField_other {name other : String} (h : name ≠ other) (value : Json)
    (fields : List (String × Json)) (read : Json → Option α) :
    optionalField ((other, value) :: fields) name read = optionalField fields name read := by
  have hne : (name == other) = false := beq_eq_false_iff_ne.mpr h
  rw [optionalField, List.lookup_cons, hne]
  rfl

theorem asInt_normalize (n : ℤ) : (Json.integer n).normalize.asInt = some n := by
  rw [normalize]
  by_cases hn : n < 0
  · rw [if_pos hn]
    rfl
  · rw [if_neg hn]
    exact congrArg some (by omega)

section

variable {write : α → Json} {read : Json → Option α} (h : ∀ a, read (write a).normalize = some a)

include h

theorem asOption_normalize (hnull : ∀ a, (write a).normalize ≠ .null) (a : Option α) :
    asOption read (option write a).normalize = some a := by
  cases a with
  | none => rfl
  | some a =>
    rw [option, asOption]
    · rw [h, Option.map_some]
    · exact hnull a

theorem asList_normalize (l : List α) :
    asList read (Json.array (l.map write)).normalize = some l := by
  rw [normalize, asList]
  induction l with
  | nil => rfl
  | cons a l ih => simp [normalizeItems, h, ih]

end

theorem asTextMap_normalize (m : BTreeMap String String) : asTextMap (textMap m).normalize = some m := by
  have hread : ∀ l : List (String × String),
      (normalizeFields (l.map fun entry => (entry.1, .text entry.2))).mapM
        (fun field => (asText field.2).map fun value => (field.1, value)) = some l := by
    intro l
    induction l with
    | nil => rfl
    | cons entry l ih =>
      rw [List.map_cons, normalizeFields_cons, normalize_text, List.mapM_cons, ih]
      rfl
  rw [textMap, normalize_object, asTextMap, hread, Option.map_some]
  exact congrArg some (ofList_toList m)

end Json

/-! ## Records in files -/

/-- The derived `Serialize` and `Deserialize` of a type. -/
class Serde (α : Type) where
  toJson : α → Json
  fromJson : Json → Option α
  fromJson_toJson : ∀ a, fromJson (toJson a).normalize = some a

attribute [simp] Serde.fromJson_toJson

/-- Why a file is not a record. -/
inductive Unreadable where
  | serialization
  | nonCanonical
deriving DecidableEq, Repr

section

variable {α : Type} [Serde α]

/-- The bytes of a record in a file (`checkpoint_bytes`, `record_bytes`, `canonical_bytes`,
`canonical_json`): the pretty text and a newline. -/
def canonicalBytes (value : α) : Bytes := (Serde.toJson value).toVecPretty ++ [10]

/-- `read_canonical`: the record of a file, if writing it gives the file again. -/
def readCanonical (input : Bytes) : Except Unreadable α := do
  let value ← okOr ((Json.fromSlice input).bind Serde.fromJson) .serialization
  failIf (input ≠ canonicalBytes value) .nonCanonical
  pure value

theorem readCanonical_eq_ok {input : Bytes} {value : α} :
    readCanonical input = .ok value ↔ input = canonicalBytes value := by
  simp only [readCanonical, do_eq_ok, not_not]
  constructor
  · rintro ⟨read, -, hinput, rfl⟩
    exact hinput
  · rintro rfl
    refine ⟨value, ?_, rfl, rfl⟩
    rw [canonicalBytes, Json.fromSlice_toVecPretty, Option.bind_some, Serde.fromJson_toJson]

/-- `serde_json::to_vec` of a record. -/
def compactBytes (value : α) : Bytes := (Serde.toJson value).toVec

theorem compactBytes_injective : Function.Injective (compactBytes : α → Bytes) := by
  intro a b h
  have ha : (Json.fromSlice (compactBytes a)).bind Serde.fromJson = some a := by
    rw [compactBytes, Json.fromSlice_toVec, Option.bind_some, Serde.fromJson_toJson]
  rw [h, compactBytes, Json.fromSlice_toVec, Option.bind_some, Serde.fromJson_toJson] at ha
  exact (Option.some.inj ha).symm

theorem length_canonicalBytes_le {value : α} (h : (Serde.toJson value).Short) :
    (canonicalBytes value).length ≤ Json.bound 0 (Serde.toJson value) + 1 := by
  have hpretty : (Serde.toJson value).toVecPretty.length ≤ _ := Json.byteLength_prettyChars_le h 0
  rw [canonicalBytes, List.length_append, List.length_singleton]
  omega

theorem canonicalBytes_ne_nil (value : α) : canonicalBytes value ≠ [] := by
  simp [canonicalBytes]

end

example : (Json.object [("a", .number 1), ("b", .texts ["x"]), ("c", .array [])]).prettyChars 0 =
    "\x7b\n  \"a\": 1,\n  \"b\": [\n    \"x\"\n  ],\n  \"c\": []\n\x7d".toList := by decide

end BoundSeal.Rust
