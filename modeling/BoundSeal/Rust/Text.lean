import Mathlib

/-!
# Rust text: the `str` operations of the standard library

A Rust `String` is UTF-8 text, and so is Lean's `String`. The operations below
follow the documentation of `std::str` and `char` on the list of characters.

A predicate on `str::bytes` that accepts ASCII bytes only is stated here on
characters: a character outside ASCII is encoded in bytes above `0x7f`, all of
which such a predicate refuses.
-/

namespace BoundSeal.Rust

/-- A byte string (`[u8]`, `Vec<u8>`). -/
abbrev Bytes := List UInt8

/-- `char::is_whitespace`: the Unicode property `White_Space`. -/
def isWhitespace (c : Char) : Bool :=
  let n := c.toNat
  (9 ≤ n && n ≤ 13) || n == 0x20 || n == 0x85 || n == 0xa0 || n == 0x1680 ||
    (0x2000 ≤ n && n ≤ 0x200a) || n == 0x2028 || n == 0x2029 || n == 0x202f ||
    n == 0x205f || n == 0x3000

/-- `str::trim`. -/
def trim (s : String) : String :=
  String.ofList ((s.toList.dropWhile isWhitespace).rdropWhile isWhitespace)

/-- `str::trim_end_matches` with a `char` pattern. -/
def trimEndMatches (c : Char) (s : String) : String :=
  String.ofList (s.toList.rdropWhile (· == c))

/-- `str::trim_start_matches` with a `char` pattern. -/
def trimStartMatches (c : Char) (s : String) : String :=
  String.ofList (s.toList.dropWhile (· == c))

/-- `str::trim_matches` with a set of characters. -/
def trimMatches (cs : List Char) (s : String) : String :=
  String.ofList ((s.toList.dropWhile cs.contains).rdropWhile cs.contains)

/-- `str::to_ascii_lowercase`. -/
def toAsciiLowercase (s : String) : String := s.map Char.toLower

/-- `str::to_ascii_uppercase`. -/
def toAsciiUppercase (s : String) : String := s.map Char.toUpper

/-- `str::eq_ignore_ascii_case`. -/
def eqIgnoreAsciiCase (a b : String) : Bool := toAsciiLowercase a == toAsciiLowercase b

/-- `str::split` at a `char`. -/
def splitChar (c : Char) (s : String) : List String :=
  (s.toList.splitOn c).map String.ofList

/-- `str::contains` of a `char`. -/
def containsChar (c : Char) (s : String) : Bool := s.toList.contains c

/-- `str::contains` of a `str`. -/
def containsStr (needle s : String) : Bool := s.toList.tails.any needle.toList.isPrefixOf

/-- `str::starts_with` of a `char`. -/
def startsWithChar (c : Char) (s : String) : Bool := s.toList.head? == some c

/-- `str::ends_with` of a `char`. -/
def endsWithChar (c : Char) (s : String) : Bool := s.toList.getLast? == some c

/-- `str::ends_with` of a `str`. -/
def endsWithStr (suffix s : String) : Bool := suffix.toList.isSuffixOf s.toList

/-- `str::starts_with` of a `str`. -/
def startsWithStr (start s : String) : Bool := start.toList.isPrefixOf s.toList

/-- `str::strip_prefix`. -/
def stripStart (start s : String) : Option String :=
  if start.toList.isPrefixOf s.toList then some (String.ofList (s.toList.drop start.toList.length)) else none

/-- `str::strip_suffix`. -/
def stripEnd (suffix s : String) : Option String :=
  if suffix.toList.isSuffixOf s.toList then
    some (String.ofList (s.toList.take (s.toList.length - suffix.toList.length)))
  else none

/-- `u8::is_ascii_control`, of a character; the bytes of other characters are not
control bytes. -/
def isAsciiControlChar (c : Char) : Bool := c.toNat < 0x20 || c.toNat == 0x7f

/-- `str::as_bytes`: the UTF-8 encoding. -/
def bytes (s : String) : Bytes := s.toByteArray.data.toList

/-- `str::from_utf8`. -/
def fromUtf8 (b : Bytes) : Option String := String.fromUTF8? ⟨b.toArray⟩

/-- The format `{n:0width}`: decimal, filled with zeros on the left. -/
def zeroPadded (width n : ℕ) : String :=
  String.ofList (List.replicate (width - (Nat.toDigits 10 n).length) '0' ++ Nat.toDigits 10 n)

/-- `Vec::join` of texts. -/
def join (separator : String) (parts : List String) : String :=
  String.ofList ((parts.map String.toList).intersperse separator.toList).flatten

theorem bytes_injective : Function.Injective bytes := by
  intro s t h
  apply String.toByteArray_inj.mp
  cases hs : s.toByteArray with
  | mk a =>
    cases ht : t.toByteArray with
    | mk b =>
      rw [bytes, bytes, hs, ht] at h
      exact congrArg ByteArray.mk (Array.toList_inj.mp h)

/-! ## Fixed points of the normalising operations -/

@[simp] theorem toList_toAsciiLowercase (s : String) :
    (toAsciiLowercase s).toList = s.toList.map Char.toLower := by
  simp [toAsciiLowercase]

/-- What is left of a text without its end. -/
theorem stripEnd_eq_some {suffix s t : String} : stripEnd suffix s = some t ↔ s = t ++ suffix := by
  rw [stripEnd]
  constructor
  · intro h
    split_ifs at h with hsuffix
    cases h
    obtain ⟨l, hl⟩ := List.isSuffixOf_iff_suffix.mp hsuffix
    rw [← String.toList_inj, ← hl]
    simp
  · rintro rfl
    rw [if_pos (List.isSuffixOf_iff_suffix.mpr (by simp))]
    simp

/-- What is left of a text without its start. -/
theorem stripStart_eq_some {start s t : String} : stripStart start s = some t ↔ s = start ++ t := by
  rw [stripStart]
  constructor
  · intro h
    split_ifs at h with hstart
    cases h
    obtain ⟨l, hl⟩ := List.isPrefixOf_iff_prefix.mp hstart
    rw [← String.toList_inj, ← hl]
    simp
  · rintro rfl
    rw [if_pos (List.isPrefixOf_iff_prefix.mpr (by simp))]
    simp

theorem eqIgnoreAsciiCase_eq (a b : String) :
    eqIgnoreAsciiCase a b = (a.toList.map Char.toLower == b.toList.map Char.toLower) := by
  rw [eqIgnoreAsciiCase, Bool.eq_iff_iff, beq_iff_eq, beq_iff_eq, ← String.toList_inj,
    toList_toAsciiLowercase, toList_toAsciiLowercase]

@[simp] theorem toAsciiLowercase_idem (s : String) :
    toAsciiLowercase (toAsciiLowercase s) = toAsciiLowercase s := by
  apply String.toList_inj.mp
  simp

variable {s : String}

theorem trim_eq_self (h : ∀ c ∈ s.toList, isWhitespace c = false) : trim s = s := by
  have hd : s.toList.dropWhile isWhitespace = s.toList := by
    refine List.dropWhile_eq_self_iff.mpr fun hl => ?_
    rw [h _ (List.getElem_mem hl)]
    simp
  have hr : s.toList.rdropWhile isWhitespace = s.toList := by
    refine List.rdropWhile_eq_self_iff.mpr fun hl => ?_
    rw [h _ (List.getLast_mem hl)]
    simp
  rw [trim, hd, hr, String.ofList_toList]

theorem trimEndMatches_eq_self {c : Char} (h : s.toList.getLast? ≠ some c) :
    trimEndMatches c s = s := by
  have hr : s.toList.rdropWhile (· == c) = s.toList := by
    refine List.rdropWhile_eq_self_iff.mpr fun hl hc => h ?_
    rw [List.getLast?_eq_some_getLast hl]
    simpa using hc
  rw [trimEndMatches, hr, String.ofList_toList]

/-! ## Parts of a split text -/

theorem mem_intercalate_singleton {α : Type} {sep c : α} {ls : List (List α)}
    (h : c ∈ [sep].intercalate ls) : c = sep ∨ ∃ l ∈ ls, c ∈ l := by
  induction ls with
  | nil => simp at h
  | cons l ls ih =>
    cases ls with
    | nil =>
      rw [List.intercalate_singleton] at h
      exact .inr ⟨l, List.mem_singleton_self l, h⟩
    | cons l' ls =>
      rw [List.intercalate_cons_cons, List.mem_append, List.mem_append] at h
      rcases h with (h | h) | h
      · exact .inr ⟨l, List.mem_cons_self, h⟩
      · exact .inl (List.mem_singleton.mp h)
      · rcases ih h with h | ⟨m, hm, hc⟩
        · exact .inl h
        · exact .inr ⟨m, List.mem_cons_of_mem _ hm, hc⟩

theorem mem_part_of_mem (sep : Char) {c : Char} (h : c ∈ s.toList) :
    c = sep ∨ ∃ part ∈ splitChar sep s, c ∈ part.toList := by
  have hjoin : [sep].intercalate (s.toList.splitOn sep) = s.toList := List.intercalate_splitOn sep
  rw [← hjoin] at h
  rcases mem_intercalate_singleton h with h | ⟨l, hl, hc⟩
  · exact .inl h
  · exact .inr ⟨String.ofList l, List.mem_map_of_mem hl, by rwa [String.toList_ofList]⟩

theorem empty_mem_splitChar {sep : Char} (h : s.toList.getLast? = some sep) :
    "" ∈ splitChar sep s := by
  obtain ⟨l, hl⟩ := List.getLast?_eq_some_iff.mp h
  rw [splitChar, hl, List.splitOn_append_cons_self, List.splitOn_nil, List.map_append]
  exact List.mem_append_right _ List.mem_cons_self

/-! ## Decimal numerals -/

theorem ofDigitChars_replicate_zero (k : ℕ) (l : List Char) :
    Nat.ofDigitChars 10 (List.replicate k '0' ++ l) 0 = Nat.ofDigitChars 10 l 0 := by
  induction k with
  | zero => rfl
  | succ k ih =>
    rw [List.replicate_succ, List.cons_append, Nat.ofDigitChars_cons]
    simpa using ih

theorem zeroPadded_injective (width : ℕ) : Function.Injective (zeroPadded width) := by
  intro m n h
  have hl := congrArg (fun s : String => Nat.ofDigitChars 10 s.toList 0) h
  simpa [zeroPadded, ofDigitChars_replicate_zero] using hl

example : zeroPadded 5 42 = "00042" := by decide

theorem utf8ByteSize_ofList {l : List Char} (h : ∀ c ∈ l, c.utf8Size = 1) :
    (String.ofList l).utf8ByteSize = l.length := by
  induction l with
  | nil => rfl
  | cons c l ih =>
    obtain ⟨hc, hl⟩ := List.forall_mem_cons.mp h
    rw [String.ofList_cons, String.utf8ByteSize_append, String.utf8ByteSize_singleton, ih hl, hc,
      List.length_cons, Nat.add_comm]

end BoundSeal.Rust
