import BoundSeal.Rust.JsonText

/-!
# Files of JSON lines

A log file has one compact JSON text on each line. `lines` splits a text as
`str::lines` and `BufRead::lines` do, and `lines_written` gives the lines back that
were written one after the other: no compact text has a line break in it
(`Json.printable_chars`).
-/

namespace BoundSeal.Rust

/-! ## Lines -/

/-- A line without the carriage return before its end. -/
def stripReturn (line : List Char) : List Char := if line.getLast? = some '\x0d' then line.dropLast else line

/-- The lines of a text, with the characters before it on its first line. -/
def linesFrom : List Char → List Char → List (List Char)
  | line, [] => if line = [] then [] else [line]
  | line, c :: rest => if c = '\n' then stripReturn line :: linesFrom [] rest else linesFrom (line ++ [c]) rest

/-- `str::lines`. -/
def lines (text : List Char) : List (List Char) := linesFrom [] text

theorem linesFrom_append {line : List Char} (h : '\n' ∉ line) (start rest : List Char) :
    linesFrom start (line ++ '\n' :: rest) = stripReturn (start ++ line) :: linesFrom [] rest := by
  induction line generalizing start with
  | nil => simp [linesFrom]
  | cons c line ih =>
    rw [List.mem_cons, not_or] at h
    rw [List.cons_append, linesFrom, if_neg (Ne.symm h.1), ih h.2, List.append_assoc]
    rfl

theorem lines_written {ls : List (List Char)} (h : ∀ line ∈ ls, '\n' ∉ line ∧ '\x0d' ∉ line) :
    lines (ls.flatMap fun line => line ++ ['\n']) = ls := by
  induction ls with
  | nil => rfl
  | cons line ls ih =>
    obtain ⟨hnewline, hreturn⟩ := h line List.mem_cons_self
    have hstrip : stripReturn line = line := by
      rw [stripReturn, if_neg]
      exact fun hlast => hreturn (List.mem_of_getLast? hlast)
    have hrest : linesFrom [] (ls.flatMap fun line => line ++ ['\n']) = ls :=
      ih fun other hother => h other (List.mem_cons_of_mem line hother)
    rw [List.flatMap_cons, List.append_assoc, List.singleton_append, lines,
      linesFrom_append hnewline, List.nil_append, hstrip, hrest]

/-- `line.trim().is_empty()`. -/
def isBlankLine (line : List Char) : Bool := line.all isWhitespace

/-! ## No line break in a compact text -/

namespace Json

/-- No control character. -/
def Printable (text : List Char) : Prop := ∀ c ∈ text, 0x20 ≤ c.toNat

theorem Printable.append {a b : List Char} (ha : Printable a) (hb : Printable b) : Printable (a ++ b) :=
  fun c hc => (List.mem_append.mp hc).elim (ha c) (hb c)

theorem Printable.cons {c : Char} {text : List Char} (hc : 0x20 ≤ c.toNat) (h : Printable text) :
    Printable (c :: text) := by
  intro d hd
  rcases List.mem_cons.mp hd with rfl | hd
  · exact hc
  · exact h d hd

theorem printable_nil : Printable [] := fun _ hc => absurd hc List.not_mem_nil

theorem printable_of_all {text : List Char} (h : (text.all fun c => decide (0x20 ≤ c.toNat)) = true) : Printable text :=
  fun c hc => of_decide_eq_true (List.all_eq_true.mp h c hc)

theorem printable_hexDigit {n : ℕ} (h : n < 16) : 0x20 ≤ (hexDigit n).toNat := by
  interval_cases n <;> decide

theorem printable_escapeChar (c : Char) : Printable (escapeChar c) := by
  unfold escapeChar
  split_ifs with h₁ h₂ h₃ h₄ h₅ h₆ h₇ h₈
  iterate 7 exact printable_of_all rfl
  · have hlow : c.toNat % 16 < 16 := Nat.mod_lt _ (by decide)
    have hhigh : c.toNat / 16 < 16 := by omega
    refine .cons (by decide) (.cons (by decide) (.cons (by decide) (.cons (by decide) ?_)))
    exact .cons (printable_hexDigit hhigh) (.cons (printable_hexDigit hlow) printable_nil)
  · exact .cons (by omega) printable_nil

theorem printable_quote (s : String) : Printable (quote s) := by
  refine .append (.cons (by decide) fun c hc => ?_) (.cons (by decide) printable_nil)
  obtain ⟨d, -, hd⟩ := List.mem_flatMap.mp hc
  exact printable_escapeChar d c hd

theorem printable_toDigits (n : ℕ) : Printable (Nat.toDigits 10 n) := by
  intro c hc
  have hdigit := Nat.isDigit_of_mem_toDigits (by decide) (by decide) hc
  simp only [Char.isDigit, ge_iff_le, Bool.and_eq_true, decide_eq_true_eq] at hdigit
  have hlow : '0'.val ≤ c.val := hdigit.1
  have : '0'.toNat ≤ c.toNat := hlow
  exact le_trans (by decide) this

theorem printable_intercalate {entries : List (List Char)}
    (h : ∀ entry ∈ entries, Printable entry) : Printable ([','].intercalate entries) := by
  cases entries with
  | nil => exact printable_nil
  | cons entry entries =>
    rw [intercalate_comma]
    refine .append (h entry List.mem_cons_self) fun c hc => ?_
    obtain ⟨other, hother, hc⟩ := List.mem_flatMap.mp hc
    exact (Printable.cons (by decide) (h other (List.mem_cons_of_mem _ hother))) c hc

mutual

/-- **A compact text has no control character**, and so no line break. -/
theorem printable_chars (value : Json) : Printable value.chars := by
  cases value with
  | null => exact printable_of_all rfl
  | bool b => cases b <;> exact printable_of_all rfl
  | number n =>
    rw [chars]
    exact printable_toDigits n
  | integer n =>
    rw [chars]
    split
    · exact .cons (by decide) (printable_toDigits _)
    · exact printable_toDigits _
  | text s =>
    rw [chars]
    exact printable_quote s
  | array items =>
    rw [chars]
    exact .append (.cons (by decide) (printable_intercalate (printable_itemChars items)))
      (.cons (by decide) printable_nil)
  | object fields =>
    rw [chars]
    exact .append (.cons (by decide) (printable_intercalate (printable_fieldChars fields)))
      (.cons (by decide) printable_nil)

theorem printable_itemChars (items : List Json) : ∀ entry ∈ itemChars items, Printable entry := by
  cases items with
  | nil =>
    rw [itemChars]
    exact fun _ h => absurd h List.not_mem_nil
  | cons item items =>
    rw [itemChars]
    intro entry hentry
    rcases List.mem_cons.mp hentry with rfl | hentry
    · exact printable_chars item
    · exact printable_itemChars items entry hentry

theorem printable_fieldChars (fields : List (String × Json)) : ∀ entry ∈ fieldChars fields, Printable entry := by
  cases fields with
  | nil =>
    rw [fieldChars]
    exact fun _ h => absurd h List.not_mem_nil
  | cons field fields =>
    obtain ⟨name, value⟩ := field
    rw [fieldChars]
    intro entry hentry
    rcases List.mem_cons.mp hentry with rfl | hentry
    · exact .append (printable_quote name) (.cons (by decide) (printable_chars value))
    · exact printable_fieldChars fields entry hentry

end

end Json

end BoundSeal.Rust
