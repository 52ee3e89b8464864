import BoundSeal.Rust.Files
import BoundSeal.Rust.JsonText
import BoundSeal.Shared

/-!
# Records kept in files: helpers the stores share

The crates that keep a run on disk (operator state, runtime journal, runner,
evidence) carry their own copies of these private functions.
-/

namespace BoundSeal

open Rust

/-- `hash_serializable`. -/
def hashSerializable {α : Type} [Serde α] (value : α) : String :=
  toLowerHex (Sha256.digest (Serde.toJson value).toVec)

theorem isLowerHexSha256_hashSerializable {α : Type} [Serde α] (value : α) :
    isLowerHexSha256 (hashSerializable value) = true :=
  isLowerHexSha256_toLowerHex rfl

/-- `hash_bytes` of a text. -/
def hashText (value : String) : String := toLowerHex (Sha256.digest (bytes value))

theorem isLowerHexSha256_hashText (value : String) : isLowerHexSha256 (hashText value) = true :=
  isLowerHexSha256_toLowerHex rfl

variable {value : String}

section

variable (h : isLowerHexSha256 value = true)

include h

/-- A digest has 64 characters. -/
theorem length_of_isLowerHexSha256 : value.toList.length = 64 := by
  rw [isLowerHexSha256, Bool.and_eq_true, beq_iff_eq, List.all_eq_true] at h
  have hsize : value.utf8ByteSize = value.toList.length := by
    conv_lhs => rw [← String.ofList_toList (s := value)]
    refine utf8ByteSize_ofList fun c hc => ?_
    have hlow := h.2 c hc
    simp only [Char.isDigit, Bool.or_eq_true, Bool.and_eq_true, decide_eq_true_eq, ge_iff_le,
      Char.le_def, UInt32.le_iff_toNat_le] at hlow
    have hf : ('f' : Char).val.toNat = 102 := rfl
    have h9 : ('9' : Char).val.toNat = 57 := rfl
    rw [Char.utf8Size, if_pos]
    show c.val.toNat ≤ 127
    omega
  omega

theorem isPlain_of_isLowerHexSha256 : Json.isPlain value = true := by
  rw [isLowerHexSha256, Bool.and_eq_true, List.all_eq_true] at h
  refine List.all_eq_true.mpr fun c hc => ?_
  have hlow := h.2 c hc
  simp only [Char.isDigit, Bool.or_eq_true, Bool.and_eq_true, decide_eq_true_eq, ge_iff_le,
    Char.le_def, UInt32.le_iff_toNat_le] at hlow
  have ha : ('a' : Char).val.toNat = 97 := rfl
  have hf : ('f' : Char).val.toNat = 102 := rfl
  have hrange : 48 ≤ c.toNat ∧ c.toNat ≤ 57 ∨ 97 ≤ c.toNat ∧ c.toNat ≤ 102 := by
    rcases hlow with ⟨hlow, hhigh⟩ | ⟨hlow, hhigh⟩
    · exact .inl ⟨hlow, hhigh⟩
    · exact .inr ⟨ha ▸ hlow, hf ▸ hhigh⟩
  have hquote : c ≠ '"' := by
    rintro rfl
    revert hrange
    decide
  have hbackslash : c ≠ '\\' := by
    rintro rfl
    revert hrange
    decide
  simp only [Bool.and_eq_true, decide_eq_true_eq, bne_iff_ne]
  exact ⟨⟨⟨by omega, by omega⟩, hquote⟩, hbackslash⟩

/-- A digest in a file. -/
theorem short_of_isLowerHexSha256 : Json.quoteBytes value ≤ 66 := by
  rw [Json.quoteBytes_of_isPlain (isPlain_of_isLowerHexSha256 h), length_of_isLowerHexSha256 h]

end

/-- `u64::checked_add`. -/
def checkedAdd (a b : ℕ) : Option ℕ := if a + b ≤ u64Max then some (a + b) else none

theorem checkedAdd_eq_some {a b c : ℕ} : checkedAdd a b = some c ↔ a + b ≤ u64Max ∧ c = a + b := by
  unfold checkedAdd
  by_cases h : a + b ≤ u64Max
  · rw [if_pos h, Option.some.injEq, eq_comm]
    exact (and_iff_right h).symm
  · rw [if_neg h]
    constructor
    · intro hn
      cases hn
    · rintro ⟨hle, -⟩
      exact absurd hle h

/-- `char::is_control`: the Unicode category `Cc`. -/
def isControl (c : Char) : Bool := c.toNat < 0x20 || (0x7f ≤ c.toNat && c.toNat < 0xa0)

/-- The format `.{name}.{process}.tmp`. -/
def temporaryName (name : String) (processId : ℕ) : String :=
  "." ++ name ++ "." ++ toString processId ++ ".tmp"

/-- What the stores take for a publication that was interrupted. -/
def isTemporary (name : String) : Bool := startsWithChar '.' name && endsWithStr ".tmp" name

theorem isTemporary_temporaryName (name : String) (processId : ℕ) :
    isTemporary (temporaryName name processId) = true := by
  have hstart : startsWithChar '.' (temporaryName name processId) = true := by
    simp [startsWithChar, temporaryName, String.toList_append]
  have hend : endsWithStr ".tmp" (temporaryName name processId) = true := by
    rw [endsWithStr, List.isSuffixOf_iff_suffix, temporaryName, String.toList_append]
    exact List.suffix_append _ _
  rw [isTemporary, hstart, hend]
  rfl

theorem temporaryName_ne {file : String} (h : isTemporary file = false) (name : String)
    (processId : ℕ) : temporaryName name processId ≠ file := by
  rintro rfl
  rw [isTemporary_temporaryName] at h
  cases h

theorem isTemporary_eq_false {name : String} {c : Char} {cs : List Char} (h : name.toList = c :: cs)
    (hc : c ≠ '.') : isTemporary name = false := by
  simp [isTemporary, startsWithChar, h, hc]

end BoundSeal
