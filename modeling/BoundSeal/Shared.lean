import BoundSeal.Rust.Collections
import BoundSeal.Rust.Json
import BoundSeal.Rust.Sha256
import BoundSeal.Rust.Time

/-!
# Helpers the crates share

The crates of the workspace each carry their own copy of a few small private
functions. They are modelled once here, under the names the crates use.
-/

namespace BoundSeal

open Rust

/-! ## Identifiers and hosts -/

/-- `normalize_identifier`. -/
def normalizeIdentifier (value : String) : String := toAsciiLowercase (trim value)

def isIdentifierChar (c : Char) : Bool :=
  c.isAlphanum || c == '-' || c == '_' || c == '.' || c == ':'

/-- `is_valid_identifier`. -/
def isValidIdentifier (value : String) : Bool :=
  let value := trim value
  value != "" && value.utf8ByteSize ≤ 128 && value.toList.all isIdentifierChar

/-- `sanitized_dns_identifier` of the gateway, `sanitize_identifier` of the transport. -/
def sanitizeIdentifier (value : String) : String :=
  let value := trim value
  if value = "" ∨ value.utf8ByteSize > 128 ∨ ¬ value.toList.all isIdentifierChar then "[invalid]"
  else toAsciiLowercase value

/-- `normalize_host`; the policy writes the same expression in place. -/
def normalizeHost (value : String) : String :=
  toAsciiLowercase (trimEndMatches '.' (trim value))

def isDnsLabel (label : String) : Bool :=
  label != "" && label.utf8ByteSize ≤ 63 && !startsWithChar '-' label && !endsWithChar '-' label &&
    label.toList.all fun c => c.isAlphanum || c == '-'

/-- `is_token_byte`: the characters of an HTTP token. -/
def isTokenChar (c : Char) : Bool :=
  c.isAlphanum || ['!', '#', '$', '%', '&', '\x27', '*', '+', '-', '.', '^', '_', '\x60', '|', '~'].contains c

/-! ## Hashes -/

/-- `is_lower_hex_sha256`. -/
def isLowerHexSha256 (value : String) : Bool :=
  value.utf8ByteSize == 64 && value.toList.all fun c => c.isDigit || ('a' ≤ c && c ≤ 'f')

/-- `to_lower_hex`. -/
def toLowerHex (bytes : Bytes) : String :=
  String.ofList (bytes.flatMap fun b =>
    [Json.hexDigit (b.toNat / 16), Json.hexDigit (b.toNat % 16)])

theorem hexDigit_injOn {m n : ℕ} (hm : m < 16) (hn : n < 16) (h : Json.hexDigit m = Json.hexDigit n) : m = n := by
  have hall : ∀ m < 16, ∀ n < 16, Json.hexDigit m = Json.hexDigit n → m = n := by decide
  exact hall m hm n hn h

/-- Bytes are known by their hexadecimal digits. -/
theorem toLowerHex_injective : Function.Injective toLowerHex := by
  intro l l' h
  replace h := String.ofList_injective h
  induction l generalizing l' with
  | nil =>
    cases l' with
    | nil => rfl
    | cons b l' => cases h
  | cons b l ih =>
    cases l' with
    | nil => cases h
    | cons b' l' =>
      simp only [List.flatMap_cons, List.cons_append, List.nil_append, List.cons.injEq] at h
      obtain ⟨hhigh, hlow, hrest⟩ := h
      have hb := UInt8.toNat_lt b
      have hb' := UInt8.toNat_lt b'
      have hdiv := hexDigit_injOn (by omega) (by omega) hhigh
      have hmod := hexDigit_injOn (by omega) (by omega) hlow
      rw [ih hrest, show b = b' from UInt8.toNat_inj.mp (by omega)]

/-- The hash of an audit record: SHA-256 of the JSON of its sequence number, the
previous hash and the event. -/
def recordHash {ε : Type} (toJson : ε → Json) (sequence : ℕ) (previousHash : String) (event : ε) :
    String :=
  toLowerHex (Sha256.digest (Json.object [("sequence", .number sequence),
    ("previous_hash", .text previousHash), ("event", toJson event)]).toVec)

/-- The hash of an audit record where the three are serialised as a tuple. -/
def tupleRecordHash {ε : Type} (toJson : ε → Json) (sequence : ℕ) (previousHash : String)
    (event : ε) : String :=
  toLowerHex (Sha256.digest (Json.array [.number sequence, .text previousHash, toJson event]).toVec)

def textMapJson (metadata : BTreeMap String String) : Json :=
  .object (metadata.toList.map fun (k, v) => (k, .text v))

def textMap (entries : List (String × String)) : BTreeMap String String := Std.ExtTreeMap.ofList entries compare

theorem hexDigit_isLowerHex {n : ℕ} (h : n < 16) : (Json.hexDigit n).utf8Size = 1 ∧
      ((Json.hexDigit n).isDigit || ('a' ≤ Json.hexDigit n && Json.hexDigit n ≤ 'f')) = true := by
  have hall : ∀ k : Fin 16, (Json.hexDigit k).utf8Size = 1 ∧
      ((Json.hexDigit k).isDigit || ('a' ≤ Json.hexDigit k && Json.hexDigit k ≤ 'f')) = true := by
    decide
  exact hall ⟨n, h⟩

theorem isLowerHexSha256_toLowerHex {value : Bytes} (h : value.length = 32) :
    isLowerHexSha256 (toLowerHex value) = true := by
  have hdigits : ∀ c ∈ value.flatMap (fun b => [Json.hexDigit (b.toNat / 16),
      Json.hexDigit (b.toNat % 16)]), ∃ n < 16, c = Json.hexDigit n := by
    intro c hc
    obtain ⟨x, -, hx⟩ := List.mem_flatMap.mp hc
    have hlt : x.toNat < 256 := x.toNat_lt
    rcases List.mem_pair.mp hx with rfl | rfl
    · exact ⟨x.toNat / 16, by omega, rfl⟩
    · exact ⟨x.toNat % 16, by omega, rfl⟩
  have hlength : (value.flatMap fun b =>
      [Json.hexDigit (b.toNat / 16), Json.hexDigit (b.toNat % 16)]).length = 64 := by
    simp [h]
  rw [isLowerHexSha256, toLowerHex, utf8ByteSize_ofList, hlength, String.toList_ofList,
    Bool.and_eq_true]
  · refine ⟨rfl, List.all_eq_true.mpr fun c hc => ?_⟩
    obtain ⟨n, hn, rfl⟩ := hdigits c hc
    exact (hexDigit_isLowerHex hn).2
  · intro c hc
    obtain ⟨n, hn, rfl⟩ := hdigits c hc
    exact (hexDigit_isLowerHex hn).1

theorem isLowerHexSha256_recordHash {ε : Type} (toJson : ε → Json) (sequence : ℕ)
    (previousHash : String) (event : ε) :
    isLowerHexSha256 (recordHash toJson sequence previousHash event) = true :=
  isLowerHexSha256_toLowerHex rfl

/-! ## Time -/

/-- `duration_milliseconds_saturated`. -/
def durationMillisecondsSaturated (duration : Duration) : ℕ := min duration.asMillis u64Max

/-! ## Normalised values are fixed points -/

theorem isWhitespace_of_isAlphanum {c : Char} (h : c.isAlphanum = true) : isWhitespace c = false := by
  simp only [Char.isAlphanum, Char.isAlpha, Char.isUpper, Char.isLower, Char.isDigit,
    Bool.or_eq_true, Bool.and_eq_true, decide_eq_true_eq, ge_iff_le, UInt32.le_iff_toNat_le] at h
  simp only [isWhitespace, Char.toNat, Bool.or_eq_false_iff, Bool.and_eq_false_iff,
    decide_eq_false_iff_not, beq_eq_false_iff_ne]
  have h1 : ('A' : Char).val.toNat = 65 := rfl
  have h2 : ('Z' : Char).val.toNat = 90 := rfl
  have h3 : ('a' : Char).val.toNat = 97 := rfl
  have h4 : ('z' : Char).val.toNat = 122 := rfl
  have h5 : ('0' : Char).val.toNat = 48 := rfl
  have h6 : ('9' : Char).val.toNat = 57 := rfl
  omega

end BoundSeal
