import Mathlib

/-!
# Rust time: `Duration`, and instants of the UTC clock
-/

namespace BoundSeal.Rust

open Float.Model

/-- `u64::MAX`. -/
def u64Max : ℕ := 2 ^ 64 - 1

/-- `u64::saturating_add`. -/
def saturatingAdd (a b : ℕ) : ℕ := min (a + b) u64Max

/-- `i64::MAX`. -/
def i64Max : ℤ := 2 ^ 63 - 1

/-- `i64::MIN`. -/
def i64Min : ℤ := -2 ^ 63

/-- `i64::saturating_add`. -/
def saturatingAddI64 (a b : ℤ) : ℤ := max i64Min (min (a + b) i64Max)

/-- `chrono::DateTime<Utc>`, as nanoseconds from the epoch. -/
abbrev DateTime := ℤ

/-- Nanoseconds in a second. -/
def nanosPerSec : ℕ := 1000000000

/-- `std::time::Duration`. -/
structure Duration where
  nanos : ℕ
  secs_lt : nanos / nanosPerSec < 2 ^ 64

namespace Duration

/-- `Duration::ZERO`. -/
def zero : Duration := ⟨0, by decide⟩

/-- `Duration::as_millis`, a `u128`. -/
def asMillis (d : Duration) : ℕ := d.nanos / 1000000

/-- `Duration::from_millis`. -/
def fromMillis (ms : ℕ) (h : ms < 2 ^ 64) : Duration :=
  ⟨ms * 1000000, by
    have : ms * 1000000 / nanosPerSec ≤ ms := by
      rw [nanosPerSec, Nat.div_le_iff_le_mul_add_pred (by decide)]
      omega
    omega⟩

/-- The difference of two durations, the second not above the first. -/
def sub (a b : Duration) : Duration :=
  ⟨a.nanos - b.nanos, lt_of_le_of_lt (Nat.div_le_div_right (Nat.sub_le _ _)) a.secs_lt⟩

/-- `Duration::as_secs_f64`: whole seconds and the rest, each as a float. -/
def asSecsF64 (d : Duration) : Float :=
  (UInt64.ofNat (d.nanos / nanosPerSec)).toFloat +
    (UInt64.ofNat (d.nanos % nanosPerSec)).toFloat / (1000000000 : Float)

/-- The quotient `n / d` rounded to nearest, ties to even. -/
def roundHalfEven (n d : ℕ) : ℕ :=
  let q := n / d
  let r := n % d
  if 2 * r < d then q else if d < 2 * r then q + 1 else if q % 2 = 0 then q else q + 1

/-- A binary number `m * 2 ^ e` of seconds in whole nanoseconds, nearest even. -/
def nanosOf (m : ℕ) (e : ℤ) : ℕ :=
  if 0 ≤ e then m * 2 ^ e.toNat * nanosPerSec else roundHalfEven (m * nanosPerSec) (2 ^ (-e).toNat)

/-- The duration of so many nanoseconds, if its seconds fit a `u64`. -/
def ofNanos (n : ℕ) : Option Duration :=
  if h : n / nanosPerSec < 2 ^ 64 then some ⟨n, h⟩ else none

/-- `Duration::from_secs_f64`; `none` is its panic. -/
def fromSecsF64 (secs : Float) : Option Duration :=
  match secs.toModel.unpack with
  | .zero _ => some zero
  | .finite .positive m e _ => ofNanos (nanosOf m e)
  | .finite .negative _ _ _ => none
  | .infinity _ => none
  | .notANumber => none

end Duration

/-- `f64::max` of two values, ignoring a NaN. -/
def f64Max (a b : Float) : Float := if a.isNaN then b else if b.isNaN then a else if a < b then b else a

/-- `f64::min` of two values, ignoring a NaN. -/
def f64Min (a b : Float) : Float := if a.isNaN then b else if b.isNaN then a else if b < a then b else a

example : (Duration.fromSecsF64 0.25).map Duration.nanos = some 250000000 := by decide +kernel

example : (Duration.fromSecsF64 1e300).map Duration.nanos = none := by decide +kernel

end BoundSeal.Rust
