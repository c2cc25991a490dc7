import Mathlib.Data.Int.Order.Basic
import Mathlib.Order.Basic

/-!
# Go's `int64`

Sequence numbers, unread counts and timestamps are Go `int64`s, whose arithmetic wraps
modulo `2^64`. `Int64` is an integer carrying its range; `Int64.ofInt` is the
two's-complement reduction of an exact result, so that `a + b`, `a - b` and `-a` are Go's
wrapping addition, subtraction and negation, and the order is the order of the values.

* `wrap`, the reduction onto `[-2^63, 2^63)`, and `InInt64`, the range;
* `Int64` with `ofInt`, wrapping `Add`, `Sub` and `Neg`, and the `LinearOrder` of the values.
-/

namespace NexoIm

/-- Two's-complement reduction of an integer onto `[-2^63, 2^63)`. -/
def wrap (x : Int) : Int :=
  (x + 9223372036854775808) % 18446744073709551616 - 9223372036854775808

/-- The values an `int64` can hold. -/
def InInt64 (x : Int) : Prop := -9223372036854775808 ≤ x ∧ x ≤ 9223372036854775807

instance : DecidablePred InInt64 := fun _ => inferInstanceAs (Decidable (_ ∧ _))

theorem wrap_inInt64 (x : Int) : InInt64 (wrap x) := by
  unfold InInt64 wrap; omega

theorem wrap_of_inInt64 {x : Int} (h : InInt64 x) : wrap x = x := by
  unfold InInt64 at h; unfold wrap; omega

/-- A result just past `MaxInt64` wraps once, to a negative value. -/
theorem wrap_of_maxInt64_lt {x : Int} (h : 9223372036854775807 < x)
    (h' : x < 27670116110564327424) : wrap x = x - 18446744073709551616 := by
  unfold wrap; omega

/-- Go's `int64`. -/
structure Int64 where
  val : Int
  inRange : InInt64 val

namespace Int64

theorem ext {a b : Int64} (h : a.val = b.val) : a = b := by
  cases a; cases b; cases h; rfl

theorem ext_iff {a b : Int64} : a = b ↔ a.val = b.val := ⟨congrArg val, ext⟩

instance : DecidableEq Int64 := fun a b =>
  decidable_of_iff (a.val = b.val) ⟨ext, fun h => h ▸ rfl⟩

/-- Conversion of an exact integer result to `int64`, wrapping around. -/
def ofInt (x : Int) : Int64 := ⟨wrap x, wrap_inInt64 x⟩

instance (n : Nat) : OfNat Int64 n := ⟨ofInt n⟩

instance : Add Int64 := ⟨fun a b => ofInt (a.val + b.val)⟩

instance : Sub Int64 := ⟨fun a b => ofInt (a.val - b.val)⟩

instance : Neg Int64 := ⟨fun a => ofInt (-a.val)⟩

/-- Signed comparison. Declared directly, ahead of the order structures built on it, so that
`<` and `≤` on `int64` elaborate to the same instance whatever else is imported. -/
instance (priority := 2000) : LT Int64 := ⟨fun a b => a.val < b.val⟩

instance (priority := 2000) : LE Int64 := ⟨fun a b => a.val ≤ b.val⟩

instance (priority := 2000) (a b : Int64) : Decidable (a < b) :=
  inferInstanceAs (Decidable (a.val < b.val))

instance (priority := 2000) (a b : Int64) : Decidable (a ≤ b) :=
  inferInstanceAs (Decidable (a.val ≤ b.val))

instance : LinearOrder Int64 :=
  { LinearOrder.lift' val fun _ _ => ext with
    le := (· ≤ ·)
    lt := (· < ·)
    decidableLE := fun a b => inferInstanceAs (Decidable (a ≤ b))
    decidableLT := fun a b => inferInstanceAs (Decidable (a < b)) }

instance : Inhabited Int64 := ⟨0⟩

@[simp] theorem val_ofInt (x : Int) : (ofInt x).val = wrap x := rfl

@[simp] theorem val_add (a b : Int64) : (a + b).val = wrap (a.val + b.val) := rfl

@[simp] theorem val_sub (a b : Int64) : (a - b).val = wrap (a.val - b.val) := rfl

@[simp] theorem val_neg (a : Int64) : (-a).val = wrap (-a.val) := rfl

@[simp] theorem val_zero : (0 : Int64).val = 0 := by decide

theorem lt_iff {a b : Int64} : a < b ↔ a.val < b.val := by rfl

theorem le_iff {a b : Int64} : a ≤ b ↔ a.val ≤ b.val := by rfl

theorem val_ofInt_of_inInt64 {x : Int} (h : InInt64 x) : (ofInt x).val = x := wrap_of_inInt64 h

theorem val_ge (a : Int64) : -9223372036854775808 ≤ a.val := a.inRange.1

theorem val_le (a : Int64) : a.val ≤ 9223372036854775807 := a.inRange.2

end Int64

end NexoIm
