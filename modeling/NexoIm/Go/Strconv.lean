import Mathlib.Data.List.Basic
import NexoIm.Go.Int64

/-!
# `strconv.ParseInt(s, 10, 64)` and `strconv.FormatInt(i, 10)`

The handlers read `read_seq`, `X-Timestamp` and the like with `strconv.ParseInt(s, 10, 64)`
and, in some places, ignore its error, so the value it returns on a failed parse matters:
`0` on a syntax error, and the bound of the sign on an out-of-range number.

* `parseUintLoop`, `parseUint`: `ParseUint`'s digit loop with its `cutoff` and `maxVal`
  overflow checks, for base 10 and 64 bits;
* `parseInt`: the sign, then `ParseUint`, then the `int64` range checks;
* what the loop computes (`parseUintLoop_eq`): the value of the leading digit run, with
  `ErrRange` as soon as it passes `maxUint64`, even before a character that is not a digit;
* what `parseInt` does on a signed decimal numeral (`parseInt_of_decodeInt`) and on any other
  text (`parseInt_err_of_decodeInt`), and so exactly what it accepts (`parseInt_eq_ok_iff`);
* `formatInt`, the decimal numeral of an `int64` as the SDK writes `read_seq` into a query,
  which `parseInt` reads back unchanged (`parseInt_formatInt`).

Go iterates over the bytes of `s`; the model iterates over its characters. A byte of a
multi-byte character is never a digit, and neither is the character, so the results agree.
-/

namespace NexoIm

/-- The `Err` field of a `strconv.NumError`. -/
inductive NumError
  | errSyntax
  | errRange
  deriving DecidableEq, Repr

/-- `maxUint64`, `ParseUint`'s `maxVal` for 64 bits. -/
def maxUint64 : Nat := 18446744073709551615

/-- `maxUint64/10 + 1`, `ParseUint`'s `cutoff` for base 10: the least `n` with `n*10`
over `maxUint64`. -/
def cutoff10 : Nat := 1844674407370955162

/-- The digit loop of `ParseUint(s, 10, 64)`, `n` being the value of the digits read so far.
Go's `n1 < n || n1 > maxVal` test on `uint64` is `maxUint64 < n1` on exact values, since
`n < cutoff10` keeps `n1` below `2^65`. -/
def parseUintLoop (n : Nat) : List Char → Nat × Option NumError
  | [] => (n, none)
  | c :: cs =>
    if '0' ≤ c ∧ c ≤ '9' then
      if cutoff10 ≤ n then (maxUint64, some .errRange)
      else
        let n1 := n * 10 + (c.toNat - '0'.toNat)
        if maxUint64 < n1 then (maxUint64, some .errRange) else parseUintLoop n1 cs
    else (0, some .errSyntax)

/-- `strconv.ParseUint(s, 10, 64)`. -/
def parseUint (s : List Char) : Nat × Option NumError :=
  if s = [] then (0, some .errSyntax) else parseUintLoop 0 s

/-- `strconv.ParseInt(s, 10, 64)`: the value and the error's `Err`, if any. -/
def parseInt (s : String) : Int64 × Option NumError :=
  match s.toList with
  | [] => (0, some .errSyntax)
  | c :: cs =>
    let neg := c = '-'
    let digits := if c = '+' ∨ c = '-' then cs else c :: cs
    let (un, err) := parseUint digits
    if err = some .errSyntax then (0, some .errSyntax)
    else if !neg ∧ 9223372036854775808 ≤ un then (Int64.ofInt 9223372036854775807, some .errRange)
    else if neg ∧ 9223372036854775808 < un then (-Int64.ofInt 9223372036854775808, some .errRange)
    else
      let n := Int64.ofInt un
      (if neg then -n else n, none)

/-! ## What the digit loop computes -/

/-- A decimal digit, as `ParseUint` tests it for base 10. -/
def isDecimalDigit (c : Char) : Bool := decide ('0' ≤ c ∧ c ≤ '9')

/-- The value of the digits `ds` read after the value `n`. -/
def decimalValue (n : Nat) (ds : List Char) : Nat :=
  ds.foldl (fun n c => n * 10 + (c.toNat - '0'.toNat)) n

@[simp] theorem decimalValue_nil (n : Nat) : decimalValue n [] = n := rfl

@[simp] theorem decimalValue_cons (n : Nat) (c : Char) (ds : List Char) :
    decimalValue n (c :: ds) = decimalValue (n * 10 + (c.toNat - '0'.toNat)) ds := rfl

theorem le_decimalValue (n : Nat) (ds : List Char) : n ≤ decimalValue n ds := by
  induction ds generalizing n with
  | nil => exact Nat.le_refl n
  | cons c ds ih =>
    rw [decimalValue_cons]
    exact Nat.le_trans (by omega) (ih _)

/-- **The digit loop of `ParseUint`.** From a value `n ≤ maxUint64`, the loop reads the
longest digit prefix `ds` of its input: when the value of `ds` exceeds `maxUint64` it fails
with `ErrRange` (also when a non-digit follows, since it stops at the overflow); otherwise
it returns that value when the input is all digits, and fails with `ErrSyntax` when it is
not. The `cutoff` test and the `n1 > maxVal` test together detect exactly the overflow. -/
theorem parseUintLoop_eq {n : Nat} (hn : n ≤ maxUint64) (cs : List Char) :
    parseUintLoop n cs =
      if maxUint64 < decimalValue n (cs.takeWhile isDecimalDigit) then (maxUint64, some .errRange)
      else if cs.dropWhile isDecimalDigit = [] then (decimalValue n (cs.takeWhile isDecimalDigit), none)
      else (0, some .errSyntax) := by
  induction cs generalizing n with
  | nil => simp [parseUintLoop, Nat.not_lt.2 hn]
  | cons c cs ih =>
    by_cases hc : '0' ≤ c ∧ c ≤ '9'
    · have hd : isDecimalDigit c = true := decide_eq_true hc
      simp only [parseUintLoop, if_pos hc, List.takeWhile_cons, List.dropWhile_cons, hd, if_true,
        decimalValue_cons]
      by_cases hcut : cutoff10 ≤ n
      · have hover : maxUint64 < n * 10 + (c.toNat - '0'.toNat) := by
          unfold cutoff10 at hcut; unfold maxUint64; omega
        rw [if_pos hcut, if_pos (Nat.lt_of_lt_of_le hover (le_decimalValue _ _))]
      · rw [if_neg hcut]
        by_cases h₁ : maxUint64 < n * 10 + (c.toNat - '0'.toNat)
        · rw [if_pos h₁, if_pos (Nat.lt_of_lt_of_le h₁ (le_decimalValue _ _))]
        · rw [if_neg h₁]
          exact ih (Nat.not_lt.1 h₁)
    · have hd : isDecimalDigit c = false := decide_eq_false hc
      simp [parseUintLoop, hc, hd, Nat.not_lt.2 hn]

example : parseInt "99999999999999999999x" = (Int64.ofInt 9223372036854775807, some .errRange) := by
  decide

/-! ## What `ParseInt` accepts -/

/-- The value of a non-empty run of decimal digits; `none` for any other text. -/
def decodeDigits (ds : List Char) : Option Nat :=
  if ds ≠ [] ∧ ds.all isDecimalDigit then some (decimalValue 0 ds) else none

/-- The integer a decimal numeral with an optional sign `+` or `-` denotes; `none` for any
other text. -/
def decodeInt (s : String) : Option Int :=
  match s.toList with
  | [] => none
  | c :: cs =>
    let digits := if c = '+' ∨ c = '-' then cs else c :: cs
    (decodeDigits digits).map fun (u : Nat) => if c = '-' then -(u : Int) else (u : Int)

/-- On a numeral, `ParseUint` returns its value, or `ErrRange` above `maxUint64`. -/
theorem parseUint_of_decodeDigits {ds : List Char} {u : Nat} (h : decodeDigits ds = some u) :
    parseUint ds = if maxUint64 < u then (maxUint64, some .errRange) else (u, none) := by
  unfold decodeDigits at h
  split_ifs at h with hd
  cases h
  have hall : ∀ c ∈ ds, isDecimalDigit c = true := List.all_eq_true.1 hd.2
  rw [parseUint, if_neg hd.1, parseUintLoop_eq (Nat.zero_le _), List.takeWhile_eq_self_iff.2 hall,
    List.dropWhile_eq_nil_iff.2 hall, if_pos rfl]

theorem decodeDigits_of_parseUint {ds : List Char} {u : Nat} (h : parseUint ds = (u, none)) :
    decodeDigits ds = some u := by
  unfold parseUint at h
  split_ifs at h with hne
  · cases h
  rw [parseUintLoop_eq (Nat.zero_le _)] at h
  split_ifs at h with h₁ h₂ <;> cases h
  have hall : ∀ c ∈ ds, isDecimalDigit c = true := List.dropWhile_eq_nil_iff.1 h₂
  rw [decodeDigits, if_pos ⟨hne, List.all_eq_true.2 hall⟩, List.takeWhile_eq_self_iff.2 hall]

theorem parseUint_range {ds : List Char} {u : Nat} (h : parseUint ds = (u, some .errRange)) :
    u = maxUint64 := by
  unfold parseUint at h
  split_ifs at h
  · cases h
  rw [parseUintLoop_eq (Nat.zero_le _)] at h
  split_ifs at h <;> cases h
  rfl

/-- On a numeral `ParseInt` returns its value when it fits in `int64`, and otherwise the bound
of its sign with `ErrRange`. -/
theorem parseInt_of_decodeInt {s : String} {z : Int} (h : decodeInt s = some z) :
    parseInt s =
      if 9223372036854775807 < z then (Int64.ofInt 9223372036854775807, some .errRange)
      else if z < -9223372036854775808 then (-Int64.ofInt 9223372036854775808, some .errRange)
      else (Int64.ofInt z, none) := by
  unfold decodeInt at h
  unfold parseInt
  generalize s.toList = l at h ⊢
  rcases l with _ | ⟨c, cs⟩
  · cases h
  dsimp only at h ⊢
  generalize (if c = '+' ∨ c = '-' then cs else c :: cs) = ds at h ⊢
  obtain ⟨u, hu, rfl⟩ := Option.map_eq_some'.1 h
  rw [parseUint_of_decodeDigits hu]
  by_cases hneg : c = '-' <;>
    simp only [hneg, decide_True, decide_False, Bool.not_true, Bool.not_false, if_true, if_false,
      Bool.false_eq_true, false_and, true_and] <;>
    split_ifs <;>
    simp only [Prod.mk.injEq, Option.some.injEq, reduceCtorEq, and_true, Int64.ext_iff, Int64.val_neg,
      Int64.val_ofInt, wrap, maxUint64] at * <;>
    omega

/-- On any other text `ParseInt` fails: with `ErrSyntax`, or with `ErrRange` when a digit
run overflows before the first character that is not a digit. -/
theorem parseInt_err_of_decodeInt {s : String} (h : decodeInt s = none) : (parseInt s).2 ≠ none := by
  unfold decodeInt at h
  unfold parseInt
  generalize s.toList = l at h ⊢
  rcases l with _ | ⟨c, cs⟩
  · simp
  dsimp only at h ⊢
  generalize (if c = '+' ∨ c = '-' then cs else c :: cs) = ds at h ⊢
  rcases hp : parseUint ds with ⟨u, _ | _ | _⟩
  · rw [decodeDigits_of_parseUint hp] at h
    cases h
  · simp
  · obtain rfl := parseUint_range hp
    by_cases hneg : c = '-' <;> simp [hneg, maxUint64]

/-- **What `ParseInt` accepts.** `strconv.ParseInt(s, 10, 64)` succeeds exactly on the
decimal numerals, with an optional sign, whose value fits in `int64`, and returns that
value. -/
theorem parseInt_eq_ok_iff {s : String} {v : Int64} :
    parseInt s = (v, none) ↔ ∃ z, decodeInt s = some z ∧ InInt64 z ∧ v.val = z := by
  constructor
  · intro h
    rcases hz : decodeInt s with _ | z
    · exact absurd (by rw [h]) (parseInt_err_of_decodeInt hz)
    · rw [parseInt_of_decodeInt hz] at h
      split_ifs at h with h₁ h₂ <;> cases h
      have hin : InInt64 z := ⟨by omega, by omega⟩
      exact ⟨z, rfl, hin, Int64.val_ofInt_of_inInt64 hin⟩
  · rintro ⟨z, hz, hin, hv⟩
    have h₁ : ¬ 9223372036854775807 < z := by unfold InInt64 at hin; omega
    have h₂ : ¬ z < -9223372036854775808 := by unfold InInt64 at hin; omega
    rw [parseInt_of_decodeInt hz, if_neg h₁, if_neg h₂]
    exact Prod.ext (Int64.ext_iff.2 ((Int64.val_ofInt_of_inInt64 hin).trans hv.symm)) rfl

/-! ## `FormatInt` -/

/-- `strconv.FormatInt(i, 10)`: the decimal digits of `|i|`, most significant first, after a
`-` when `i < 0`. The digits are those `Nat.toDigits` generates, least significant first onto
an accumulator, as `formatBits` does. -/
def formatInt (i : Int64) : String :=
  ⟨if i.val < 0 then '-' :: Nat.toDigits 10 i.val.natAbs else Nat.toDigits 10 i.val.natAbs⟩

theorem decimalValue_append (n : Nat) (l₁ l₂ : List Char) :
    decimalValue n (l₁ ++ l₂) = decimalValue (decimalValue n l₁) l₂ :=
  List.foldl_append _ _ _ _

theorem digitChar_decimal {k : Nat} (hk : k < 10) :
    isDecimalDigit (Nat.digitChar k) = true ∧ (Nat.digitChar k).toNat - '0'.toNat = k := by
  have key : ∀ m < 10,
      isDecimalDigit (Nat.digitChar m) = true ∧ (Nat.digitChar m).toNat - '0'.toNat = m := by
    decide
  exact key k hk

/-- One step of the digit generator: the last digit goes onto the accumulator. -/
theorem toDigitsCore_succ (fuel n : Nat) (ds : List Char) :
    Nat.toDigitsCore 10 (fuel + 1) n ds =
      if n / 10 = 0 then Nat.digitChar (n % 10) :: ds
      else Nat.toDigitsCore 10 fuel (n / 10) (Nat.digitChar (n % 10) :: ds) :=
  rfl

/-- With fuel above `n`, the digit generator puts before its accumulator a non-empty run of
decimal digits that reads as `n`: read after a prefix of value `a`, as `a` shifted past the run
plus `n`. -/
theorem toDigitsCore_decimal (fuel n : Nat) (ds : List Char) (hn : n < fuel) :
    ∃ L, Nat.toDigitsCore 10 fuel n ds = L ++ ds ∧ L ≠ [] ∧ L.all isDecimalDigit = true ∧
      ∃ shift, ∀ a, decimalValue a L = a * shift + n := by
  induction fuel generalizing n ds with
  | zero => omega
  | succ fuel ih =>
    have hd := digitChar_decimal (Nat.mod_lt n (by decide : 10 > 0))
    rw [toDigitsCore_succ]
    split_ifs with h0
    · refine ⟨[Nat.digitChar (n % 10)], rfl, List.cons_ne_nil _ _, by simp [hd.1], 10,
        fun a => ?_⟩
      rw [decimalValue_cons, decimalValue_nil, hd.2]
      omega
    · obtain ⟨L, hL, hne, hall, shift, hval⟩ :=
        ih (n / 10) (Nat.digitChar (n % 10) :: ds) (by omega)
      refine ⟨L ++ [Nat.digitChar (n % 10)], by rw [hL, List.append_assoc]; rfl,
        by simp, by simp [hall, hd.1], shift * 10, fun a => ?_⟩
      rw [decimalValue_append, hval, decimalValue_cons, decimalValue_nil, hd.2, ← Nat.mul_assoc]
      generalize a * shift = X
      omega

theorem decodeDigits_toDigits (n : Nat) :
    Nat.toDigits 10 n ≠ [] ∧ (Nat.toDigits 10 n).all isDecimalDigit = true ∧
      decodeDigits (Nat.toDigits 10 n) = some n := by
  obtain ⟨L, hL, hne, hall, shift, hval⟩ :=
    toDigitsCore_decimal (n + 1) n [] (Nat.lt_succ_self n)
  have hT : Nat.toDigits 10 n = L := (List.append_nil L).symm ▸ hL
  rw [hT, decodeDigits, if_pos ⟨hne, hall⟩, hval, Nat.zero_mul, Nat.zero_add]
  exact ⟨hne, hall, rfl⟩

theorem decodeInt_formatInt (i : Int64) : decodeInt (formatInt i) = some i.val := by
  obtain ⟨hne, hall, hdec⟩ := decodeDigits_toDigits i.val.natAbs
  unfold decodeInt formatInt
  split_ifs with hneg <;> dsimp only [String.toList]
  · rw [if_pos (Or.inr rfl), hdec, Option.map_some', if_pos rfl,
      Int.ofNat_natAbs_of_nonpos (le_of_lt hneg), Int.neg_neg]
  · obtain ⟨c, cs, hcs⟩ := List.exists_cons_of_ne_nil hne
    have hc : isDecimalDigit c = true := List.all_eq_true.1 hall c (hcs ▸ List.mem_cons_self c cs)
    have hsign : ¬ (c = '+' ∨ c = '-') := by
      rintro (rfl | rfl) <;> exact absurd hc (by decide)
    rw [hcs]
    dsimp only
    rw [if_neg hsign, ← hcs, hdec, Option.map_some', if_neg (not_or.1 hsign).2,
      Int.natAbs_of_nonneg (not_lt.1 hneg)]

/-- **`FormatInt` then `ParseInt` is the identity.** Every `int64` written by
`strconv.FormatInt(i, 10)` is read back by `strconv.ParseInt(s, 10, 64)` as itself, without
error. -/
theorem parseInt_formatInt (i : Int64) : parseInt (formatInt i) = (i, none) := by
  have h₁ : ¬ 9223372036854775807 < i.val := not_lt.2 i.val_le
  have h₂ : ¬ i.val < -9223372036854775808 := not_lt.2 i.val_ge
  rw [parseInt_of_decodeInt (decodeInt_formatInt i), if_neg h₁, if_neg h₂]
  exact Prod.ext (Int64.ext (Int64.val_ofInt_of_inInt64 i.inRange)) rfl

end NexoIm
