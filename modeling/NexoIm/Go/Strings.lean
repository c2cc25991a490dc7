import Mathlib.Data.List.Basic

/-!
# `strings.TrimSpace`, `HasPrefix`, ASCII case mapping, `hex.EncodeToString`

The middleware trims every header with `strings.TrimSpace`, cuts the `Bearer ` prefix off a
token, signs requests with `hex.EncodeToString` of an HMAC, and compares a lower-cased
signature with it.

* `isSpace` is `unicode.IsSpace`, and `trimSpace` drops it from both ends. What it leaves
  neither starts nor ends with white space, so trimming twice is trimming once
  (`trimSpace_trimSpace`), and it keeps every other character (`mem_trimSpace`);
* `hasPrefix`, `trimPrefix` compare characters; for the ASCII prefixes the middleware uses
  this is Go's byte comparison;
* `toLower`, `toUpper` map the ASCII letters only: their one use in the model is a method
  name (an ASCII token) and a signature compared with a lower-case hex digest, and no
  non-ASCII rune lower-cases to a hex digit, so the comparison comes out as with Go's full
  Unicode mapping;
* `hexEncode` is `hex.EncodeToString`; lower-casing and trimming leave its result unchanged;
* `replaceAll` with an empty replacement deletes the character (`replaceAll_empty`).
-/

namespace NexoIm

/-- `unicode.IsSpace`: the Latin-1 spaces and the other runes of Unicode's `White_Space`. -/
def isSpace (c : Char) : Bool :=
  c = '\t' || c = '\n' || c = '\x0b' || c = '\x0c' || c = '\r' || c = ' ' || c = '\x85' ||
  c = '\xa0' || c = '\u1680' || ('\u2000' ≤ c && c ≤ '\u200a') || c = '\u2028' ||
  c = '\u2029' || c = '\u202f' || c = '\u205f' || c = '\u3000'

/-- `strings.TrimSpace`: drop the leading and trailing white space. -/
def trimSpace (s : String) : String :=
  ⟨((s.toList.dropWhile isSpace).reverse.dropWhile isSpace).reverse⟩

/-- `strings.HasPrefix`. -/
def hasPrefix (s pre : String) : Bool := pre.toList.isPrefixOf s.toList

/-- `strings.TrimPrefix`. -/
def trimPrefix (s pre : String) : String :=
  if hasPrefix s pre then ⟨s.toList.drop pre.length⟩ else s

/-- `strings.ReplaceAll` with a one-character `old`, the only form used. -/
def replaceAll (s : String) (old : Char) (new : String) : String :=
  ⟨s.toList.flatMap fun c => if c = old then new.toList else [c]⟩

/-- `strings.ToLower` on ASCII letters. -/
def toLower (s : String) : String := ⟨s.toList.map Char.toLower⟩

/-- `strings.ToUpper` on ASCII letters. -/
def toUpper (s : String) : String := ⟨s.toList.map Char.toUpper⟩

/-- The hex digit of `n < 16`, in lower case as `encoding/hex` writes it. -/
def hexDigit (n : Nat) : Char :=
  if n < 10 then Char.ofNat (48 + n) else Char.ofNat (87 + n)

/-- The two hex digits of a byte, high nibble first. -/
def hexPair (b : UInt8) : List Char := [hexDigit (b.toNat / 16), hexDigit (b.toNat % 16)]

/-- `hex.EncodeToString`. -/
def hexEncode (bs : List UInt8) : String := ⟨bs.flatMap hexPair⟩

theorem replaceAll_empty (s : String) (old : Char) :
    (replaceAll s old "").toList = s.toList.filter (· ≠ old) := by
  show s.toList.flatMap (fun c => if c = old then [] else [c]) = _
  induction s.toList with
  | nil => rfl
  | cons c l ih => by_cases h : c = old <;> simp [h, ih, List.filter_cons]

theorem toLower_hexDigit {n : Nat} (h : n < 16) : (hexDigit n).toLower = hexDigit n := by
  have key : ∀ m < 16, (hexDigit m).toLower = hexDigit m := by decide
  exact key n h

theorem map_toLower_hexPair (b : UInt8) : (hexPair b).map Char.toLower = hexPair b := by
  have hb : b.toNat < 256 := b.val.isLt
  simp only [hexPair, List.map_cons, List.map_nil, toLower_hexDigit (show b.toNat / 16 < 16 by omega),
    toLower_hexDigit (show b.toNat % 16 < 16 by omega)]

/-- A hex encoding is already lower case. -/
theorem toLower_hexEncode (bs : List UInt8) : toLower (hexEncode bs) = hexEncode bs := by
  show String.mk _ = String.mk _
  congr 1
  induction bs with
  | nil => rfl
  | cons b bs ih =>
    show (hexPair b ++ bs.flatMap hexPair).map Char.toLower = hexPair b ++ bs.flatMap hexPair
    rw [List.map_append, map_toLower_hexPair]
    exact congrArg (hexPair b ++ ·) ih

theorem not_isSpace_hexDigit {n : Nat} (h : n < 16) : isSpace (hexDigit n) = false := by
  have key : ∀ m < 16, isSpace (hexDigit m) = false := by decide
  exact key n h

theorem isSpace_hexEncode (bs : List UInt8) : ∀ c ∈ (hexEncode bs).toList, isSpace c = false := by
  intro c hc
  obtain ⟨b, -, hb⟩ := List.mem_flatMap.1 hc
  have hb8 : b.toNat < 256 := b.val.isLt
  simp only [hexPair, List.mem_cons, List.mem_singleton, List.not_mem_nil, or_false] at hb
  rcases hb with rfl | rfl
  · exact not_isSpace_hexDigit (by omega)
  · exact not_isSpace_hexDigit (by omega)

theorem hexEncode_ne_empty {bs : List UInt8} (h : bs ≠ []) : hexEncode bs ≠ "" := by
  cases bs with
  | nil => exact absurd rfl h
  | cons b bs => exact fun he => by cases congrArg String.toList he

/-! ### What `TrimSpace` leaves -/

theorem dropWhile_append_singleton {α : Type} {p : α → Bool} {x : α} (hx : p x = false)
    (l : List α) : (l ++ [x]).dropWhile p = l.dropWhile p ++ [x] := by
  rw [List.dropWhile_append]
  split_ifs with h
  · rw [List.isEmpty_iff.1 h, List.nil_append, List.dropWhile_cons, hx]
    rfl
  · rfl

theorem dropWhile_eq_self_of_head? {α : Type} {p : α → Bool} {l : List α}
    (h : ∀ c, l.head? = some c → p c = false) : l.dropWhile p = l := by
  cases l with
  | nil => rfl
  | cons c l => simp [List.dropWhile, h c rfl]

/-- The first character `TrimSpace` keeps is not white space. -/
theorem head?_trimSpace {s : String} {c : Char} (h : (trimSpace s).toList.head? = some c) :
    isSpace c = false := by
  have hd := List.head?_dropWhile_not isSpace s.toList
  change (((s.toList.dropWhile isSpace).reverse.dropWhile isSpace).reverse).head? = some c at h
  generalize s.toList.dropWhile isSpace = D at h hd
  cases D with
  | nil => cases h
  | cons x m =>
    rw [List.reverse_cons, dropWhile_append_singleton hd, List.reverse_append] at h
    cases h
    exact hd

/-- The last character `TrimSpace` keeps is not white space. -/
theorem getLast?_trimSpace {s : String} {c : Char} (h : (trimSpace s).toList.getLast? = some c) :
    isSpace c = false := by
  have hd := List.head?_dropWhile_not isSpace (s.toList.dropWhile isSpace).reverse
  change (((s.toList.dropWhile isSpace).reverse.dropWhile isSpace).reverse).getLast? = some c at h
  rw [List.getLast?_reverse] at h
  rw [h] at hd
  exact hd

/-- `TrimSpace` leaves alone a string that neither starts nor ends with white space. -/
theorem trimSpace_eq_self_of_ends {s : String}
    (hh : ∀ c, s.toList.head? = some c → isSpace c = false)
    (hl : ∀ c, s.toList.getLast? = some c → isSpace c = false) : trimSpace s = s := by
  have hl' : ∀ c, s.toList.reverse.head? = some c → isSpace c = false := by
    simpa only [List.head?_reverse] using hl
  simp only [trimSpace, dropWhile_eq_self_of_head? hh, dropWhile_eq_self_of_head? hl',
    List.reverse_reverse]
  rfl

@[simp] theorem trimSpace_trimSpace (s : String) : trimSpace (trimSpace s) = trimSpace s :=
  trimSpace_eq_self_of_ends (fun _ => head?_trimSpace) (fun _ => getLast?_trimSpace)

/-- A character that is not white space survives `TrimSpace`. -/
theorem mem_trimSpace {s : String} {c : Char} (hc : c ∈ s.toList) (h : isSpace c = false) :
    c ∈ (trimSpace s).toList := by
  have keep : ∀ {l : List Char}, c ∈ l → c ∈ l.dropWhile isSpace := fun {l} hl => by
    rw [← List.takeWhile_append_dropWhile isSpace l] at hl
    rcases List.mem_append.1 hl with ht | hd
    · exact absurd (List.mem_takeWhile_imp ht) (by rw [h]; decide)
    · exact hd
  exact List.mem_reverse.2 (keep (List.mem_reverse.2 (keep hc)))

/-- `TrimSpace` leaves a string without white space as it is. -/
theorem trimSpace_eq_self {s : String} (h : ∀ c ∈ s.toList, isSpace c = false) :
    trimSpace s = s :=
  trimSpace_eq_self_of_ends (fun c hc => h c (List.mem_of_mem_head? hc))
    (fun c hc => h c (List.mem_of_getLast?_eq_some hc))

theorem trimSpace_ne_empty {s : String} {c : Char} (hc : c ∈ s.toList) (h : isSpace c = false) :
    trimSpace s ≠ "" := fun he => by
  have := mem_trimSpace hc h
  rw [he] at this
  exact List.not_mem_nil c this

end NexoIm
