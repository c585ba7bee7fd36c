import Mathlib.Data.Nat.Digits

/-!
# Go strings for the header codecs

The parts of Go's `strings` and `strconv` that `headers.RTPInfo` uses, over `List Char`: `strings.Split` on a
one-character separator is `List.splitOn` (both give `[""]` on the empty string), `strings.Join(xs, sep)` is
`[sep].intercalate xs`, `strings.SplitN(s, sep, 2)` is `splitN2`, `strconv.FormatUint(n, 10)` is `formatUint` and
`strconv.ParseUint(s, 10, bitSize)` is `parseUint`.

* `parseUint_formatUint`: `ParseUint` reads back every decimal that `FormatUint` prints below the bound;
* `splitN2_of_not_mem`: `SplitN(k ++ sep :: v, sep, 2)` is `[k, v]` when `k` has no separator;
* `not_mem_formatUint`: a printed decimal holds only digits.
-/

namespace Gortsplib

/-! ## `strings.SplitN(s, sep, 2)` -/

/-- `strings.Cut`: the text before the first `sep` and the text after it. -/
def cut (sep : Char) : List Char → Option (List Char × List Char)
  | [] => none
  | c :: s => if c = sep then some ([], s) else (cut sep s).map fun p => (c :: p.1, p.2)

/-- `strings.SplitN(s, string(sep), 2)`: `[s]` when `s` has no `sep`. -/
def splitN2 (sep : Char) (s : List Char) : List (List Char) :=
  match cut sep s with
  | none => [s]
  | some (a, b) => [a, b]

theorem cut_of_not_mem {sep : Char} {k : List Char} (v : List Char) (hk : sep ∉ k) :
    cut sep (k ++ sep :: v) = some (k, v) := by
  induction k with
  | nil => simp [cut]
  | cons c k ih =>
    simp only [List.mem_cons, not_or] at hk
    simp [cut, Ne.symm hk.1, ih hk.2]

theorem splitN2_of_not_mem {sep : Char} {k : List Char} (v : List Char) (hk : sep ∉ k) :
    splitN2 sep (k ++ sep :: v) = [k, v] := by
  simp [splitN2, cut_of_not_mem v hk]

/-! ## `strconv.FormatUint` and `strconv.ParseUint` in base 10 -/

/-- `strconv.FormatUint(n, 10)`. -/
def formatUint (n : Nat) : List Char := Nat.toDigits 10 n

/-- The text of a `*strconv.NumError` of `ParseUint`. -/
def numError (s : List Char) (err : String) : String :=
  "strconv.ParseUint: parsing \"" ++ String.mk s ++ "\": " ++ err

/-- The digit loop of `strconv.ParseUint(s, 10, bitSize)`: a character that is not a decimal digit is a syntax
error, a value that passes `2 ^ bitSize - 1` a range error, whichever comes first. -/
def parseDigits (s : List Char) (bitSize : Nat) : Nat → List Char → Except String Nat
  | n, [] => .ok n
  | n, c :: cs =>
    if c.isDigit then
      if 10 * n + (c.toNat - 48) < 2 ^ bitSize then parseDigits s bitSize (10 * n + (c.toNat - 48)) cs
      else .error (numError s "value out of range")
    else .error (numError s "invalid syntax")

/-- `strconv.ParseUint(s, 10, bitSize)`. -/
def parseUint (s : List Char) (bitSize : Nat) : Except String Nat :=
  if s = [] then .error (numError s "invalid syntax") else parseDigits s bitSize 0 s

theorem parseDigits_append (s : List Char) (b : Nat) :
    ∀ (n : Nat) (l₁ l₂ : List Char), parseDigits s b n (l₁ ++ l₂) = parseDigits s b n l₁ >>= (parseDigits s b · l₂)
  | n, [], l₂ => rfl
  | n, c :: l₁, l₂ => by
    simp only [List.cons_append, parseDigits]
    split_ifs
    · exact parseDigits_append s b _ l₁ l₂
    all_goals rfl

/-- The characters of the decimal digits. -/
theorem digitChar_digit : ∀ d : Fin 10, (Nat.digitChar d).isDigit = true ∧ (Nat.digitChar d).toNat - 48 = d := by
  decide

theorem parseDigits_digitChar (s : List Char) {b n d : Nat} (hd : d < 10) (h : 10 * n + d < 2 ^ b) :
    parseDigits s b n [Nat.digitChar d] = .ok (10 * n + d) := by
  obtain ⟨h₁, h₂⟩ := digitChar_digit ⟨d, hd⟩
  simp only at h₁ h₂
  simp [parseDigits, h₁, h₂, h]

theorem toDigitsCore_acc (b : Nat) :
    ∀ (f n : Nat) (ds : List Char), Nat.toDigitsCore b f n ds = Nat.toDigitsCore b f n [] ++ ds
  | 0, _, _ => rfl
  | f + 1, n, ds => by
    simp only [Nat.toDigitsCore]
    split_ifs
    · rfl
    · rw [toDigitsCore_acc b f _ (_ :: ds), toDigitsCore_acc b f _ [_]]; simp

/-- Enough fuel gives the same digits. -/
theorem toDigitsCore_fuel :
    ∀ (f g n : Nat) (ds : List Char), n < f → n < g → Nat.toDigitsCore 10 f n ds = Nat.toDigitsCore 10 g n ds
  | 0, _, _, _, h, _ => absurd h (Nat.not_lt_zero _)
  | _, 0, _, _, _, h => absurd h (Nat.not_lt_zero _)
  | f + 1, g + 1, n, ds, hf, hg => by
    simp only [Nat.toDigitsCore]
    split_ifs with h0
    · rfl
    · exact toDigitsCore_fuel f g _ _ (by omega) (by omega)

/-- The last digit is printed last. -/
theorem formatUint_of_le {n : Nat} (h : 10 ≤ n) :
    formatUint n = formatUint (n / 10) ++ [Nat.digitChar (n % 10)] := by
  have h0 : n / 10 ≠ 0 := by omega
  show Nat.toDigitsCore 10 (n + 1) n [] = Nat.toDigitsCore 10 (n / 10 + 1) (n / 10) [] ++ _
  rw [Nat.toDigitsCore]
  simp only [h0, if_false]
  rw [toDigitsCore_acc, toDigitsCore_fuel n (n / 10 + 1) _ _ (by omega) (by omega)]

theorem formatUint_of_lt {n : Nat} (h : n < 10) : formatUint n = [Nat.digitChar n] := by
  have h0 : n / 10 = 0 := by omega
  simp [formatUint, Nat.toDigits, Nat.toDigitsCore, h0, Nat.mod_eq_of_lt h]

theorem parseDigits_formatUint (s : List Char) {b : Nat} (n : Nat) (h : n < 2 ^ b) :
    parseDigits s b 0 (formatUint n) = .ok n := by
  induction n using Nat.strong_induction_on with
  | _ n ih =>
    rcases Nat.lt_or_ge n 10 with hn | hn
    · rw [formatUint_of_lt hn, parseDigits_digitChar s hn (by omega)]; simp
    · rw [formatUint_of_le hn, parseDigits_append, ih (n / 10) (by omega) (by omega)]
      show parseDigits s b (n / 10) [_] = _
      rw [parseDigits_digitChar s (Nat.mod_lt n (by omega)) (by omega)]
      congr 1; omega

theorem formatUint_ne_nil (n : Nat) : formatUint n ≠ [] := by
  rcases Nat.lt_or_ge n 10 with hn | hn
  · simp [formatUint_of_lt hn]
  · simp [formatUint_of_le hn]

/-- `ParseUint` reads back what `FormatUint` prints. -/
theorem parseUint_formatUint {b : Nat} (n : Nat) (h : n < 2 ^ b) : parseUint (formatUint n) b = .ok n := by
  simp [parseUint, formatUint_ne_nil, parseDigits_formatUint _ n h]

/-- A printed decimal holds only digits. -/
theorem isDigit_of_mem_formatUint : ∀ (n : Nat) {c : Char}, c ∈ formatUint n → c.isDigit = true := by
  intro n
  induction n using Nat.strong_induction_on with
  | _ n ih =>
    intro c hc
    rcases Nat.lt_or_ge n 10 with hn | hn
    · rw [formatUint_of_lt hn, List.mem_singleton] at hc
      exact hc ▸ (digitChar_digit ⟨n, hn⟩).1
    · rw [formatUint_of_le hn, List.mem_append, List.mem_singleton] at hc
      rcases hc with hc | rfl
      · exact ih _ (by omega) hc
      · exact (digitChar_digit ⟨n % 10, Nat.mod_lt n (by omega)⟩).1

theorem not_mem_formatUint {c : Char} (hc : c.isDigit = false) (n : Nat) : c ∉ formatUint n :=
  fun h => by simp [isDigit_of_mem_formatUint n h] at hc

end Gortsplib
