import Mathlib.Data.List.Basic
import Mathlib.Data.Nat.Digits.Defs
import Mathlib.Tactic.NormNum

/-!
# Decimal numerals as bytes

Natural numbers printed in plain decimal ASCII, and read back.

* `decimal` — the numeral of a number, most significant digit first.
* `ofDecimal` — the value of a string of digits.
* `ofDecimal_decimal` — a numeral has the value it was printed from.
* `takeWhile_decimal_append` — a numeral followed by something that is not a
  digit is cut off exactly, which is how numerals are read out of a longer text.
-/

namespace ServiceServer.Lib

/-- The numeral of `n` in decimal ASCII. -/
def decimal (n : Nat) : List UInt8 := (Nat.toDigits 10 n).map Char.toUInt8

/-- Is the byte an ASCII digit? -/
def isDigit (b : UInt8) : Bool := 48 ≤ b && b ≤ 57

/-- The value of a string of ASCII digits. -/
def ofDecimal (ds : List UInt8) : Nat := ds.foldl (fun v b => 10 * v + (b.toNat - 48)) 0

theorem isDigit_iff {b : UInt8} : isDigit b = true ↔ 48 ≤ b.toNat ∧ b.toNat ≤ 57 := by
  simp [isDigit, UInt8.le_iff_toNat_le]

theorem decimal_ne_nil (n : Nat) : decimal n ≠ [] := by
  simp [decimal, Nat.toDigits_ne_nil]

/-- A number below `10 ^ k` has at most `k` digits. -/
theorem length_decimal_le {n k : Nat} (hk : 0 < k) (hn : n < 10 ^ k) : (decimal n).length ≤ k := by
  rw [decimal, List.length_map]
  exact Nat.toDigits_length 10 n k hk hn

/-- The byte of a digit character keeps its code. -/
theorem toUInt8_toNat_of_isDigit {c : Char} (h : c.isDigit = true) :
    c.toUInt8.toNat = c.toNat ∧ 48 ≤ c.toNat ∧ c.toNat ≤ 57 := by
  rw [Char.isDigit, Bool.and_eq_true, decide_eq_true_eq, decide_eq_true_eq] at h
  have h1 : 48 ≤ c.toNat := UInt32.le_iff_toNat_le.1 h.1
  have h2 : c.toNat ≤ 57 := UInt32.le_iff_toNat_le.1 h.2
  refine ⟨?_, h1, h2⟩
  show c.val.toNat % 256 = c.val.toNat
  exact Nat.mod_eq_of_lt (lt_of_le_of_lt h2 (by norm_num))

theorem isDigit_of_mem_decimal {n : Nat} {b : UInt8} (hb : b ∈ decimal n) :
    isDigit b = true := by
  obtain ⟨c, hc, rfl⟩ := List.mem_map.1 hb
  obtain ⟨hcode, h1, h2⟩ :=
    toUInt8_toNat_of_isDigit (Nat.isDigit_of_mem_toDigits (by norm_num) (by norm_num) hc)
  rw [isDigit_iff, hcode]
  exact ⟨h1, h2⟩

/-- Reading the bytes of digit characters is reading the characters. -/
theorem foldl_map_toUInt8 {cs : List Char} (h : ∀ c ∈ cs, c.isDigit = true) (v : Nat) :
    (cs.map Char.toUInt8).foldl (fun v b => 10 * v + (b.toNat - 48)) v
      = Nat.ofDigitChars 10 cs v := by
  induction cs generalizing v with
  | nil => rfl
  | cons c cs ih =>
    have hc := toUInt8_toNat_of_isDigit (h c (by simp))
    rw [List.map_cons, List.foldl_cons, Nat.ofDigitChars_cons, hc.1,
      ih (fun d hd => h d (List.mem_cons_of_mem _ hd))]
    rfl

/-- **Reading a numeral gives back the number.** -/
theorem ofDecimal_decimal (n : Nat) : ofDecimal (decimal n) = n := by
  rw [ofDecimal, decimal, foldl_map_toUInt8, Nat.ofDigitChars_ten_toDigits]
  intro c hc
  exact Nat.isDigit_of_mem_toDigits (by norm_num) (by norm_num) hc

theorem decimal_injective : Function.Injective decimal :=
  Function.LeftInverse.injective ofDecimal_decimal

/-- A numeral is cut off at the first byte that is not a digit. -/
theorem takeWhile_decimal_append (n : Nat) {t : List UInt8}
    (ht : ∀ b ∈ t.head?, isDigit b = false) :
    (decimal n ++ t).takeWhile isDigit = decimal n := by
  rw [List.takeWhile_append_of_pos (fun b hb => isDigit_of_mem_decimal hb)]
  cases t with
  | nil => simp
  | cons b t =>
    have hb : isDigit b = false := ht b (by simp)
    simp [hb]

theorem takeWhile_decimal (n : Nat) : (decimal n).takeWhile isDigit = decimal n := by
  simpa using takeWhile_decimal_append n (t := []) (by simp)

end ServiceServer.Lib
