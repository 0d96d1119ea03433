import Mathlib.Data.List.GetD
import Mathlib.Data.Nat.Basic

/-!
# Reading a list over and over

A reader that starts again at the front when it comes to the end sees, at place `k`,
the element `k % n`.  A cursor that is set back only when it is used stands at the
same place.

A list is read to its end and what closes it, and then again.  Where the closing
element occurs in no list, two lists that are read alike for `N` places are alike
in their first `N` elements (`cyclic_eq_iff_take_eq`): the shorter one would show
its end.
-/

namespace ServiceServer.Lib

universe u

variable {α : Type u}

/-- Place `k` of the first `n` elements of a list, read over and over. -/
def cyclic (l : List α) (d : α) (n k : ℕ) : α := l.getD (k % n) d

/-- Where a cursor reads next: at the front again, when it has come to the end. -/
def wrap (n j : ℕ) : ℕ := if n ≤ j then 0 else j

/-- The cursor goes round with the places. -/
theorem wrap_succ {n k : ℕ} (hn : 0 < n) : wrap n (k % n + 1) = (k + 1) % n := by
  have hlt := Nat.mod_lt k hn
  rw [wrap, ← Nat.mod_add_mod k n 1]
  by_cases hend : n ≤ k % n + 1
  · rw [if_pos hend, show k % n + 1 = n by omega, Nat.mod_self]
  · rw [if_neg hend, Nat.mod_eq_of_lt (show k % n + 1 < n by omega)]

theorem getD_flatten_replicate {l : List α} (d : α) {m i : ℕ} (hi : i < m * l.length) :
    (List.replicate m l).flatten.getD i d = l.getD (i % l.length) d := by
  induction m generalizing i with
  | zero => rw [Nat.zero_mul] at hi; omega
  | succ m ih =>
    rw [List.replicate_succ, List.flatten_cons]
    rw [Nat.succ_mul] at hi
    by_cases hfirst : i < l.length
    · rw [List.getD_append _ _ _ _ hfirst, Nat.mod_eq_of_lt hfirst]
    · rw [List.getD_append_right _ _ _ _ (by omega), ih (by omega),
        ← Nat.mod_eq_sub_mod (by omega)]

/-- A list written down several times is read as the list. -/
theorem cyclic_replicate {l : List α} (hl : l ≠ []) {m : ℕ} (hm : 0 < m) (d : α) (k : ℕ) :
    cyclic (List.replicate m l).flatten d (m * l.length) k = cyclic l d l.length k := by
  have hlen := List.length_pos_iff.2 hl
  rw [cyclic, getD_flatten_replicate d (Nat.mod_lt _ (Nat.mul_pos hm hlen)),
    Nat.mod_mul_left_mod, cyclic]

/-! ## Closed lists -/

variable {l l' : List α} {z : α} {N : ℕ}

/-- Up to its end, a list is read as it is. -/
theorem cyclic_of_lt {k : ℕ} (hk : k < min l.length N) :
    cyclic (l ++ [z]) z (min l.length N + 1) k = l.getD k z := by
  rw [cyclic, Nat.mod_eq_of_lt (by omega), List.getD_append _ _ _ _ (by omega)]

/-- At its end stands what closes it. -/
theorem cyclic_length (h : l.length < N) :
    cyclic (l ++ [z]) z (min l.length N + 1) l.length = z := by
  rw [cyclic, Nat.mod_eq_of_lt (by omega), List.getD_append_right _ _ _ _ le_rfl, Nat.sub_self]
  rfl

/-- A list that is read as a shorter one would be holds what closes that one. -/
theorem length_le_of_cyclic_eq (hl' : z ∉ l') (hlen : l.length < N)
    (h : cyclic (l ++ [z]) z (min l.length N + 1) l.length
      = cyclic (l' ++ [z]) z (min l'.length N + 1) l.length) : l'.length ≤ l.length := by
  by_contra hlonger
  rw [cyclic_length hlen, cyclic_of_lt (by omega), List.getD_eq_getElem _ _ (by omega)] at h
  exact hl' (h ▸ List.getElem_mem _)

theorem take_eq_of_getD (hlen : min l.length N = min l'.length N)
    (h : ∀ k < min l.length N, l.getD k z = l'.getD k z) : l.take N = l'.take N := by
  apply List.ext_getElem
  · rw [List.length_take, List.length_take]
    omega
  · intro k hk hk'
    rw [List.length_take] at hk hk'
    have hget := h k (by omega)
    rw [List.getD_eq_getElem _ _ (by omega), List.getD_eq_getElem _ _ (by omega)] at hget
    rw [List.getElem_take, List.getElem_take]
    exact hget

/-- **Closed lists are read alike for `N` places exactly when their first `N` elements
are alike.** -/
theorem cyclic_eq_iff_take_eq (hl : z ∉ l) (hl' : z ∉ l') :
    (∀ k < N, cyclic (l ++ [z]) z (min l.length N + 1) k
        = cyclic (l' ++ [z]) z (min l'.length N + 1) k) ↔ l.take N = l'.take N := by
  constructor
  · intro h
    have hmin : min l.length N = min l'.length N := by
      have hle : l.length < N → l'.length ≤ l.length := fun hlen =>
        length_le_of_cyclic_eq hl' hlen (h _ hlen)
      have hge : l'.length < N → l.length ≤ l'.length := fun hlen =>
        length_le_of_cyclic_eq hl hlen (h _ hlen).symm
      omega
    refine take_eq_of_getD (z := z) hmin fun k hk => ?_
    have hread := h k (by omega)
    rwa [cyclic_of_lt hk, cyclic_of_lt (by omega)] at hread
  · intro h k hk
    have hlength := congrArg List.length h
    rw [List.length_take, List.length_take] at hlength
    by_cases hlong : N ≤ l.length
    · rw [cyclic_of_lt (by omega), cyclic_of_lt (by omega)]
      have hget := congrArg (fun l => l.getD k z) h
      simpa [List.getD_eq_getElem?_getD, List.getElem?_take, hk] using hget
    · -- both are shorter, and so they are the same list
      rw [List.take_of_length_le (by omega), List.take_of_length_le (by omega)] at h
      rw [h]

end ServiceServer.Lib
