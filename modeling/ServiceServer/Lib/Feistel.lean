import Mathlib.Data.Prod.Basic
import Mathlib.Logic.Function.Basic

/-!
# Feistel networks

A block is a pair of halves.  A round changes one half by what it makes of the other,
and the changed half comes to the front.  All that is asked of a change is that it
undoes itself: what it makes of the other half need not be invertible.

* `Feistel.round_swap_round` — a round is undone by the same round between two swaps.
* `Feistel.rounds_swap_rounds` — and so are any number of rounds, taken from the last.
* `Feistel.crypt_crypt` — between two maskings, rounds are undone by the same network
  with the keys and the masks reversed.
-/

namespace ServiceServer.Lib

universe u v

/-- How a half is changed, under a key and the other half. -/
structure Feistel (κ : Type u) (α : Type v) where
  mix : κ → α → α → α
  involutive : ∀ k x, Function.Involutive (mix k x)

namespace Feistel

variable {κ : Type u} {α : Type v} (N : Feistel κ α)

/-- A round. -/
def round (k : κ) (b : α × α) : α × α := (N.mix k b.1 b.2, b.1)

/-- Rounds under a list of keys. -/
def rounds (ks : List κ) (b : α × α) : α × α := ks.foldl (fun b k => N.round k b) b

@[simp] theorem rounds_nil (b : α × α) : N.rounds [] b = b := rfl

@[simp] theorem rounds_cons (k : κ) (ks : List κ) (b : α × α) :
    N.rounds (k :: ks) b = N.rounds ks (N.round k b) := rfl

theorem rounds_append (ks ls : List κ) (b : α × α) :
    N.rounds (ks ++ ls) b = N.rounds ls (N.rounds ks b) := List.foldl_append

/-- **A round is undone by the same round**, on the halves swapped. -/
theorem round_swap_round (k : κ) (b : α × α) : N.round k (N.round k b).swap = b.swap := by
  have hundo := N.involutive k b.1 b.2
  rw [round, round, Prod.swap_prod_mk, hundo]
  rfl

/-- **Rounds are undone by the same rounds from the last to the first.** -/
theorem rounds_swap_rounds (ks : List κ) (b : α × α) :
    N.rounds ks.reverse (N.rounds ks b).swap = b.swap := by
  induction ks generalizing b with
  | nil => rfl
  | cons k ks ih =>
    rw [List.reverse_cons, rounds_append, N.rounds_cons k ks b, ih, rounds_cons, rounds_nil,
      round_swap_round]

/-! ## Masked networks -/

/-- The network between two maskings: the front half is masked first, and after the
rounds the half behind, which comes to the front. -/
def crypt (first last : α → α) (ks : List κ) (b : α × α) : α × α :=
  let r := N.rounds ks (first b.1, b.2)
  (last r.2, r.1)

/-- **The network undoes itself** with the keys and the masks reversed. -/
theorem crypt_crypt {first last : α → α} (hfirst : Function.Involutive first)
    (hlast : Function.Involutive last) (ks : List κ) (b : α × α) :
    N.crypt last first ks.reverse (N.crypt first last ks b) = b := by
  have hrounds : N.rounds ks.reverse ((N.rounds ks (first b.1, b.2)).2,
      (N.rounds ks (first b.1, b.2)).1) = (b.2, first b.1) :=
    N.rounds_swap_rounds ks (first b.1, b.2)
  simp only [crypt, hlast _, hrounds, hfirst _]

end Feistel

end ServiceServer.Lib
