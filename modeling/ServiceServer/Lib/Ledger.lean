import ServiceServer.Lib.Machine
import Mathlib.Algebra.BigOperators.Group.List.Basic
import Mathlib.Data.Multiset.AddSub
import Mathlib.Algebra.Order.Group.Multiset
import Mathlib.Algebra.Order.Monoid.Defs

/-!
# Keeping the books of a machine

A machine moves tokens between containers.  If every step balances, that is, if
what it holds after the step and what left in the step are what it held before
and what came in, then so does every run.

* `Machine.Run.ledger` — from the balance of a step to the balance of a run.
* `Machine.Run.fifo` — the same for a queue, where the order counts: what went in is
  what came out and then what still waits.
* `Machine.Run.ledger_le` — the same where every step may waste: what is spent is covered by
  what was held and what came in.
* `sum_map_filterMap`, `coe_flatMap` — the bookkeeping of a loop that keeps some
  elements of a list and empties the others somewhere else.
* `map_filterMap_sublist` — what such a loop keeps was there before.
* `flatMap_prefix_flatMap` — what has been delivered, while only the last delivery may be
  short, is the beginning of what was owed.
* `mem_listSum` — a token of a sum of containers is in one of them.
-/

namespace ServiceServer.Lib

universe u v w x

/-- **The ledger of a run**: if each of its transitions balances, what was held at
the start and all that came in is what is held at the end and all that left. -/
theorem Machine.Run.ledger {σ : Type u} {ι : Type v} {ο : Type w} {ε : Type x} {A : Type*}
    [AddCommMonoid A] {M : Machine σ ι ο ε} {s₀ s : σ} {h : List (Transition σ ι ο)}
    (hr : M.Run s₀ h s) (held : σ → A) (inflow outflow : σ → ι → A)
    (hbal : ∀ t ∈ h, held t.post + outflow t.pre t.label = held t.pre + inflow t.pre t.label) :
    held s₀ + (h.map fun t => inflow t.pre t.label).sum
      = held s + (h.map fun t => outflow t.pre t.label).sum := by
  induction hr with
  | nil => simp
  | @snoc h s s' i o _ _ ih =>
    rw [List.forall_mem_append, List.forall_mem_singleton] at hbal
    obtain ⟨hpast, hlast⟩ := hbal
    simp only [List.map_append, List.map_cons, List.map_nil, List.sum_append, List.sum_cons,
      List.sum_nil, add_zero]
    calc held s₀ + ((h.map fun t => inflow t.pre t.label).sum + inflow s i)
        = held s + inflow s i + (h.map fun t => outflow t.pre t.label).sum := by
          rw [← add_assoc, ih hpast, add_right_comm]
      _ = held s' + ((h.map fun t => outflow t.pre t.label).sum + outflow s i) := by
          rw [← hlast, add_assoc, add_comm (outflow s i)]

/-- **The ledger of a run that wastes**: if each transition spends no more than it finds and
gains, so does the run. -/
theorem Machine.Run.ledger_le {σ : Type u} {ι : Type v} {ο : Type w} {ε : Type x} {A : Type*}
    [AddCommMonoid A] [PartialOrder A] [IsOrderedAddMonoid A] {M : Machine σ ι ο ε} {s₀ s : σ}
    {h : List (Transition σ ι ο)} (hr : M.Run s₀ h s) (held : σ → A)
    (gain cost : Transition σ ι ο → A)
    (hbal : ∀ t ∈ h, cost t + held t.post ≤ held t.pre + gain t) :
    (h.map cost).sum + held s ≤ held s₀ + (h.map gain).sum := by
  induction hr with
  | nil => simp
  | @snoc h s s' i o _ _ ih =>
    rw [List.forall_mem_append, List.forall_mem_singleton] at hbal
    obtain ⟨hpast, hlast⟩ := hbal
    simp only [List.map_append, List.map_cons, List.map_nil, List.sum_append, List.sum_cons,
      List.sum_nil, add_zero]
    calc (h.map cost).sum + cost ⟨s, i, o, s'⟩ + held s'
        ≤ (h.map cost).sum + (held s + gain ⟨s, i, o, s'⟩) := by
          rw [add_assoc]
          exact add_le_add_right hlast _
      _ ≤ held s₀ + ((h.map gain).sum + gain ⟨s, i, o, s'⟩) := by
          rw [← add_assoc, ← add_assoc]
          exact add_le_add_left (ih hpast) _

/-- **The ledger of a queue**: if in each transition what comes in joins the queue
behind and what leaves it leaves in front, then what came in during the run came in
behind what waited at the start, and has left or waits in that order. -/
theorem Machine.Run.fifo {σ : Type u} {ι : Type v} {ο : Type w} {ε : Type x} {α : Type*}
    {M : Machine σ ι ο ε} {s₀ s : σ} {h : List (Transition σ ι ο)} (hr : M.Run s₀ h s)
    (waiting : σ → List α) (into outof : Transition σ ι ο → List α)
    (hbal : ∀ t ∈ h, waiting t.pre ++ into t = outof t ++ waiting t.post) :
    waiting s₀ ++ h.flatMap into = h.flatMap outof ++ waiting s := by
  induction hr with
  | nil => simp
  | @snoc h s s' i o _ _ ih =>
    rw [List.forall_mem_append, List.forall_mem_singleton] at hbal
    obtain ⟨hpast, hlast⟩ := hbal
    simp only [List.flatMap_append, List.flatMap_singleton]
    calc waiting s₀ ++ (h.flatMap into ++ into ⟨s, i, o, s'⟩)
        = h.flatMap outof ++ (waiting s ++ into ⟨s, i, o, s'⟩) := by
          rw [← List.append_assoc, ih hpast, List.append_assoc]
      _ = h.flatMap outof ++ outof ⟨s, i, o, s'⟩ ++ waiting s' := by
          rw [hlast, List.append_assoc]

/-- A sum over the elements a loop keeps, taken over all of them. -/
theorem sum_map_filterMap {α β A : Type*} [AddCommMonoid A] (f : α → Option β) (g : β → A)
    (l : List α) : ((l.filterMap f).map g).sum = (l.map fun a => (f a).elim 0 g).sum := by
  induction l with
  | nil => rfl
  | cons a l ih => cases hf : f a <;> simp [hf, ih]

/-- What a loop keeps was there before, in this order. -/
theorem map_filterMap_sublist {α β γ : Type*} {f : α → Option β} {g : β → γ} {k : α → γ}
    (hk : ∀ a b, f a = some b → g b = k a) (l : List α) :
    ((l.filterMap f).map g).Sublist (l.map k) := by
  induction l with
  | nil => exact List.Sublist.slnil
  | cons a l ih =>
    cases hf : f a with
    | none => rw [List.filterMap_cons_none hf]; exact ih.cons _
    | some b =>
      rw [List.filterMap_cons_some hf, List.map_cons, hk a b hf]
      exact ih.cons_cons _

/-- The tokens of a concatenation, list by list. -/
theorem coe_flatMap {α β : Type*} (f : α → List β) (l : List α) :
    ((l.flatMap f : List β) : Multiset β) = (l.map fun a => (f a : Multiset β)).sum := by
  induction l with
  | nil => rfl
  | cons a l ih => simp [← Multiset.coe_add, ih]

/-- **Deliveries in pieces.**  If of each debt a first part is delivered, and all of it
except for the last, what was delivered is the beginning of what was owed. -/
theorem flatMap_prefix_flatMap {α β : Type*} {delivered owed : α → List β} {l : List α}
    (hpart : ∀ a ∈ l, delivered a <+: owed a) (hall : ∀ a ∈ l.dropLast, delivered a = owed a) :
    l.flatMap delivered <+: l.flatMap owed := by
  rcases List.eq_nil_or_concat l with rfl | ⟨before, a, rfl⟩
  · exact List.prefix_rfl
  · rw [List.concat_eq_append] at hpart hall ⊢
    rw [List.dropLast_concat] at hall
    have hbefore : before.flatMap delivered = before.flatMap owed := by
      rw [List.flatMap_def, List.flatMap_def, List.map_congr_left hall]
    rw [List.flatMap_append, List.flatMap_append, hbefore, List.flatMap_singleton,
      List.flatMap_singleton, List.prefix_append_right_inj]
    exact hpart a (by simp)

/-- A token of a sum of containers is in one of them. -/
theorem mem_listSum {α : Type*} {x : α} {l : List (Multiset α)} :
    x ∈ l.sum ↔ ∃ m ∈ l, x ∈ m := by
  induction l with
  | nil => simp
  | cons m l ih => simp [Multiset.mem_add, ih]

end ServiceServer.Lib
