import Mathlib.Data.List.Basic

/-!
# Reordering independent steps

Steps that may fail are taken one after the other.  Each step belongs to some
classes, and two steps that share no class can be taken in either order.

* `Commutes` — two steps can be taken in either order.
* `foldlM_move_front` — a step moves in front of those it commutes with.
* `foldlM_eq_of_filter_eq` — two lists that hold the steps of each class in the same
  order lead to the same result.
-/

namespace ServiceServer.Lib

universe u v w

variable {α : Type u} {σ : Type v} {m : Type v → Type w} [Monad m]

/-- Taking `a` and then `b` is taking `b` and then `a`, from every state. -/
def Commutes (f : σ → α → m σ) (a b : α) : Prop :=
  ∀ s, (f s a >>= fun s' => f s' b) = (f s b >>= fun s' => f s' a)

theorem Commutes.symm {f : σ → α → m σ} {a b : α} (h : Commutes f a b) : Commutes f b a :=
  fun s => (h s).symm

variable [LawfulMonad m]

/-- **A step moves in front of those it commutes with.** -/
theorem foldlM_move_front {f : σ → α → m σ} {a : α} {front : List α}
    (hcomm : ∀ b ∈ front, Commutes f b a) (rest : List α) (s : σ) :
    (front ++ a :: rest).foldlM f s = (a :: (front ++ rest)).foldlM f s := by
  induction front generalizing s with
  | nil => rfl
  | cons b front ih =>
    have hb : Commutes f b a := hcomm b List.mem_cons_self
    have hfront : ∀ c ∈ front, Commutes f c a := fun c hc =>
      hcomm c (List.mem_cons_of_mem _ hc)
    calc (b :: (front ++ a :: rest)).foldlM f s
        = f s b >>= fun s' => (a :: (front ++ rest)).foldlM f s' := by
          rw [List.foldlM_cons]
          exact bind_congr fun s' => ih hfront s'
      _ = (f s b >>= fun s' => f s' a) >>= fun s' => (front ++ rest).foldlM f s' := by
          simp only [List.foldlM_cons, bind_assoc]
      _ = (f s a >>= fun s' => f s' b) >>= fun s' => (front ++ rest).foldlM f s' := by
          rw [hb s]
      _ = (a :: (b :: front ++ rest)).foldlM f s := by
          simp only [List.cons_append, List.foldlM_cons, bind_assoc]

section Classes

variable {κ : Type*} {inClass : κ → α → Bool}

/-- Lists that agree class by class have the same elements. -/
theorem mem_of_filter_eq (hclass : ∀ a, ∃ k, inClass k a = true) {l₁ l₂ : List α}
    (hsame : ∀ k, l₁.filter (inClass k) = l₂.filter (inClass k)) {a : α} (ha : a ∈ l₁) :
    a ∈ l₂ := by
  obtain ⟨k, hk⟩ := hclass a
  have hfilter : a ∈ l₂.filter (inClass k) := by
    rw [← hsame k]
    exact List.mem_filter.2 ⟨ha, hk⟩
  exact (List.mem_filter.1 hfilter).1

/-- What stands before the first occurrence of a head shares no class with it: the
class would start with something else. -/
theorem apart_of_filter_eq {a : α} {l front rest : List α}
    (hsame : ∀ k, (a :: l).filter (inClass k) = (front ++ a :: rest).filter (inClass k))
    (hnot : a ∉ front) {b : α} (hb : b ∈ front) {k : κ} (hkb : inClass k b = true) :
    inClass k a = false := by
  by_contra hka
  rw [Bool.not_eq_false] at hka
  have hsplit := hsame k
  rw [List.filter_cons_of_pos hka, List.filter_append] at hsplit
  have hbf : b ∈ front.filter (inClass k) := List.mem_filter.2 ⟨hb, hkb⟩
  cases hfront : front.filter (inClass k) with
  | nil => simp [hfront] at hbf
  | cons c cs =>
    rw [hfront, List.cons_append] at hsplit
    obtain ⟨rfl, -⟩ := List.cons.inj hsplit
    have haf : a ∈ front.filter (inClass k) := by
      rw [hfront]
      exact List.mem_cons_self
    exact hnot (List.mem_filter.1 haf).1

/-- Without the head, the lists still agree class by class. -/
theorem filter_eq_of_apart {a : α} {l front rest : List α}
    (hsame : ∀ k, (a :: l).filter (inClass k) = (front ++ a :: rest).filter (inClass k))
    (hapart : ∀ b ∈ front, ∀ k, inClass k b = true → inClass k a = false) (k : κ) :
    l.filter (inClass k) = (front ++ rest).filter (inClass k) := by
  have hsplit := hsame k
  rw [List.filter_append] at hsplit ⊢
  cases hka : inClass k a with
  | false =>
    have hneg : ¬ inClass k a = true := by simp [hka]
    rwa [List.filter_cons_of_neg hneg, List.filter_cons_of_neg hneg] at hsplit
  | true =>
    have hnone : front.filter (inClass k) = [] := by
      rw [List.filter_eq_nil_iff]
      intro b hb hkb
      rw [hapart b hb k hkb] at hka
      cases hka
    rw [List.filter_cons_of_pos hka, List.filter_cons_of_pos hka, hnone, List.nil_append]
      at hsplit
    rw [hnone, List.nil_append]
    exact (List.cons.inj hsplit).2

/-- **Lists that agree class by class lead to the same result**, when steps that
share no class commute. -/
theorem foldlM_eq_of_filter_eq {f : σ → α → m σ} (hclass : ∀ a, ∃ k, inClass k a = true)
    {l₁ l₂ : List α}
    (hcomm : ∀ a ∈ l₁, ∀ b ∈ l₁, (∀ k, inClass k a = true → inClass k b = false) →
      Commutes f a b)
    (hsame : ∀ k, l₁.filter (inClass k) = l₂.filter (inClass k)) (s : σ) :
    l₁.foldlM f s = l₂.foldlM f s := by
  induction l₁ generalizing l₂ s with
  | nil =>
    cases l₂ with
    | nil => rfl
    | cons b l =>
      have hb := mem_of_filter_eq hclass (fun k => (hsame k).symm) (List.mem_cons_self (a := b))
      simp at hb
  | cons a l ih =>
    have ha : a ∈ l₂ := mem_of_filter_eq hclass hsame List.mem_cons_self
    obtain ⟨front, rest, rfl, hnot⟩ := List.eq_append_cons_of_mem ha
    have hapart : ∀ b ∈ front, ∀ k, inClass k b = true → inClass k a = false := by
      intro b hb k hkb
      exact apart_of_filter_eq hsame hnot hb hkb
    have hfront : ∀ b ∈ front, Commutes f b a := by
      intro b hb
      have hbl : b ∈ a :: l :=
        mem_of_filter_eq hclass (fun k => (hsame k).symm) (List.mem_append_left _ hb)
      exact hcomm b hbl a List.mem_cons_self (hapart b hb)
    rw [foldlM_move_front hfront, List.foldlM_cons, List.foldlM_cons]
    refine bind_congr fun s' => ih ?_ (filter_eq_of_apart hsame hapart) s'
    intro b hb c hc
    exact hcomm b (List.mem_cons_of_mem _ hb) c (List.mem_cons_of_mem _ hc)

end Classes

end ServiceServer.Lib
