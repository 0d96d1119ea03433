import Mathlib.Data.List.Basic
import Mathlib.Data.List.Induction

/-!
# Machines and their runs

A **machine** is a deterministic step function that may refuse a step: given a
state and a label it either fails, or yields the next state together with what
the step emitted.  A **run** is the list of its transitions, each carrying the
state before, the label, the output and the state after, so that a statement
about a run may speak of everything that happened and in which order.

* `Machine.Run` — the runs from a state; a failed step ends a run.
* `Machine.Run.invariant` — a property kept by every step holds at every end;
  `Machine.Run.invariant_of_mem` — one kept by the steps that meet a condition.
* `Machine.Run.mem_split` — each transition of a run is a step taken after a
  shorter run.
* `Along` — a condition on each element of a list that may look at the elements
  before it, such as what a step of a run may rely on.
* `Machine.exec` — runs a list of labels; `Machine.exists_run_of_exec` turns an
  evaluated execution into a run, and `Machine.exists_of_okSat` an evaluated step
  into a step.
* `Machine.Leads` — some run leads from a state to a state and emits a list.
-/

namespace ServiceServer.Lib

universe u v w x

/-- A deterministic machine: `step s i` fails, or moves to a new state and
emits an output. -/
structure Machine (σ : Type u) (ι : Type v) (ο : Type w) (ε : Type x) where
  /-- One step from a state, under a label. -/
  step : σ → ι → Except ε (σ × ο)

/-- One step of a run, with everything that can be said about it. -/
structure Transition (σ : Type u) (ι : Type v) (ο : Type w) where
  /-- The state before the step. -/
  pre : σ
  /-- What was done. -/
  label : ι
  /-- What the step emitted. -/
  out : ο
  /-- The state after the step. -/
  post : σ

/-- Every element of the list meets `P`, given the elements before it. -/
def Along {α : Type u} (P : List α → α → Prop) (l : List α) : Prop :=
  ∀ l₁ a l₂, l = l₁ ++ a :: l₂ → P l₁ a

theorem along_nil {α : Type u} (P : List α → α → Prop) : Along P [] := by
  intro l₁ a l₂ h
  simp at h

theorem along_concat_iff {α : Type u} {P : List α → α → Prop} {l : List α} {a : α} :
    Along P (l ++ [a]) ↔ Along P l ∧ P l a := by
  constructor
  · intro h
    refine ⟨fun l₁ b l₂ hl => h l₁ b (l₂ ++ [a]) (by simp [hl]), h l a [] rfl⟩
  · rintro ⟨hl, ha⟩ l₁ b l₂ heq
    rcases List.eq_nil_or_concat l₂ with rfl | ⟨l₃, c, rfl⟩
    · obtain ⟨rfl, hab⟩ := List.append_inj' heq rfl
      obtain rfl := List.singleton_injective hab
      exact ha
    · rw [show l₁ ++ b :: l₃.concat c = (l₁ ++ b :: l₃) ++ [c] by simp] at heq
      obtain ⟨rfl, -⟩ := List.append_inj' heq rfl
      exact hl l₁ b l₃ rfl

theorem Along.imp {α : Type u} {P Q : List α → α → Prop} (h : ∀ l a, P l a → Q l a) {l : List α}
    (hl : Along P l) : Along Q l :=
  fun l₁ a l₂ heq => h l₁ a (hl l₁ a l₂ heq)

theorem Along.of_append {α : Type u} {P : List α → α → Prop} {l l' : List α}
    (h : Along P (l ++ l')) : Along P l :=
  fun l₁ a l₂ heq => h l₁ a (l₂ ++ l') (by simp [heq])

instance {α : Type u} (P : List α → α → Prop) [∀ l a, Decidable (P l a)] :
    DecidablePred (Along P) := fun l =>
  decidable_of_iff (∀ i, (h : i < l.length) → P (l.take i) l[i]) <| by
    constructor
    · rintro h l₁ a l₂ rfl
      simpa using h l₁.length (by simp)
    · exact fun h i hi => h _ _ (l.drop (i + 1)) (by simp)

namespace Machine

variable {σ : Type u} {ι : Type v} {ο : Type w} {ε : Type x}

/-- The runs of a machine from `s₀`: the transitions taken, oldest first, and
the state they end in. -/
inductive Run (M : Machine σ ι ο ε) (s₀ : σ) : List (Transition σ ι ο) → σ → Prop
  | nil : Run M s₀ [] s₀
  | snoc {h : List (Transition σ ι ο)} {s s' : σ} {i : ι} {o : ο} :
      Run M s₀ h s → M.step s i = .ok (s', o) → Run M s₀ (h ++ [⟨s, i, o, s'⟩]) s'

/-- `s` can be reached from `s₀`. -/
def Reachable (M : Machine σ ι ο ε) (s₀ s : σ) : Prop := ∃ h, M.Run s₀ h s

variable {M : Machine σ ι ο ε}

namespace Run

variable {s₀ s s' : σ} {h h' : List (Transition σ ι ο)}

/-- **The invariant rule.**  What holds at the start and is kept by every step
holds at the end of every run. -/
theorem invariant {P : σ → Prop} (h₀ : P s₀)
    (hstep : ∀ s i s' o, P s → M.step s i = .ok (s', o) → P s')
    (hr : M.Run s₀ h s) : P s := by
  induction hr with
  | nil => exact h₀
  | snoc _ hs ih => exact hstep _ _ _ _ ih hs

/-- **The invariant rule under a condition.**  What holds at the start and is kept
by every step that meets the condition holds at the end of a run of such steps,
and before each of them. -/
theorem invariant_of_mem {P : σ → Prop} {R : σ → ι → Prop} (h₀ : P s₀)
    (hstep : ∀ s i s' o, P s → R s i → M.step s i = .ok (s', o) → P s')
    (hr : M.Run s₀ h s) (hcond : ∀ t ∈ h, R t.pre t.label) : P s ∧ ∀ t ∈ h, P t.pre := by
  induction hr with
  | nil => exact ⟨h₀, by simp⟩
  | snoc _ hs ih =>
    rw [List.forall_mem_append, List.forall_mem_singleton] at hcond
    obtain ⟨hv, hpre⟩ := ih hcond.1
    refine ⟨hstep _ _ _ _ hv hcond.2 hs, ?_⟩
    rw [List.forall_mem_append, List.forall_mem_singleton]
    exact ⟨hpre, hv⟩

/-- A step is a run. -/
theorem single {i : ι} {o : ο} (hs : M.step s i = .ok (s', o)) : M.Run s [⟨s, i, o, s'⟩] s' :=
  .snoc .nil hs

/-- A run can be continued by a run from where it ended. -/
theorem append (hr : M.Run s₀ h s) (hr' : M.Run s h' s') : M.Run s₀ (h ++ h') s' := by
  induction hr' with
  | nil => simpa using hr
  | snoc _ hs ih => simpa using ih.snoc hs

theorem nil_iff : M.Run s₀ [] s ↔ s = s₀ := by
  constructor
  · intro hr
    generalize hk : ([] : List (Transition σ ι ο)) = k at hr
    cases hr with
    | nil => rfl
    | snoc _ _ => simp at hk
  · rintro rfl
    exact .nil

/-- The last transition of a run is a step, and what comes before it is a run. -/
theorem concat_iff {t : Transition σ ι ο} :
    M.Run s₀ (h ++ [t]) s ↔
      M.Run s₀ h t.pre ∧ M.step t.pre t.label = .ok (t.post, t.out) ∧ s = t.post := by
  constructor
  · intro hr
    generalize hk : h ++ [t] = k at hr
    cases hr with
    | nil => simp at hk
    | snoc hr hs =>
      obtain ⟨rfl, ht⟩ := List.append_inj' hk rfl
      obtain rfl := List.singleton_injective ht
      exact ⟨hr, hs, rfl⟩
  · rintro ⟨hr, hs, rfl⟩
    exact hr.snoc hs

/-- A run can be cut anywhere. -/
theorem split {h₁ h₂ : List (Transition σ ι ο)} (hr : M.Run s₀ (h₁ ++ h₂) s) :
    ∃ t, M.Run s₀ h₁ t ∧ M.Run t h₂ s := by
  induction h₂ using List.reverseRecOn generalizing s with
  | nil => exact ⟨s, by simpa using hr, .nil⟩
  | append_singleton l t ih =>
    rw [← List.append_assoc, concat_iff] at hr
    obtain ⟨hr, hs, rfl⟩ := hr
    obtain ⟨m, hm₁, hm₂⟩ := ih hr
    exact ⟨m, hm₁, concat_iff.2 ⟨hm₂, hs, rfl⟩⟩

/-- **A transition of a run is a step taken after a shorter run**, and the rest
of the run goes on from where it led. -/
theorem mem_split {h₁ h₂ : List (Transition σ ι ο)} {t : Transition σ ι ο}
    (hr : M.Run s₀ (h₁ ++ t :: h₂) s) :
    M.Run s₀ h₁ t.pre ∧ M.step t.pre t.label = .ok (t.post, t.out) ∧ M.Run t.post h₂ s := by
  rw [show h₁ ++ t :: h₂ = h₁ ++ ([t] ++ h₂) by simp] at hr
  obtain ⟨m, hm₁, hm₂⟩ := hr.split
  obtain ⟨n, hn₁, hn₂⟩ := hm₂.split
  rw [← List.nil_append [t], concat_iff, nil_iff] at hn₁
  obtain ⟨rfl, hs, rfl⟩ := hn₁
  exact ⟨hm₁, hs, hn₂⟩

/-- Every transition of a run is a step. -/
theorem step_of_mem (hr : M.Run s₀ h s) {t : Transition σ ι ο} (ht : t ∈ h) :
    M.step t.pre t.label = .ok (t.post, t.out) := by
  obtain ⟨h₁, h₂, rfl⟩ := List.append_of_mem ht
  exact hr.mem_split.2.1

end Run

/-! ## Executing a list of labels -/

/-- Take the listed steps one after the other, recording the transitions. -/
def exec (M : Machine σ ι ο ε) (s : σ) : List ι → Except ε (List (Transition σ ι ο) × σ)
  | [] => .ok ([], s)
  | i :: is =>
    match M.step s i with
    | .error e => .error e
    | .ok (s', o) =>
      match exec M s' is with
      | .error e => .error e
      | .ok (h, s'') => .ok (⟨s, i, o, s'⟩ :: h, s'')

/-- Did a step succeed, and with a result that passes `p`? -/
def okSat (r : Except ε (σ × ο)) (p : σ → ο → Bool) : Bool :=
  match r with
  | .error _ => false
  | .ok (s', o) => p s' o

/-- Does the execution of these labels end, and with a run that passes `p`? -/
def execSat (M : Machine σ ι ο ε) (s : σ) (is : List ι)
    (p : List (Transition σ ι ο) → σ → Bool) : Bool :=
  match M.exec s is with
  | .error _ => false
  | .ok (h, s') => p h s'

theorem run_of_exec {s s' : σ} {is : List ι} {h : List (Transition σ ι ο)}
    (hx : M.exec s is = .ok (h, s')) : M.Run s h s' := by
  induction is generalizing s h with
  | nil =>
    simp only [exec, Except.ok.injEq, Prod.mk.injEq] at hx
    obtain ⟨rfl, rfl⟩ := hx
    exact .nil
  | cons i is ih =>
    simp only [exec] at hx
    split at hx
    · cases hx
    · rename_i t o hs
      split at hx
      · cases hx
      · rename_i h' s'' hx'
        simp only [Except.ok.injEq, Prod.mk.injEq] at hx
        obtain ⟨rfl, rfl⟩ := hx
        exact (Run.single hs).append (ih hx')

/-- A step that was evaluated is a step with the evaluated properties. -/
theorem exists_of_okSat {r : Except ε (σ × ο)} {P : σ → ο → Prop} [∀ s o, Decidable (P s o)]
    (hx : okSat r (fun s' o => P s' o) = true) : ∃ s' o, r = .ok (s', o) ∧ P s' o := by
  unfold okSat at hx
  split at hx
  · cases hx
  · rename_i s' o
    exact ⟨s', o, rfl, of_decide_eq_true hx⟩

/-- An execution that was evaluated is a run with the evaluated properties. -/
theorem exists_run_of_exec {s : σ} {l : List ι} {P : List (Transition σ ι ο) → σ → Prop}
    [∀ h s, Decidable (P h s)] (hx : M.execSat s l (fun h s' => P h s') = true) :
    ∃ h s', M.Run s h s' ∧ P h s' := by
  unfold execSat at hx
  split at hx
  · cases hx
  · rename_i h s' he
    exact ⟨h, s', run_of_exec he, of_decide_eq_true hx⟩

/-! ## What a run emits -/

/-- Some run leads from `s` to `s'` and emits `o` on the way. -/
def Leads {δ : Type w} (M : Machine σ ι (List δ) ε) (s : σ) (o : List δ) (s' : σ) : Prop :=
  ∃ h, M.Run s h s' ∧ h.flatMap (·.out) = o

namespace Leads

variable {δ : Type w} {N : Machine σ ι (List δ) ε} {s s' s'' : σ} {o o' : List δ}

theorem refl (s : σ) : N.Leads s [] s := ⟨[], .nil, rfl⟩

theorem trans (h : N.Leads s o s') (h' : N.Leads s' o' s'') : N.Leads s (o ++ o') s'' := by
  obtain ⟨k, hr, rfl⟩ := h
  obtain ⟨k', hr', rfl⟩ := h'
  exact ⟨k ++ k', hr.append hr', by simp⟩

/-- What leads on from where something silent led. -/
theorem after (h : N.Leads s [] s') (h' : N.Leads s' o s'') : N.Leads s o s'' := h.trans h'

theorem single {i : ι} (hs : N.step s i = .ok (s', o)) : N.Leads s o s' :=
  ⟨[⟨s, i, o, s'⟩], .single hs, by simp⟩

end Leads

end Machine

end ServiceServer.Lib
