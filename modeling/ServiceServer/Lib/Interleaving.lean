import ServiceServer.Lib.Machine

/-!
# Two threads over a shared state

Two programs that take turns, one call at a time, on a shared state.  Between two
calls a program **relies on** something it has seen, and each call makes certain
**changes**; some changes **conflict** with what may be relied on.  A run is
**undisturbed** when no call makes a change that conflicts with what the other
thread relies on at that moment.

* `Program.machine`, `Interleaving.machine` — one program, and the two of them, as
  a machine.
* `Outline` — a proof outline of one program alone: an assertion at each of its
  points that only speaks of what the program relies on there.
* `Interleaving.outlines_hold` — in an undisturbed run both outlines hold at every
  point.
* `Interleaving.leads_first`, `Interleaving.leads_second` — where one thread's
  calls lead while the other waits.
-/

namespace ServiceServer.Lib

universe u

/-- A program: its points, what its next call does, the changes that call makes,
and what the program relies on. -/
structure Program (σ π ι ο ε α β : Type u) where
  /-- The next call, from a point. -/
  call : σ → π → ι → Except ε (σ × π × ο)
  /-- The changes the next call makes. -/
  does : σ → π → ι → List α
  /-- What the program relies on at a point. -/
  relies : π → List β

/-- A proof outline.  `Stable y s s'` says that whoever relies on `y` in `s` may
still do so in `s'`. -/
structure Outline {σ π ι ο ε α β : Type u} (P : Program σ π ι ο ε α β) (Conflict : α → β → Prop)
    (Stable : β → σ → σ → Prop) where
  /-- The assertion at a point. -/
  holds : σ → π → Prop
  /-- A call leads from assertion to assertion. -/
  step : ∀ {s p i s' p' o}, holds s p → P.call s p i = .ok (s', p', o) → holds s' p'
  /-- An assertion only speaks of what the program relies on. -/
  frame : ∀ {s s' p}, (∀ y ∈ P.relies p, Stable y s s') → holds s p → holds s' p
  /-- A call upsets nothing its changes do not conflict with. -/
  agrees : ∀ {s p i s' p' o}, P.call s p i = .ok (s', p', o) →
    ∀ y, (∀ x ∈ P.does s p i, ¬ Conflict x y) → Stable y s s'

/-- A program alone, as a machine over the shared state and its point. -/
def Program.machine {σ π ι ο ε α β : Type u} (P : Program σ π ι ο ε α β) :
    Machine (σ × π) ι ο ε where
  step v i :=
    match P.call v.1 v.2 i with
    | .error e => .error e
    | .ok (s, p, o) => .ok ((s, p), o)

theorem Program.machine_step {σ π ι ο ε α β : Type u} {P : Program σ π ι ο ε α β} {s s' : σ}
    {p p' : π} {i : ι} {o : ο} :
    P.machine.step (s, p) i = .ok ((s', p'), o) ↔ P.call s p i = .ok (s', p', o) := by
  simp only [machine]
  constructor
  · intro h
    split at h
    · cases h
    · cases h
      assumption
  · intro h
    rw [h]

/-- The state of two threads. -/
structure Threads (σ π ρ : Type u) where
  shared : σ
  first : π
  second : ρ

namespace Interleaving

variable {σ π ρ ι ι' ο ε α β : Type u}

/-- A call of one of the two threads. -/
def step (P : Program σ π ι ο ε α β) (Q : Program σ ρ ι' ο ε α β) (v : Threads σ π ρ) :
    ι ⊕ ι' → Except ε (Threads σ π ρ × ο)
  | .inl i =>
    match P.call v.shared v.first i with
    | .error e => .error e
    | .ok (s, p, o) => .ok ({ v with shared := s, first := p }, o)
  | .inr i =>
    match Q.call v.shared v.second i with
    | .error e => .error e
    | .ok (s, q, o) => .ok ({ v with shared := s, second := q }, o)

/-- The two threads as one machine. -/
def machine (P : Program σ π ι ο ε α β) (Q : Program σ ρ ι' ο ε α β) :
    Machine (Threads σ π ρ) (ι ⊕ ι') ο ε := ⟨step P Q⟩

/-- The next call makes no change that conflicts with what the other thread
relies on. -/
def Undisturbed (Conflict : α → β → Prop) (P : Program σ π ι ο ε α β) (Q : Program σ ρ ι' ο ε α β)
    (v : Threads σ π ρ) : ι ⊕ ι' → Prop
  | .inl i => ∀ x ∈ P.does v.shared v.first i, ∀ y ∈ Q.relies v.second, ¬ Conflict x y
  | .inr i => ∀ x ∈ Q.does v.shared v.second i, ∀ y ∈ P.relies v.first, ¬ Conflict x y

instance (Conflict : α → β → Prop) [∀ x y, Decidable (Conflict x y)] (P : Program σ π ι ο ε α β)
    (Q : Program σ ρ ι' ο ε α β) (v : Threads σ π ρ) : DecidablePred (Undisturbed Conflict P Q v)
  | .inl i => inferInstanceAs (Decidable (∀ x ∈ P.does v.shared v.first i, _))
  | .inr i => inferInstanceAs (Decidable (∀ x ∈ Q.does v.shared v.second i, _))

/-- The effects of a call, one case for each thread. -/
inductive Effect (P : Program σ π ι ο ε α β) (Q : Program σ ρ ι' ο ε α β) (v : Threads σ π ρ) :
    ι ⊕ ι' → Threads σ π ρ → ο → Prop
  | first {i : ι} {s : σ} {p : π} {o : ο} (h : P.call v.shared v.first i = .ok (s, p, o)) :
      Effect P Q v (.inl i) { v with shared := s, first := p } o
  | second {i : ι'} {s : σ} {q : ρ} {o : ο} (h : Q.call v.shared v.second i = .ok (s, q, o)) :
      Effect P Q v (.inr i) { v with shared := s, second := q } o

theorem effect_of_step {P : Program σ π ι ο ε α β} {Q : Program σ ρ ι' ο ε α β}
    {v v' : Threads σ π ρ} {l : ι ⊕ ι'} {o : ο} (h : step P Q v l = .ok (v', o)) : Effect P Q v l v' o := by
  cases l with
  | inl i =>
    simp only [step] at h
    split at h
    · cases h
    · cases h
      exact .first ‹_›
  | inr i =>
    simp only [step] at h
    split at h
    · cases h
    · cases h
      exact .second ‹_›

section Outlines

variable {P : Program σ π ι ο ε α β} {Q : Program σ ρ ι' ο ε α β} {Conflict : α → β → Prop}
  {Stable : β → σ → σ → Prop}

/-- Both assertions hold. -/
structure Holds (O : Outline P Conflict Stable) (O' : Outline Q Conflict Stable)
    (v : Threads σ π ρ) : Prop where
  first : O.holds v.shared v.first
  second : O'.holds v.shared v.second

/-- A call that conflicts with nothing the other thread relies on leaves the
other thread's assertion standing. -/
theorem other_holds (O : Outline P Conflict Stable) (O' : Outline Q Conflict Stable)
    {s s' : σ} {p p' : π} {q : ρ} {i : ι} {o : ο} (hcall : P.call s p i = .ok (s', p', o))
    (hclear : ∀ x ∈ P.does s p i, ∀ y ∈ Q.relies q, ¬ Conflict x y) (hq : O'.holds s q) :
    O'.holds s' q := by
  apply O'.frame _ hq
  intro y hy
  exact O.agrees hcall y fun x hx => hclear x hx y hy

variable {O : Outline P Conflict Stable} {O' : Outline Q Conflict Stable}

/-- **An undisturbed call keeps both outlines.** -/
theorem holds_step {v v' : Threads σ π ρ} {l : ι ⊕ ι'} {o : ο} (hv : Holds O O' v)
    (hclear : Undisturbed Conflict P Q v l) (h : step P Q v l = .ok (v', o)) : Holds O O' v' := by
  cases effect_of_step h with
  | first hcall => exact ⟨O.step hv.first hcall, other_holds O O' hcall hclear hv.second⟩
  | second hcall => exact ⟨other_holds O' O hcall hclear hv.first, O'.step hv.second hcall⟩

/-- **In an undisturbed run both outlines hold**, at its end and before each of
its calls. -/
theorem outlines_hold {v₀ v : Threads σ π ρ}
    {h : List (Transition (Threads σ π ρ) (ι ⊕ ι') ο)} (hr : (machine P Q).Run v₀ h v)
    (hclear : ∀ t ∈ h, Undisturbed Conflict P Q t.pre t.label) (h₀ : Holds O O' v₀) :
    Holds O O' v ∧ ∀ t ∈ h, Holds O O' t.pre :=
  hr.invariant_of_mem h₀ (fun _ _ _ _ => holds_step) hclear

end Outlines

/-- While the first thread alone makes its calls, the second stays where it is. -/
theorem leads_first {δ : Type u} {P : Program σ π ι (List δ) ε α β}
    {Q : Program σ ρ ι' (List δ) ε α β} {v w : σ × π} {o : List δ} (q : ρ) (h : P.machine.Leads v o w) :
    (machine P Q).Leads ⟨v.1, v.2, q⟩ o ⟨w.1, w.2, q⟩ := by
  obtain ⟨k, hr, rfl⟩ := h
  induction hr with
  | nil => exact .refl _
  | @snoc k w w' i o hr hs ih =>
    rw [List.flatMap_append, List.flatMap_singleton]
    refine ih.trans (.single (i := .inl i) ?_)
    simp only [machine, step, Program.machine_step.1 hs]

/-- While the second thread alone makes its calls, the first stays where it is. -/
theorem leads_second {δ : Type u} {P : Program σ π ι (List δ) ε α β}
    {Q : Program σ ρ ι' (List δ) ε α β} {v w : σ × ρ} {o : List δ} (p : π) (h : Q.machine.Leads v o w) :
    (machine P Q).Leads ⟨v.1, p, v.2⟩ o ⟨w.1, p, w.2⟩ := by
  obtain ⟨k, hr, rfl⟩ := h
  induction hr with
  | nil => exact .refl _
  | @snoc k w w' i o hr hs ih =>
    rw [List.flatMap_append, List.flatMap_singleton]
    refine ih.trans (.single (i := .inr i) ?_)
    simp only [machine, step, Program.machine_step.1 hs]

end Interleaving

end ServiceServer.Lib
