import ServiceServer.Lib.Machine

/-!
# A machine behind an unreliable network

A machine and a peer that talk through a network.  Everything either side ever
sent stays there, and any of it may be handed to the other side at any time, so
a message can be lost, duplicated, delayed and overtaken.

* `Network.machine` — the machine, the peer and the network as one machine.
* `Network.run_machine` — the machine's own share of a run, and that what was
  sent is what it emitted.
* `Network.mem_replies` — every message of the peer reacts to one it was handed.
* `Network.sent_prefix` — what was sent stays, at its place.
-/

namespace ServiceServer.Lib

universe u

/-- A machine that emits messages, a peer that reacts to them, the step that
handles a reaction, and the steps that need no peer. -/
structure Network (σ ι α ε τ β ρ : Type u) where
  /-- The machine. -/
  base : Machine σ ι (List α) ε
  /-- How the peer reacts to a message. -/
  react : τ → α → τ × List β
  /-- The step that handles a reaction. -/
  handle : ρ → β → ι
  /-- The steps that may happen without the peer. -/
  free : ι → Prop

namespace Network

variable {σ ι α ε τ β ρ : Type u}

/-- The machine, the peer, and all that was ever sent each way. -/
structure World (σ α τ β : Type u) where
  base : σ
  peer : τ
  /-- What the machine sent. -/
  sent : List α
  /-- What the peer sent. -/
  replies : List β

/-- What can happen. -/
inductive Event (ι ρ : Type u) (free : ι → Prop) where
  /-- The machine takes a step of its own. -/
  | own (i : ι) (h : free i)
  /-- The peer is handed the `k`-th message of the machine. -/
  | deliver (k : Nat)
  /-- The machine is handed the `k`-th message of the peer. -/
  | reply (r : ρ) (k : Nat)

/-- The machine steps, and what it emits is sent. -/
def baseStep (N : Network σ ι α ε τ β ρ) (w : World σ α τ β) (i : ι) :
    Except ε (World σ α τ β × List α) :=
  match N.base.step w.base i with
  | .error e => .error e
  | .ok (s, out) => .ok ({ w with base := s, sent := w.sent ++ out }, out)

/-- What an event does.  A message that was never sent is not delivered. -/
def step (N : Network σ ι α ε τ β ρ) (w : World σ α τ β) :
    Event ι ρ N.free → Except ε (World σ α τ β × List α)
  | .own i _ => N.baseStep w i
  | .deliver k =>
    match w.sent[k]? with
    | none => .ok (w, [])
    | some a =>
      let (p, replies) := N.react w.peer a
      .ok ({ w with peer := p, replies := w.replies ++ replies }, [])
  | .reply r k =>
    match w.replies[k]? with
    | none => .ok (w, [])
    | some b => N.baseStep w (N.handle r b)

/-- The whole as a machine. -/
def machine (N : Network σ ι α ε τ β ρ) :
    Machine (World σ α τ β) (Event ι ρ N.free) (List α) ε := ⟨N.step⟩

/-- Nothing has been sent yet. -/
def start (s : σ) (p : τ) : World σ α τ β := ⟨s, p, [], []⟩

variable {N : Network σ ι α ε τ β ρ}

theorem baseStep_ok {w w' : World σ α τ β} {i : ι} {out : List α}
    (h : N.baseStep w i = .ok (w', out)) :
    N.base.step w.base i = .ok (w'.base, out) ∧
      w' = { w with base := w'.base, sent := w.sent ++ out } := by
  unfold baseStep at h
  split at h
  · cases h
  · rename_i s o hs
    cases h
    exact ⟨hs, rfl⟩

/-- What an event can do, one case for each kind. -/
inductive Effect (N : Network σ ι α ε τ β ρ) (w : World σ α τ β) :
    Event ι ρ N.free → World σ α τ β → List α → Prop
  /-- A message that was never sent is not delivered. -/
  | undelivered {k : Nat} (ha : w.sent[k]? = none) : Effect N w (.deliver k) w []
  | unreplied {r : ρ} {k : Nat} (hb : w.replies[k]? = none) : Effect N w (.reply r k) w []
  | own {i : ι} {hi : N.free i} {s : σ} {out : List α}
      (hs : N.base.step w.base i = .ok (s, out)) :
      Effect N w (.own i hi) { w with base := s, sent := w.sent ++ out } out
  | deliver {k : Nat} {a : α} (ha : w.sent[k]? = some a) :
      Effect N w (.deliver k)
        { w with
          peer := (N.react w.peer a).1
          replies := w.replies ++ (N.react w.peer a).2 } []
  | reply {r : ρ} {k : Nat} {b : β} {s : σ} {out : List α} (hb : w.replies[k]? = some b)
      (hs : N.base.step w.base (N.handle r b) = .ok (s, out)) :
      Effect N w (.reply r k) { w with base := s, sent := w.sent ++ out } out

/-- **Every event has one of the listed effects.** -/
theorem effect_of_step {w w' : World σ α τ β} {l : Event ι ρ N.free} {out : List α}
    (h : N.step w l = .ok (w', out)) : Effect N w l w' out := by
  cases l with
  | own i hi =>
    obtain ⟨hs, hw⟩ := baseStep_ok h
    rw [hw]
    exact .own hs
  | deliver k =>
    simp only [step] at h
    split at h
    · cases h; exact .undelivered ‹_›
    · cases h; exact .deliver ‹_›
  | reply r k =>
    simp only [step] at h
    split at h
    · cases h; exact .unreplied ‹_›
    · obtain ⟨hs, hw⟩ := baseStep_ok h
      rw [hw]
      exact .reply ‹_› hs

variable {s₀ : σ} {p₀ : τ} {w : World σ α τ β}
  {h : List (Transition (World σ α τ β) (Event ι ρ N.free) (List α))}

/-- What was sent stays where it is. -/
theorem sent_prefix {w₀ : World σ α τ β} (hr : N.machine.Run w₀ h w) : w₀.sent <+: w.sent := by
  induction hr with
  | nil => exact List.prefix_rfl
  | snoc _ hs ih =>
    refine ih.trans ?_
    cases effect_of_step hs with
    | undelivered => exact List.prefix_rfl
    | unreplied => exact List.prefix_rfl
    | own => exact List.prefix_append _ _
    | deliver => exact List.prefix_rfl
    | reply => exact List.prefix_append _ _

/-- **Every message of the peer reacts to one it was handed**, and that one was
sent. -/
theorem mem_replies (hr : N.machine.Run (start s₀ p₀) h w) {b : β} (hb : b ∈ w.replies) :
    ∃ a ∈ w.sent, ∃ p, b ∈ (N.react p a).2 := by
  induction hr with
  | nil => simp [start] at hb
  | snoc _ hs ih =>
    cases effect_of_step hs with
    | undelivered => exact ih hb
    | unreplied => exact ih hb
    | own =>
      obtain ⟨a, ha, hp⟩ := ih hb
      exact ⟨a, List.mem_append_left _ ha, hp⟩
    | @deliver k a ha =>
      rcases List.mem_append.1 hb with hb | hb
      · exact ih hb
      · exact ⟨a, List.mem_of_getElem? ha, _, hb⟩
    | reply =>
      obtain ⟨a, ha, hp⟩ := ih hb
      exact ⟨a, List.mem_append_left _ ha, hp⟩

/-- **The machine's share of a run is a run of the machine**, what was sent is
what it emitted, and each of its steps is free or handles a reaction to
something it had sent. -/
theorem run_machine (hr : N.machine.Run (start s₀ p₀) h w) :
    ∃ k, N.base.Run s₀ k w.base ∧ w.sent = k.flatMap (·.out) ∧
      Along (fun past t => N.free t.label ∨
        ∃ r b p, t.label = N.handle r b ∧ ∃ a ∈ past.flatMap (·.out), b ∈ (N.react p a).2) k := by
  induction hr with
  | nil => exact ⟨[], .nil, rfl, along_nil _⟩
  | snoc hr hs ih =>
    obtain ⟨k, hk, hsent, halong⟩ := ih
    cases effect_of_step hs with
    | undelivered => exact ⟨k, hk, hsent, halong⟩
    | unreplied => exact ⟨k, hk, hsent, halong⟩
    | deliver => exact ⟨k, hk, hsent, halong⟩
    | @own _ hi _ _ hbase =>
      exact ⟨_, hk.snoc hbase, by simp [hsent], along_concat_iff.2 ⟨halong, .inl hi⟩⟩
    | @reply r _ b _ _ hb hbase =>
      refine ⟨_, hk.snoc hbase, by simp [hsent], along_concat_iff.2 ⟨halong, .inr ?_⟩⟩
      obtain ⟨a, ha, p, hp⟩ := mem_replies hr (List.mem_of_getElem? hb)
      exact ⟨r, b, p, rfl, a, hsent ▸ ha, hp⟩

end Network

end ServiceServer.Lib
