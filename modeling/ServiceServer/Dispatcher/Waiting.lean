import ServiceServer.Dispatcher.Loop
import Mathlib.Algebra.BigOperators.Ring.List

/-!
# How long a job waits (`PacketDispatcher.cpp`)

The thread takes no more than four turns of its loop over one job: the test, the block that
holds the mutex, the search for a handler and its call.  So a job waits four turns for each
job that is served before it, and no class is safe from the ones above it.

* `Turn` — what one turn of the thread does.
* `taken_in_time` — a job is taken within four turns of itself, of each job ahead of it in its
  class and of each job in a higher class that waits or arrives.
* `can_starve` — while urgent jobs keep arriving, nothing else is taken.
-/

namespace ServiceServer

open Lib

deriving instance DecidableEq for DispatcherStep

/-- Where nothing waits, nothing waits in any class. -/
theorem PacketDispatcher.waiting_eq_nil {H : Type} {d : PacketDispatcher H} (hd : d.jobs = [])
    (c : PacketHeader) : d.waiting c = [] := by
  simp only [PacketDispatcher.jobs, List.append_eq_nil_iff] at hd
  cases c with
  | normal => exact hd.2
  | critic => exact hd.1.2
  | urgent => exact hd.1.1

namespace RunningDispatcher

variable {H : Type}

/-! ## What is served first -/

/-- The classes that are served before a class. -/
def above : PacketHeader → List PacketHeader
  | .urgent => []
  | .critic => [.urgent]
  | .normal => [.critic, .urgent]

theorem mem_above {b c : PacketHeader} : b ∈ above c ↔ c.mask < b.mask := by
  cases b <;> cases c <;> decide

theorem eq_or_above (b c : PacketHeader) : b = c ∨ b ∈ above c ∨ c ∈ above b := by
  cases b <;> cases c <;> decide

/-- The jobs that wait in the classes above. -/
def waitingAbove (c : PacketHeader) (d : RunningDispatcher H) : List RawPacketJob :=
  (above c).flatMap d.waiting

/-- The jobs of a list in the classes above. -/
def inClassesAbove (c : PacketHeader) (jobs : List RawPacketJob) : List RawPacketJob :=
  (above c).flatMap fun b => inClass b jobs

/-! ## A turn of the thread -/

/-- What a turn of the thread does. -/
inductive Turn (d : RunningDispatcher H) :
    RunningDispatcher H → List (DispatchEvent H) → Prop
  | tested (hp : d.thread = some .atTest) :
      Turn d { d with thread := some (if d.running then .atLock else .returned) } []
  | idle (hp : d.thread = some .atLock) (hjob : d.takeJob = none) :
      Turn d { d with thread := some .atTest } []
  | took {job : RawPacketJob} {q : PacketDispatcher H} (hp : d.thread = some .atLock)
      (hjob : d.takeJob = some (job, q)) :
      Turn d { d with toPacketDispatcher := q, thread := some (.holding job) } [.taken job]
  | skipped {job : RawPacketJob} (hp : d.thread = some (.holding job))
      (hhandler : d.handlers job.type = none) :
      Turn d { d with thread := some .atTest } []
  | called {job : RawPacketJob} {handler : H} (hp : d.thread = some (.holding job))
      (hhandler : d.handlers job.type = some handler) :
      Turn d { d with thread := some (.handling job) } [.called handler job]
  | handled {job : RawPacketJob} (hp : d.thread = some (.handling job)) :
      Turn d { d with thread := some .atTest } []

theorem turn_of_loopStep {d d' : RunningDispatcher H} {out : List (DispatchEvent H)}
    (h : d.loopStep = some (d', out)) : Turn d d' out := by
  unfold loopStep at h
  cases hp : d.thread with
  | none => simp [hp] at h
  | some p =>
    cases p with
    | atTest =>
      simp only [hp, Option.some.injEq, Prod.mk.injEq] at h
      obtain ⟨rfl, rfl⟩ := h
      exact .tested hp
    | atLock =>
      cases hjob : d.takeJob with
      | none =>
        simp only [hp, hjob, Option.some.injEq, Prod.mk.injEq] at h
        obtain ⟨rfl, rfl⟩ := h
        exact .idle hp hjob
      | some r =>
        simp only [hp, hjob, Option.some.injEq, Prod.mk.injEq] at h
        obtain ⟨rfl, rfl⟩ := h
        exact .took hp hjob
    | holding job =>
      cases hhandler : d.handlers job.type with
      | none =>
        simp only [hp, hhandler, Option.some.injEq, Prod.mk.injEq] at h
        obtain ⟨rfl, rfl⟩ := h
        exact .skipped hp hhandler
      | some handler =>
        simp only [hp, hhandler, Option.some.injEq, Prod.mk.injEq] at h
        obtain ⟨rfl, rfl⟩ := h
        exact .called hp hhandler
    | handling job =>
      simp only [hp, Option.some.injEq, Prod.mk.injEq] at h
      obtain ⟨rfl, rfl⟩ := h
      exact .handled hp
    | returned => simp [hp] at h

/-- The thread is in its loop and was not told to leave it. -/
structure Looping (d : RunningDispatcher H) : Prop where
  running : d.running = true
  thread : ∃ p, d.thread = some p ∧ p ≠ .returned

/-- What the steps of the others do: only `Start` and `Stop` touch the flag. -/
theorem running_step {d d' : RunningDispatcher H} {l : DispatcherStep H}
    {out : List (DispatchEvent H)} (hstart : l ≠ .start) (hstop : l ≠ .stop)
    (h : d.step l = .ok (d', out)) : d'.running = d.running := by
  cases l with
  | registerHandler type handler =>
    rw [step] at h
    split_ifs at h
    cases h
    rfl
  | enqueuePacket job =>
    cases h
    rfl
  | start => exact absurd rfl hstart
  | stop => exact absurd rfl hstop
  | join =>
    rw [step] at h
    split at h <;> cases h <;> rfl
  | loop =>
    rw [step] at h
    split at h
    · cases h
    · rename_i hl
      cases h
      cases turn_of_loopStep hl <;> rfl

/-- A step of a looping dispatcher is a turn of its thread, or it leaves the thread where it
is. -/
theorem Looping.step_cases {d d' : RunningDispatcher H} {l : DispatcherStep H}
    {out : List (DispatchEvent H)} (hd : d.Looping) (h : d.step l = .ok (d', out)) :
    l ≠ .start ∧ (l = .loop ∧ Turn d d' out ∨ l ≠ .loop ∧ d'.thread = d.thread) := by
  obtain ⟨p, hp, hne⟩ := hd.thread
  cases l with
  | registerHandler type handler =>
    rw [step] at h
    split_ifs at h
    cases h
    exact ⟨by simp, .inr ⟨by simp, rfl⟩⟩
  | enqueuePacket job =>
    cases h
    exact ⟨by simp, .inr ⟨by simp, rfl⟩⟩
  | start => simp [step, hp] at h
  | stop =>
    cases h
    exact ⟨by simp, .inr ⟨by simp, rfl⟩⟩
  | join =>
    -- the thread has not returned, so `Stop` waits
    cases p with
    | returned => exact absurd rfl hne
    | _ => simp [step, hp] at h
  | loop =>
    rw [step] at h
    split at h
    · cases h
    · rename_i hl
      cases h
      exact ⟨by simp, .inl ⟨rfl, turn_of_loopStep hl⟩⟩

theorem Looping.turn {d d' : RunningDispatcher H} {out : List (DispatchEvent H)}
    (hd : d.Looping) (h : Turn d d' out) : d'.Looping := by
  cases h with
  | tested => exact ⟨hd.running, .atLock, by simp [hd.running], by simp⟩
  | idle => exact ⟨hd.running, .atTest, rfl, by simp⟩
  | @took job => exact ⟨hd.running, .holding job, rfl, by simp⟩
  | skipped => exact ⟨hd.running, .atTest, rfl, by simp⟩
  | @called job => exact ⟨hd.running, .handling job, rfl, by simp⟩
  | handled => exact ⟨hd.running, .atTest, rfl, by simp⟩

/-- A dispatcher that is not stopped loops on. -/
theorem Looping.step {d d' : RunningDispatcher H} {l : DispatcherStep H}
    {out : List (DispatchEvent H)} (hd : d.Looping) (hstop : l ≠ .stop)
    (h : d.step l = .ok (d', out)) : d'.Looping := by
  obtain ⟨hstart, ⟨rfl, hturn⟩ | ⟨-, hthread⟩⟩ := hd.step_cases h
  · exact hd.turn hturn
  · exact ⟨(running_step hstart hstop h).trans hd.running, hthread ▸ hd.thread⟩

variable {h₀ h : History H} {d₀ d : RunningDispatcher H}

/-- A dispatcher that runs is in its loop. -/
theorem looping_of_running (hr : (machine H).Run initial h d) (hrunning : d.running = true) :
    d.Looping := by
  refine hr.invariant (P := fun d => d.running = true → d.Looping) (fun hf => ?_) ?_ hrunning
  · cases hf
  · intro d l d' out hd hstep hrun
    have hs : d.step l = .ok (d', out) := hstep
    by_cases hstart : l = .start
    · subst hstart
      rw [step] at hs
      split_ifs at hs
      cases hs
      exact ⟨rfl, .atTest, rfl, by simp⟩
    · by_cases hstop : l = .stop
      · subst hstop
        cases hs
        cases hrun
      · exact (hd ((running_step hstart hstop hs).symm.trans hrun)).step hstop hs

/-- Along a run without `Stop` it stays there. -/
theorem looping_run (hd : d₀.Looping) (hr : (machine H).Run d₀ h d)
    (hgo : ∀ t ∈ h, t.label ≠ .stop) : d.Looping ∧ ∀ t ∈ h, t.pre.Looping :=
  hr.invariant_of_mem (P := Looping) (R := fun _ l => l ≠ .stop) hd
    (fun _ _ _ _ hd hstop hs => hd.step hstop hs) hgo

/-! ## The turns a job waits -/

/-- A step of the thread is a turn. -/
def turn : DispatcherStep H → Nat
  | .loop => 1
  | _ => 0

/-- The turns of the thread in a run. -/
def turns (h : History H) : Nat := (h.map fun t => turn t.label).sum

/-- The turns until the thread comes to the mutex again, at most. -/
def turnsToLock : Option LoopPoint → Nat
  | some (.holding _) => 3
  | some (.handling _) => 2
  | some .atTest => 1
  | _ => 0

theorem turnsToLock_le (p : Option LoopPoint) : turnsToLock p ≤ 3 := by
  cases p with
  | none => exact Nat.zero_le 3
  | some p => cases p <;> simp [turnsToLock]

theorem length_inClass_flatMap {α : Type} (c : PacketHeader) (f : α → List RawPacketJob)
    (l : List α) :
    (inClass c (l.flatMap f)).length = (l.map fun a => (inClass c (f a)).length).sum := by
  rw [inClass, List.flatMap_assoc, List.length_flatMap]
  rfl

theorem length_inClassesAbove_flatMap {α : Type} (c : PacketHeader)
    (f : α → List RawPacketJob) (l : List α) :
    (inClassesAbove c (l.flatMap f)).length
      = (l.map fun a => (inClassesAbove c (f a)).length).sum := by
  cases c <;> simp [inClassesAbove, above, length_inClass_flatMap, List.sum_map_add]

/-- What a step does to the jobs above a class. -/
theorem StepSpec.above_balance {d d' : RunningDispatcher H} {out : List (DispatchEvent H)}
    (h : StepSpec d d' out) (c : PacketHeader) :
    (waitingAbove c d).length + (inClassesAbove c (out.flatMap enqueuedBy)).length
      = (inClassesAbove c (out.flatMap takenBy)).length + (waitingAbove c d').length := by
  have hclass : ∀ b, (d.waiting b).length + (inClass b (out.flatMap enqueuedBy)).length
      = (inClass b (out.flatMap takenBy)).length + (d'.waiting b).length := by
    intro b
    have hqueue := congrArg List.length (h.queues b)
    rwa [List.length_append, List.length_append] at hqueue
  have hurgent := hclass .urgent
  have hcritic := hclass .critic
  cases c <;>
    simp only [waitingAbove, inClassesAbove, above, List.flatMap_cons, List.flatMap_nil,
      List.length_append, List.length_nil] <;> omega

/-- **A turn is paid for**: while a job of the class waits, four turns bring one of the jobs
that are to be served before it, or one of its class. -/
theorem turn_paid {d' : RunningDispatcher H} {out : List (DispatchEvent H)} {c : PacketHeader}
    (hd : d.Sorted) (hl : d.Looping) (hwait : d.waiting c ≠ []) (h : Turn d d' out) :
    1 + turnsToLock d'.thread ≤ turnsToLock d.thread
      + 4 * ((inClassesAbove c (out.flatMap takenBy)).length
        + (inClass c (out.flatMap takenBy)).length) := by
  cases h with
  | tested hp => simp [hp, hl.running, turnsToLock]
  | idle hp hjob =>
    exact absurd (PacketDispatcher.waiting_eq_nil (PacketDispatcher.takeJob_eq_none.1 hjob) c) hwait
  | @took job q hp hjob =>
    obtain ⟨-, hfirst, -, -⟩ := PacketDispatcher.takeJob_eq_some hd hjob
    have htaken : ([.taken job] : List (DispatchEvent H)).flatMap takenBy = [job] := rfl
    have hpaid : 0 < (inClassesAbove c [job]).length + (inClass c [job]).length := by
      have hmem : job ∈ inClass (PacketDispatcher.classOf job.headerMask) [job] := by
        simp [inClass, PacketDispatcher.ofClass]
      rcases eq_or_above (PacketDispatcher.classOf job.headerMask) c with heq | habove | hbelow
      · rw [heq] at hmem
        exact Nat.add_pos_right _ (List.length_pos_of_mem hmem)
      · have hmem : job ∈ inClassesAbove c [job] := List.mem_flatMap.2 ⟨_, habove, hmem⟩
        exact Nat.add_pos_left (List.length_pos_of_mem hmem) _
      · -- a job below the class is not taken
        exact absurd (hfirst c (mem_above.1 hbelow)) hwait
    rw [htaken]
    simp only [hp, turnsToLock]
    omega
  | skipped hp =>
    simp only [hp, turnsToLock]
    omega
  | called hp => simp [hp, turnsToLock]
  | handled hp => simp [hp, turnsToLock]

/-- A step is paid for, with what it brings to the classes above. -/
theorem step_paid {d' : RunningDispatcher H} {l : DispatcherStep H}
    {out : List (DispatchEvent H)} {c : PacketHeader} (hd : d.Sorted) (ht : d.ThreadStarted)
    (hl : d.Looping) (hwait : d.waiting c ≠ []) (h : d.step l = .ok (d', out)) :
    turn l + (4 * (waitingAbove c d').length + turnsToLock d'.thread)
      ≤ 4 * (waitingAbove c d).length + turnsToLock d.thread
        + 4 * ((inClassesAbove c (out.flatMap enqueuedBy)).length
          + (inClass c (out.flatMap takenBy)).length) := by
  have hbalance := (step_spec hd ht h).1.above_balance c
  obtain ⟨-, ⟨rfl, hturn⟩ | ⟨hother, hthread⟩⟩ := hl.step_cases h
  · have hpaid := turn_paid hd hl hwait hturn
    have hone : turn (.loop : DispatcherStep H) = 1 := rfl
    omega
  · have hnone : turn l = 0 := by
      cases l with
      | loop => exact absurd rfl hother
      | _ => rfl
    rw [hthread]
    omega

/-! ## Runs -/

/-- What holds before every step of a run that goes on from a run. -/
theorem kept_before (hr₀ : (machine H).Run initial h₀ d₀) (hr : (machine H).Run d₀ h d) :
    ∀ t ∈ h, t.pre.Sorted ∧ t.pre.ThreadStarted := by
  intro t ht
  obtain ⟨h₁, h₂, rfl⟩ := List.append_of_mem ht
  obtain ⟨hr₁, -, -⟩ := hr.mem_split
  have hkept := kept_of_run (hr₀.append hr₁)
  exact ⟨hkept.sorted, hkept.thread⟩

/-- The queue of a class, from any state on. -/
theorem fifo_from (hr₀ : (machine H).Run initial h₀ d₀) (hr : (machine H).Run d₀ h d)
    (c : PacketHeader) :
    d₀.waiting c ++ inClass c (enqueued h) = inClass c (taken h) ++ d.waiting c := by
  have hfifo := hr.fifo (fun d => d.waiting c)
    (fun t => (t.out.flatMap enqueuedBy).flatMap (PacketDispatcher.ofClass c))
    (fun t => (t.out.flatMap takenBy).flatMap (PacketDispatcher.ofClass c)) fun t ht =>
      (step_spec (kept_before hr₀ hr t ht).1 (kept_before hr₀ hr t ht).2
        (hr.step_of_mem ht)).1.queues c
  rwa [inClass, inClass, taken, enqueued, List.flatMap_assoc, List.flatMap_assoc]

/-- While fewer jobs of a class have been taken than waited, one of them waits. -/
theorem waits_before (hr₀ : (machine H).Run initial h₀ d₀) (hr : (machine H).Run d₀ h d)
    {c : PacketHeader} (hfew : (inClass c (taken h)).length < (d₀.waiting c).length) :
    ∀ t ∈ h, t.pre.waiting c ≠ [] := by
  intro t ht hnone
  obtain ⟨h₁, h₂, rfl⟩ := List.append_of_mem ht
  obtain ⟨hr₁, -, -⟩ := hr.mem_split
  have hfifo := congrArg List.length (fifo_from hr₀ hr₁ c)
  rw [hnone, List.length_append, List.append_nil] at hfifo
  rw [taken, List.flatMap_append, inClass, List.flatMap_append, List.length_append] at hfew
  change (inClass c (taken h₁)).length + _ < _ at hfew
  omega

/-- **The turns of a run are paid for**, as long as a job of the class waits. -/
theorem turns_le (hr₀ : (machine H).Run initial h₀ d₀) (hl : d₀.Looping)
    (hr : (machine H).Run d₀ h d) (hgo : ∀ t ∈ h, t.label ≠ .stop) {c : PacketHeader}
    (hwait : ∀ t ∈ h, t.pre.waiting c ≠ []) :
    turns h ≤ 4 * (waitingAbove c d₀).length + turnsToLock d₀.thread
      + 4 * ((inClassesAbove c (enqueued h)).length + (inClass c (taken h)).length) := by
  have hlooping := (looping_run hl hr hgo).2
  have hledger := hr.ledger_le (fun d => 4 * (waitingAbove c d).length + turnsToLock d.thread)
    (fun t => 4 * ((inClassesAbove c (t.out.flatMap enqueuedBy)).length
      + (inClass c (t.out.flatMap takenBy)).length)) (fun t => turn t.label) fun t ht =>
      step_paid (kept_before hr₀ hr t ht).1 (kept_before hr₀ hr t ht).2 (hlooping t ht)
        (hwait t ht) (hr.step_of_mem ht)
  rw [List.sum_map_mul_left, List.sum_map_add, ← length_inClassesAbove_flatMap,
    ← length_inClass_flatMap] at hledger
  exact (Nat.le_add_right _ _).trans hledger

/-- **A job is taken in time.**  From any state of a dispatcher that was started, as long as it
is not stopped: the job at place `k` of its class is taken, with those before it, within four
turns of the thread for itself, for each job before it, and for each job of a higher class
that waits or arrives.  Jobs that arrive in its own class or below cost it nothing. -/
theorem taken_in_time (hr₀ : (machine H).Run initial h₀ d₀) (hrunning : d₀.running = true)
    (hr : (machine H).Run d₀ h d) (hgo : ∀ t ∈ h, t.label ≠ .stop) {c : PacketHeader} {k : Nat}
    (hk : k < (d₀.waiting c).length)
    (hturns : 4 * (k + 1 + (waitingAbove c d₀).length + (inClassesAbove c (enqueued h)).length)
      ≤ turns h) :
    (d₀.waiting c).take (k + 1) <+: inClass c (taken h) := by
  have henough : k < (inClass c (taken h)).length := by
    by_contra hfew
    have hwait := waits_before hr₀ hr (c := c) (by omega)
    have hle := turns_le hr₀ (looping_of_running hr₀ hrunning) hr hgo hwait
    have hlock := turnsToLock_le d₀.thread
    omega
  -- both are the beginning of what waited and what arrived
  have hwaited : (d₀.waiting c).take (k + 1) <+: d₀.waiting c ++ inClass c (enqueued h) :=
    (List.take_prefix _ _).trans (List.prefix_append _ _)
  have htaken : inClass c (taken h) <+: d₀.waiting c ++ inClass c (enqueued h) := by
    rw [fifo_from hr₀ hr c]
    exact List.prefix_append _ _
  exact List.prefix_of_prefix_length_le hwaited htaken ((List.length_take_le _ _).trans henough)

/-- A job of the lowest class waits when the dispatcher is started, and an urgent one arrives:
after eight turns the first one has been taken. -/
theorem taken_in_time_second : ∃ (h₀ h : History Nat) (d₀ d : RunningDispatcher Nat),
    (machine Nat).Run initial h₀ d₀ ∧ (machine Nat).Run d₀ h d ∧
      (inClassesAbove .normal (enqueued h)).length = 1 ∧ turns h = 8 ∧
      (d₀.waiting .normal).take 1 <+: inClass .normal (taken h) := by
  let job (headerMask : UInt8) : RawPacketJob := ⟨headerMask, .findMatch, [], none, 0⟩
  obtain ⟨h₀, d₀, hr₀, hrunning, hk, hx⟩ := Machine.exists_run_of_exec (M := machine Nat)
    (s := initial) (l := [.registerHandler .findMatch 7, .enqueuePacket (job 1), .start])
    (P := fun _ d₀ => d₀.running = true ∧ 0 < (d₀.waiting .normal).length ∧
      (machine Nat).execSat d₀ (.enqueuePacket (job 5) :: List.replicate 8 .loop)
        (fun h _ => decide ((∀ t ∈ h, t.label ≠ .stop) ∧
          (inClassesAbove .normal (enqueued h)).length = 1 ∧ turns h = 8 ∧
          4 * (0 + 1 + (waitingAbove .normal d₀).length
            + (inClassesAbove .normal (enqueued h)).length) ≤ turns h)) = true)
    (by decide +kernel)
  obtain ⟨h, d, hr, hgo, harrived, hturns, henough⟩ := Machine.exists_run_of_exec
    (P := fun h _ => (∀ t ∈ h, t.label ≠ .stop) ∧
      (inClassesAbove .normal (enqueued h)).length = 1 ∧ turns h = 8 ∧
      4 * (0 + 1 + (waitingAbove .normal d₀).length
        + (inClassesAbove .normal (enqueued h)).length) ≤ turns h) hx
  exact ⟨h₀, h, d₀, d, hr₀, hr, harrived, hturns,
    taken_in_time hr₀ hrunning hr hgo hk henough⟩

/-- A looping thread can always take a turn. -/
theorem Looping.exists_turn (hd : d.Looping) : ∃ r, d.loopStep = some r := by
  obtain ⟨p, hp, hne⟩ := hd.thread
  rw [loopStep, hp]
  cases p with
  | atTest => exact ⟨_, rfl⟩
  | atLock => cases hjob : d.takeJob <;> exact ⟨_, rfl⟩
  | holding job => cases hhandler : d.handlers job.type <;> simp [hhandler]
  | handling job => exact ⟨_, rfl⟩
  | returned => exact absurd rfl hne

/-- While an urgent job waits, a turn leaves the other classes alone. -/
theorem turn_urgent {d' : RunningDispatcher H} {out : List (DispatchEvent H)} (hd : d.Sorted)
    (hurgent : d.waiting .urgent ≠ []) (h : Turn d d' out) {c : PacketHeader}
    (hc : c ≠ .urgent) :
    inClass c (out.flatMap takenBy) = [] ∧ d'.waiting c = d.waiting c := by
  cases h with
  | tested => exact ⟨rfl, rfl⟩
  | idle => exact ⟨rfl, rfl⟩
  | @took job q hp hjob =>
    obtain ⟨hwaiting, hfirst, -, -⟩ := PacketDispatcher.takeJob_eq_some hd hjob
    have hclass : PacketDispatcher.classOf job.headerMask = .urgent := by
      rcases eq_or_above (PacketDispatcher.classOf job.headerMask) .urgent with heq | habove | hbelow
      · exact heq
      · cases habove
      · exact absurd (hfirst .urgent (mem_above.1 hbelow)) hurgent
    have hnone : PacketDispatcher.ofClass c job = [] :=
      if_neg fun heq => hc (heq.symm.trans hclass)
    refine ⟨?_, ?_⟩
    · rw [inClass, List.flatMap_eq_nil_iff]
      intro x hx
      obtain rfl : x = job := by simpa [takenBy] using hx
      exact hnone
    · have hleft := hwaiting c
      rwa [hnone, List.nil_append, eq_comm] at hleft
  | skipped => exact ⟨rfl, rfl⟩
  | called => exact ⟨rfl, rfl⟩
  | handled => exact ⟨rfl, rfl⟩

/-- **Urgent jobs can keep all others waiting.**  From any state of a dispatcher that was
started and for any number of turns: if an urgent job arrives before each turn, and nothing
else happens, no job of another class is taken, and none leaves its queue. -/
theorem can_starve (hr₀ : (machine H).Run initial h₀ d₀) (hrunning : d₀.running = true)
    {job : RawPacketJob} (hjob : PacketDispatcher.classOf job.headerMask = .urgent) (n : Nat) :
    ∃ h d, (machine H).Run d₀ h d ∧
      h.map (·.label) = (List.replicate n [.enqueuePacket job, .loop]).flatten ∧
      (∀ t ∈ h, t.label ≠ .stop) ∧ turns h = n ∧ enqueued h = List.replicate n job ∧
      ∀ c ≠ PacketHeader.urgent, inClass c (taken h) = [] ∧ d.waiting c = d₀.waiting c := by
  induction n with
  | zero => exact ⟨[], d₀, .nil, rfl, by simp, rfl, rfl, fun c _ => ⟨rfl, rfl⟩⟩
  | succ n ih =>
    obtain ⟨h, d, hr, hlabels, hgo, hturns, hjobs, hleft⟩ := ih
    have hl := (looping_run (looping_of_running hr₀ hrunning) hr hgo).1
    have hsorted := (kept_of_run (hr₀.append hr)).sorted
    -- an urgent job arrives
    let e : RunningDispatcher H := { d with toPacketDispatcher := d.enqueuePacket job }
    have henqueue : (machine H).step d (.enqueuePacket job) = .ok (e, [.enqueued job]) := rfl
    have he : e.Looping := ⟨hl.running, hl.thread⟩
    have hurgent : e.waiting .urgent ≠ [] := by
      rw [PacketDispatcher.waiting_enqueuePacket, PacketDispatcher.ofClass, if_pos hjob]
      simp
    -- and the thread takes a turn
    obtain ⟨⟨d', out⟩, hloop⟩ := he.exists_turn
    have hstep : (machine H).step e .loop = .ok (d', out) := by
      change RunningDispatcher.step e .loop = _
      rw [step, hloop]
    have hturn := turn_of_loopStep hloop
    have hnothing : out.flatMap enqueuedBy = [] := by cases hturn <;> rfl
    refine ⟨_, d', (hr.snoc henqueue).snoc hstep, ?_, ?_, ?_, ?_, fun c hc => ?_⟩
    · rw [List.replicate_succ', List.flatten_append, ← hlabels]
      simp
    · simp only [List.forall_mem_append, List.forall_mem_singleton]
      exact ⟨⟨hgo, by simp⟩, by simp⟩
    · simp only [turns, List.map_append, List.sum_append, List.map_singleton, List.sum_singleton]
      change turns h + 0 + 1 = n + 1
      rw [hturns]
    · simp only [enqueued, List.flatMap_append, List.flatMap_singleton, hnothing,
        List.append_nil]
      change enqueued h ++ [job] = _
      rw [hjobs, List.replicate_succ']
    · obtain ⟨hnone, hkept⟩ := turn_urgent (hsorted.enqueuePacket job) hurgent hturn hc
      obtain ⟨hbefore, hwaiting⟩ := hleft c hc
      have hother : PacketDispatcher.ofClass c job = [] :=
        if_neg fun heq => hc (heq.symm.trans hjob)
      refine ⟨?_, ?_⟩
      · simp only [inClass, taken, List.flatMap_append, List.flatMap_singleton]
        change inClass c (taken h) ++ [] ++ inClass c (out.flatMap takenBy) = []
        rw [hbefore, hnone, List.append_nil, List.append_nil]
      · rw [hkept]
        change (d.enqueuePacket job).waiting c = _
        rw [PacketDispatcher.waiting_enqueuePacket, hother, List.append_nil, hwaiting]

/-- A normal job waits through a hundred turns. -/
theorem can_starve_hundred : ∃ (h₀ h : History Nat) (d₀ d : RunningDispatcher Nat),
    (machine Nat).Run initial h₀ d₀ ∧ (machine Nat).Run d₀ h d ∧ turns h = 100 ∧
      inClass .normal (taken h) = [] ∧ (d.waiting .normal).length = 1 := by
  let job (headerMask : UInt8) : RawPacketJob := ⟨headerMask, .findMatch, [], none, 0⟩
  obtain ⟨h₀, d₀, hr₀, hrunning, hwaits⟩ := Machine.exists_run_of_exec (M := machine Nat)
    (s := initial) (l := [.registerHandler .findMatch 7, .enqueuePacket (job 1), .start])
    (P := fun _ d₀ => d₀.running = true ∧ (d₀.waiting .normal).length = 1) (by decide +kernel)
  have hurgent : PacketDispatcher.classOf (job 5).headerMask = .urgent := by decide
  obtain ⟨h, d, hr, -, -, hturns, -, hleft⟩ := can_starve hr₀ hrunning hurgent 100
  obtain ⟨hnone, hkept⟩ := hleft .normal (by simp)
  exact ⟨h₀, h, d₀, d, hr₀, hr, hturns, hnone, by rw [hkept, hwaits]⟩

end RunningDispatcher

end ServiceServer
