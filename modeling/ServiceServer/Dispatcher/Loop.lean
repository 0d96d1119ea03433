import ServiceServer.Lib.Ledger
import ServiceServer.PacketDispatcher

/-!
# The dispatch loop, started and stopped (`PacketDispatcher.cpp`)

The thread that runs `DispatchLoop` comes and goes with `Start` and `Stop`, and any
number of threads enqueue jobs meanwhile.  Whatever shares the mutex is one step; the
test of `_running`, the call of a handler and its return are steps of their own.

* `classOf`, `waiting` — the class a header puts a job in, and the queue of a class.
* `delivery` — nothing is lost, doubled or overtaken inside a class, a job is taken
  only when nothing more urgent waits, and it calls its handler once.
-/

namespace ServiceServer

open Lib

namespace PacketDispatcher

variable {H : Type}

/-! ## Classes -/

/-- The class of a job with this header mask: the highest bit it carries. -/
def classOf (headerMask : UInt8) : PacketHeader :=
  if hasHeader headerMask .urgent then .urgent
  else if hasHeader headerMask .critic then .critic
  else .normal

/-- The jobs of a class that wait. -/
def waiting (d : PacketDispatcher H) : PacketHeader → List RawPacketJob
  | .urgent => d.queueUrgent
  | .critic => d.queueCritical
  | .normal => d.queueNormal

/-- A job, if it belongs to the class. -/
def ofClass (c : PacketHeader) (job : RawPacketJob) : List RawPacketJob :=
  if classOf job.headerMask = c then [job] else []

/-- A job that is enqueued joins the queue of its class, and no other. -/
theorem waiting_enqueuePacket (d : PacketDispatcher H) (job : RawPacketJob) (c : PacketHeader) :
    (d.enqueuePacket job).waiting c = d.waiting c ++ ofClass c job := by
  unfold enqueuePacket ofClass classOf
  by_cases hu : hasHeader job.headerMask .urgent
  · cases c <;> simp [hu, waiting]
  · by_cases hc : hasHeader job.headerMask .critic
    · cases c <;> simp [hu, hc, waiting]
    · cases c <;> simp [hu, hc, waiting]

/-- Every queue holds jobs of its own class. -/
def Sorted (d : PacketDispatcher H) : Prop :=
  ∀ c, ∀ job ∈ d.waiting c, classOf job.headerMask = c

theorem Sorted.enqueuePacket {d : PacketDispatcher H} (hd : d.Sorted) (job : RawPacketJob) :
    (d.enqueuePacket job).Sorted := by
  intro c x hx
  rw [waiting_enqueuePacket, List.mem_append] at hx
  rcases hx with hx | hx
  · exact hd c x hx
  · unfold ofClass at hx
    split at hx
    · obtain rfl := List.mem_singleton.1 hx
      assumption
    · simp at hx

/-- **What is taken**: the first job of its class, while no higher class has any. -/
theorem takeJob_eq_some {d d' : PacketDispatcher H} (hd : d.Sorted) {job : RawPacketJob}
    (h : d.takeJob = some (job, d')) :
    (∀ c, d.waiting c = ofClass c job ++ d'.waiting c) ∧
      (∀ c : PacketHeader, (classOf job.headerMask).mask < c.mask → d.waiting c = []) ∧
      d'.Sorted ∧ d'.handlers = d.handlers := by
  -- the class whose queue the job heads, with the classes above it empty
  have hsplit : ∃ c, (∀ b, d.waiting b = (if c = b then [job] else []) ++ d'.waiting b) ∧
      (∀ b : PacketHeader, c.mask < b.mask → d.waiting b = []) ∧ d'.handlers = d.handlers := by
    unfold takeJob at h
    split at h
    · rename_i hu
      cases h
      refine ⟨.urgent, ?_, ?_, rfl⟩
      · rintro (_ | _ | _) <;> simp [waiting, hu]
      · rintro (_ | _ | _) hb <;> exact absurd hb (by decide)
    · rename_i hu hc
      cases h
      refine ⟨.critic, ?_, ?_, rfl⟩
      · rintro (_ | _ | _) <;> simp [waiting, hu, hc]
      · rintro (_ | _ | _) hb
        · exact absurd hb (by decide)
        · exact absurd hb (by decide)
        · exact hu
    · rename_i hu hc hn
      cases h
      refine ⟨.normal, ?_, ?_, rfl⟩
      · rintro (_ | _ | _) <;> simp [waiting, hu, hc, hn]
      · rintro (_ | _ | _) hb
        · exact absurd hb (by decide)
        · exact hc
        · exact hu
    · cases h
  obtain ⟨c, hwaiting, habove, hhandlers⟩ := hsplit
  have hclass : classOf job.headerMask = c := by
    refine hd c job ?_
    rw [hwaiting c, if_pos rfl]
    exact List.mem_append_left _ (List.mem_singleton_self job)
  subst hclass
  refine ⟨hwaiting, habove, ?_, hhandlers⟩
  intro b x hx
  refine hd b x ?_
  rw [hwaiting b]
  exact List.mem_append_right _ hx

/-- Nothing is taken only where nothing waits. -/
theorem takeJob_eq_none {d : PacketDispatcher H} : d.takeJob = none ↔ d.jobs = [] := by
  obtain ⟨qn, qc, qu, handlers⟩ := d
  cases qu <;> cases qc <;> cases qn <;> simp [takeJob, jobs]

/-- `RegisterHandler`. -/
def registerHandler (d : PacketDispatcher H) (type : PacketType) (handler : H) :
    PacketDispatcher H :=
  { d with handlers := fun t => if t = type then some handler else d.handlers t }

end PacketDispatcher

/-! ## The thread -/

/-- Where the thread stands in `DispatchLoop`. -/
inductive LoopPoint where
  /-- Before the test of `_running`. -/
  | atTest
  /-- Before the block that holds the mutex. -/
  | atLock
  /-- Behind it, with the job it took. -/
  | holding (job : RawPacketJob)
  /-- In the handler of this job. -/
  | handling (job : RawPacketJob)
  /-- The function has returned. -/
  | returned
  deriving DecidableEq

/-- A `PacketDispatcher` with `_running` and `_dispatchThread`, which is `none`
while it is not joinable. -/
structure RunningDispatcher (H : Type) extends PacketDispatcher H where
  running : Bool := false
  thread : Option LoopPoint := none
  /-- `Start` was called before: no handler is registered any more. -/
  started : Bool := false

/-- What can be seen of a dispatcher. -/
inductive DispatchEvent (H : Type) where
  | enqueued (job : RawPacketJob)
  | taken (job : RawPacketJob)
  | called (handler : H) (job : RawPacketJob)

/-- What the threads around a dispatcher do, one step at a time. -/
inductive DispatcherStep (H : Type) where
  | registerHandler (type : PacketType) (handler : H)
  | enqueuePacket (job : RawPacketJob)
  | start
  /-- The first half of `Stop`: the flag is cleared. -/
  | stop
  /-- The second half: the thread, if there is one, is joined. -/
  | join
  /-- A step of the thread itself. -/
  | loop

/-- A step that cannot be taken now: it waits, or it is ruled out. -/
inductive NotEnabled where
  | notEnabled
  deriving DecidableEq

namespace RunningDispatcher

variable {H : Type}

/-- One step of the thread in `DispatchLoop`; `none` where it takes none. -/
def loopStep (d : RunningDispatcher H) :
    Option (RunningDispatcher H × List (DispatchEvent H)) :=
  match d.thread with
  | none => none
  | some .atTest => some ({ d with thread := some (if d.running then .atLock else .returned) }, [])
  | some .atLock =>
    match d.takeJob with
    | none => some ({ d with thread := some .atTest }, [])
    | some (job, q) =>
      some ({ d with toPacketDispatcher := q, thread := some (.holding job) }, [.taken job])
  | some (.holding job) =>
    match d.handlers job.type with
    | none => some ({ d with thread := some .atTest }, [])
    | some handler => some ({ d with thread := some (.handling job) }, [.called handler job])
  | some (.handling _) => some ({ d with thread := some .atTest }, [])
  | some .returned => none

/-- What a step does.  A `Start` while the thread is joinable would end the process:
it is ruled out, and so is registering a handler once the dispatcher was started. -/
def step (d : RunningDispatcher H) :
    DispatcherStep H → Except NotEnabled (RunningDispatcher H × List (DispatchEvent H))
  | .registerHandler type handler =>
    if d.started then .error .notEnabled
    else .ok ({ d with
      toPacketDispatcher := d.toPacketDispatcher.registerHandler type handler }, [])
  | .enqueuePacket job =>
    .ok ({ d with toPacketDispatcher := d.toPacketDispatcher.enqueuePacket job },
      [.enqueued job])
  | .start =>
    if d.thread = none then
      .ok ({ d with running := true, thread := some .atTest, started := true }, [])
    else .error .notEnabled
  | .stop => .ok ({ d with running := false }, [])
  | .join =>
    match d.thread with
    | none => .ok (d, [])
    | some .returned => .ok ({ d with thread := none }, [])
    | some _ => .error .notEnabled
  | .loop =>
    match d.loopStep with
    | none => .error .notEnabled
    | some r => .ok r

/-- A dispatcher with everything around it, as a machine. -/
def machine (H : Type) :
    Machine (RunningDispatcher H) (DispatcherStep H) (List (DispatchEvent H)) NotEnabled := ⟨step⟩

/-- A run of a dispatcher. -/
abbrev History (H : Type) :=
  List (Transition (RunningDispatcher H) (DispatcherStep H) (List (DispatchEvent H)))

/-! ## What a run enqueues, takes and calls -/

/-- The job an event enqueues. -/
def enqueuedBy : DispatchEvent H → List RawPacketJob
  | .enqueued job => [job]
  | _ => []

/-- The job an event takes. -/
def takenBy : DispatchEvent H → List RawPacketJob
  | .taken job => [job]
  | _ => []

/-- The call an event makes. -/
def calledBy : DispatchEvent H → List (H × RawPacketJob)
  | .called handler job => [(handler, job)]
  | _ => []

/-- The jobs enqueued in a run, in order. -/
def enqueued (h : History H) : List RawPacketJob := h.flatMap fun t => t.out.flatMap enqueuedBy

/-- The jobs taken in a run, in order. -/
def taken (h : History H) : List RawPacketJob := h.flatMap fun t => t.out.flatMap takenBy

/-- The handler calls of a run, in order. -/
def called (h : History H) : List (H × RawPacketJob) := h.flatMap fun t => t.out.flatMap calledBy

/-- The call a job is to make: of the handler registered for its type, if there is
one. -/
def callOf (d : RunningDispatcher H) (job : RawPacketJob) : List (H × RawPacketJob) :=
  (d.handlers job.type).toList.map fun handler => (handler, job)

/-- The call the thread is about to make. -/
def pendingCall (d : RunningDispatcher H) : List (H × RawPacketJob) :=
  match d.thread with
  | some (.holding job) => d.callOf job
  | _ => []

/-- A dispatcher as its constructor leaves it. -/
def initial : RunningDispatcher H := {}

theorem sorted_initial : (initial : RunningDispatcher H).Sorted := by
  rintro (_ | _ | _) job hjob <;> simp [initial, PacketDispatcher.waiting] at hjob

/-! ## What a step does -/

/-- What one step does to the queues, the handlers and the calls. -/
structure StepSpec (d d' : RunningDispatcher H) (out : List (DispatchEvent H)) : Prop where
  sorted : d'.Sorted
  queues : ∀ c, d.waiting c ++ (out.flatMap enqueuedBy).flatMap (PacketDispatcher.ofClass c)
    = (out.flatMap takenBy).flatMap (PacketDispatcher.ofClass c) ++ d'.waiting c
  urgentFirst : ∀ job, .taken job ∈ out → ∀ c : PacketHeader,
    (PacketDispatcher.classOf job.headerMask).mask < c.mask → d.waiting c = []
  fresh : d.started = false → out.flatMap takenBy = [] ∧ out.flatMap calledBy = []
  handlers : d.started = true → d'.started = true ∧ d'.handlers = d.handlers
  calls : out.flatMap calledBy ++ d'.pendingCall
    = d.pendingCall ++ (out.flatMap takenBy).flatMap d.callOf

/-- Only a dispatcher that was started has a thread. -/
def ThreadStarted (d : RunningDispatcher H) : Prop := d.thread ≠ none → d.started = true

/-- What a step that moves nothing does. -/
theorem StepSpec.quiet {d d' : RunningDispatcher H} (hd : d.Sorted)
    (hq : d'.toPacketDispatcher = d.toPacketDispatcher)
    (hstarted : d'.started = d.started) (hcall : d'.pendingCall = d.pendingCall) :
    StepSpec d d' [] where
  sorted := hq ▸ hd
  queues c := by simp [hq]
  urgentFirst := by simp
  fresh _ := ⟨rfl, rfl⟩
  handlers hs := ⟨hstarted ▸ hs, by rw [hq]⟩
  calls := by simpa using hcall

theorem loopStep_spec {d d' : RunningDispatcher H} {out : List (DispatchEvent H)}
    (hd : d.Sorted) (ht : d.ThreadStarted) (h : d.loopStep = some (d', out)) :
    StepSpec d d' out ∧ d'.ThreadStarted := by
  unfold loopStep at h
  have hstarted : ∀ p, d.thread = some p → d.started = true := by
    intro p hp
    exact ht (by simp [hp])
  cases hp : d.thread with
  | none => simp [hp] at h
  | some p =>
    have hs := hstarted p hp
    cases p with
    | atTest =>
      simp only [hp, Option.some.injEq, Prod.mk.injEq] at h
      obtain ⟨rfl, rfl⟩ := h
      refine ⟨.quiet hd rfl rfl ?_, fun _ => hs⟩
      cases hrun : d.running <;> simp [pendingCall, hp]
    | atLock =>
      cases hj : d.takeJob with
      | none =>
        simp only [hp, hj, Option.some.injEq, Prod.mk.injEq] at h
        obtain ⟨rfl, rfl⟩ := h
        exact ⟨.quiet hd rfl rfl (by simp [pendingCall, hp]), fun _ => hs⟩
      | some r =>
        obtain ⟨job, q⟩ := r
        simp only [hp, hj, Option.some.injEq, Prod.mk.injEq] at h
        obtain ⟨rfl, rfl⟩ := h
        obtain ⟨hwaiting, habove, hsorted, hhandlers⟩ := PacketDispatcher.takeJob_eq_some hd hj
        refine ⟨⟨hsorted, ?_, ?_, ?_, ?_, ?_⟩, fun _ => hs⟩
        · intro c
          simpa [enqueuedBy, takenBy] using hwaiting c
        · intro x hx c hc
          obtain rfl : x = job := by simpa using hx
          exact habove c hc
        · intro hf
          simp [hs] at hf
        · exact fun _ => ⟨hs, hhandlers⟩
        · simp [pendingCall, hp, takenBy, calledBy, callOf, hhandlers]
    | holding job =>
      cases hhandler : d.handlers job.type with
      | none =>
        simp only [hp, hhandler, Option.some.injEq, Prod.mk.injEq] at h
        obtain ⟨rfl, rfl⟩ := h
        exact ⟨.quiet hd rfl rfl (by simp [pendingCall, hp, callOf, hhandler]), fun _ => hs⟩
      | some handler =>
        simp only [hp, hhandler, Option.some.injEq, Prod.mk.injEq] at h
        obtain ⟨rfl, rfl⟩ := h
        refine ⟨⟨hd, ?_, ?_, ?_, ?_, ?_⟩, fun _ => hs⟩
        · simp [enqueuedBy, takenBy]
        · simp
        · intro hf
          simp [hs] at hf
        · exact fun _ => ⟨hs, rfl⟩
        · simp [pendingCall, hp, takenBy, calledBy, callOf, hhandler]
    | handling job =>
      simp only [hp, Option.some.injEq, Prod.mk.injEq] at h
      obtain ⟨rfl, rfl⟩ := h
      exact ⟨.quiet hd rfl rfl (by simp [pendingCall, hp]), fun _ => hs⟩
    | returned => simp [hp] at h

/-- **What every step does.** -/
theorem step_spec {d d' : RunningDispatcher H} {l : DispatcherStep H}
    {out : List (DispatchEvent H)} (hd : d.Sorted) (ht : d.ThreadStarted)
    (h : d.step l = .ok (d', out)) : StepSpec d d' out ∧ d'.ThreadStarted := by
  cases l with
  | registerHandler type handler =>
    by_cases hs : d.started = true
    · simp [step, hs] at h
    · rw [Bool.not_eq_true] at hs
      have hnone : d.thread = none := by
        by_contra hne
        rw [ht hne] at hs
        cases hs
      simp only [step, hs, Bool.false_eq_true, if_false, Except.ok.injEq, Prod.mk.injEq] at h
      obtain ⟨rfl, rfl⟩ := h
      refine ⟨⟨?_, ?_, by simp, fun _ => ⟨rfl, rfl⟩, ?_, ?_⟩, fun hne => absurd hnone hne⟩
      · exact fun c => hd c
      · intro c
        cases c <;> simp [PacketDispatcher.waiting, PacketDispatcher.registerHandler]
      · intro hs'
        rw [hs] at hs'
        cases hs'
      · simp [pendingCall, hnone]
  | enqueuePacket job =>
    simp only [step, Except.ok.injEq, Prod.mk.injEq] at h
    obtain ⟨rfl, rfl⟩ := h
    refine ⟨⟨hd.enqueuePacket job, ?_, by simp, ?_, ?_, ?_⟩, ht⟩
    · intro c
      simp [enqueuedBy, takenBy, PacketDispatcher.waiting_enqueuePacket]
    · exact fun _ => ⟨by simp [takenBy], by simp [calledBy]⟩
    · exact fun hs => ⟨hs, PacketDispatcher.handlers_enqueuePacket _ _⟩
    · cases hp : d.thread with
      | none => simp [pendingCall, hp, takenBy, calledBy]
      | some p => cases p <;> simp [pendingCall, hp, takenBy, calledBy, callOf]
  | start =>
    simp only [step] at h
    by_cases hnone : d.thread = none
    · rw [if_pos hnone] at h
      simp only [Except.ok.injEq, Prod.mk.injEq] at h
      obtain ⟨rfl, rfl⟩ := h
      refine ⟨⟨hd, by simp, by simp, fun _ => ⟨rfl, rfl⟩, fun _ => ⟨rfl, rfl⟩, ?_⟩,
        fun _ => rfl⟩
      · simp [pendingCall, hnone]
    · rw [if_neg hnone] at h
      cases h
  | stop =>
    simp only [step, Except.ok.injEq, Prod.mk.injEq] at h
    obtain ⟨rfl, rfl⟩ := h
    exact ⟨.quiet hd rfl rfl rfl, ht⟩
  | join =>
    simp only [step] at h
    split at h
    · cases h
      exact ⟨.quiet hd rfl rfl rfl, ht⟩
    · rename_i hp
      cases h
      exact ⟨.quiet hd rfl rfl (by simp [pendingCall, hp]), fun hne => absurd rfl hne⟩
    · cases h
  | loop =>
    simp only [step] at h
    cases hl : d.loopStep with
    | none => simp [hl] at h
    | some r =>
      simp only [hl, Except.ok.injEq] at h
      subst h
      exact loopStep_spec hd ht hl

/-! ## What a run does -/

/-- What holds after every run: the queues are sorted, and no call was made before
the first `Start`. -/
structure Kept (h : History H) (d : RunningDispatcher H) : Prop where
  sorted : d.Sorted
  thread : d.ThreadStarted
  fresh : d.started = false → taken h = [] ∧ called h = []
  calls : called h ++ d.pendingCall = (taken h).flatMap d.callOf

theorem kept_of_run {h : History H} {d : RunningDispatcher H} (hr : (machine H).Run initial h d) :
    Kept h d := by
  induction hr with
  | nil => exact ⟨sorted_initial, fun hne => absurd rfl hne, fun _ => ⟨rfl, rfl⟩, rfl⟩
  | @snoc h d d' l out _ hstep ih =>
    obtain ⟨hspec, hthread⟩ := step_spec ih.sorted ih.thread hstep
    have htaken : taken (h ++ [⟨d, l, out, d'⟩]) = taken h ++ out.flatMap takenBy := by
      simp [taken]
    have hcalled : called (h ++ [⟨d, l, out, d'⟩]) = called h ++ out.flatMap calledBy := by
      simp [called]
    cases hs : d.started with
    | true =>
      -- the handlers stay what they are once the dispatcher was started
      obtain ⟨hs', hhandlers⟩ := hspec.handlers hs
      have hcall : d'.callOf = d.callOf := by
        funext job
        rw [callOf, callOf, hhandlers]
      refine ⟨hspec.sorted, hthread, fun hf => ?_, ?_⟩
      · rw [hs'] at hf
        cases hf
      · rw [htaken, hcalled, List.append_assoc, hspec.calls, ← List.append_assoc, ih.calls,
          List.flatMap_append, hcall]
    | false =>
      obtain ⟨htnil, hcnil⟩ := hspec.fresh hs
      obtain ⟨htpast, hcpast⟩ := ih.fresh hs
      have hcalls := hspec.calls
      have hpast := ih.calls
      rw [htnil, hcnil, List.nil_append, List.flatMap_nil, List.append_nil] at hcalls
      rw [htpast, hcpast, List.nil_append, List.flatMap_nil] at hpast
      refine ⟨hspec.sorted, hthread, fun _ => ⟨?_, ?_⟩, ?_⟩
      · rw [htaken, htpast, htnil, List.append_nil]
      · rw [hcalled, hcpast, hcnil, List.append_nil]
      · rw [htaken, hcalled, htpast, hcpast, htnil, hcnil, hcalls, hpast]
        rfl

/-- The jobs of a class, in order. -/
def inClass (c : PacketHeader) (jobs : List RawPacketJob) : List RawPacketJob :=
  jobs.flatMap (PacketDispatcher.ofClass c)

/-- **Delivery.**  Whatever is enqueued, and whenever the dispatcher is started and
stopped:
* the jobs of a class that were taken, then those that still wait, are those that were
  enqueued, in this order;
* a job is taken only when every higher class is empty;
* the calls made, and the one the thread is about to make, are those of the handlers
  registered for the jobs taken, in this order, one for each job that has a handler. -/
theorem delivery {h : History H} {d : RunningDispatcher H} (hr : (machine H).Run initial h d) :
    (∀ c, inClass c (taken h) ++ d.waiting c = inClass c (enqueued h)) ∧
      (∀ t ∈ h, ∀ job, .taken job ∈ t.out → ∀ c : PacketHeader,
        (PacketDispatcher.classOf job.headerMask).mask < c.mask → t.pre.waiting c = []) ∧
      called h ++ d.pendingCall = (taken h).flatMap d.callOf := by
  have hspec : ∀ t ∈ h, StepSpec t.pre t.post t.out := by
    intro t ht
    obtain ⟨h₁, h₂, rfl⟩ := List.append_of_mem ht
    obtain ⟨hr₁, hstep, -⟩ := hr.mem_split
    have hkept := kept_of_run hr₁
    exact (step_spec hkept.sorted hkept.thread hstep).1
  refine ⟨?_, fun t ht => (hspec t ht).urgentFirst, (kept_of_run hr).calls⟩
  intro c
  have hfifo := hr.fifo (fun d => d.waiting c)
    (fun t => (t.out.flatMap enqueuedBy).flatMap (PacketDispatcher.ofClass c))
    (fun t => (t.out.flatMap takenBy).flatMap (PacketDispatcher.ofClass c))
    (fun t ht => (hspec t ht).queues c)
  have hnone : (initial : RunningDispatcher H).waiting c = [] := by cases c <;> rfl
  rw [inClass, inClass, taken, enqueued, List.flatMap_assoc, List.flatMap_assoc, ← hfifo, hnone,
    List.nil_append]

/-- A job of the lowest class and then an urgent one are enqueued, the dispatcher is
stopped after the first call and started again: the urgent job goes first, and the
other one is still there. -/
theorem delivery_restarted : ∃ (h : History Nat) (d : RunningDispatcher Nat),
    (machine Nat).Run initial h d ∧ (called h).map Prod.fst = [7, 7] ∧
      ∀ c, inClass c (taken h) ++ d.waiting c = inClass c (enqueued h) := by
  let job (headerMask : UInt8) : RawPacketJob := ⟨headerMask, .findMatch, [], none, 0⟩
  let round : List (DispatcherStep Nat) := [.loop, .loop, .loop, .loop]
  obtain ⟨h, d, hr, hp⟩ := Machine.exists_run_of_exec (M := machine Nat) (s := initial)
    (l := [.registerHandler .findMatch 7, .enqueuePacket (job 1), .start] ++
      [.enqueuePacket (job 5)] ++ round ++ [.stop, .loop, .join, .start] ++ round)
    (P := fun h _ => (taken h).map (·.headerMask) = [5, 1] ∧ (called h).map Prod.fst = [7, 7])
    (by decide +kernel)
  exact ⟨h, d, hr, hp.2, (delivery hr).1⟩

end RunningDispatcher

end ServiceServer
