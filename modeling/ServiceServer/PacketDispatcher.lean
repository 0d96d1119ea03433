import ServiceServer.NetworkDefs

/-!
# The packet dispatcher (`PacketDispatcher.h`, `PacketDispatcher.cpp`)

Jobs wait in three queues, one for each priority.  `EnqueuePacket` puts a job
into one of them by its header, and a round of `DispatchLoop` takes the first job
of the highest queue that holds one.  Both hold the dispatcher's mutex, so each
is one step.

* `takeJob_enqueuePacket` — an idle dispatcher hands out the job it is given, and
  is idle again.
* `mem_jobs_takeJob` — a job that is taken was waiting.
-/

namespace ServiceServer

/-- `PacketDispatcher`, for handlers of some kind. -/
structure PacketDispatcher (H : Type) where
  queueNormal : List RawPacketJob := []
  queueCritical : List RawPacketJob := []
  queueUrgent : List RawPacketJob := []
  handlers : PacketType → Option H := fun _ => none

namespace PacketDispatcher

variable {H : Type}

/-- Does a header mask carry the bit of this header? -/
def hasHeader (headerMask : UInt8) (header : PacketHeader) : Bool :=
  headerMask &&& header.mask != 0

/-- `EnqueuePacket`. -/
def enqueuePacket (d : PacketDispatcher H) (job : RawPacketJob) : PacketDispatcher H :=
  if hasHeader job.headerMask .urgent then { d with queueUrgent := d.queueUrgent ++ [job] }
  else if hasHeader job.headerMask .critic then
    { d with queueCritical := d.queueCritical ++ [job] }
  else { d with queueNormal := d.queueNormal ++ [job] }

/-- The locked part of a round of `DispatchLoop`; `none` where it goes round
again. -/
def takeJob (d : PacketDispatcher H) : Option (RawPacketJob × PacketDispatcher H) :=
  match d.queueUrgent, d.queueCritical, d.queueNormal with
  | job :: jobs, _, _ => some (job, { d with queueUrgent := jobs })
  | [], job :: jobs, _ => some (job, { d with queueCritical := jobs })
  | [], [], job :: jobs => some (job, { d with queueNormal := jobs })
  | [], [], [] => none

/-- Everything that waits, in the order of the queues. -/
def jobs (d : PacketDispatcher H) : List RawPacketJob :=
  d.queueUrgent ++ d.queueCritical ++ d.queueNormal

@[simp] theorem handlers_enqueuePacket (d : PacketDispatcher H) (job : RawPacketJob) :
    (d.enqueuePacket job).handlers = d.handlers := by
  unfold enqueuePacket
  split_ifs <;> rfl

theorem mem_jobs_enqueuePacket {d : PacketDispatcher H} {job x : RawPacketJob} :
    x ∈ (d.enqueuePacket job).jobs ↔ x = job ∨ x ∈ d.jobs := by
  unfold enqueuePacket
  split_ifs <;> simp only [jobs, List.mem_append, List.mem_singleton] <;> tauto

/-- **What is taken was waiting**, and what waits afterwards waited before. -/
theorem mem_jobs_takeJob {d d' : PacketDispatcher H} {job : RawPacketJob}
    (h : d.takeJob = some (job, d')) :
    job ∈ d.jobs ∧ (∀ x ∈ d'.jobs, x ∈ d.jobs) ∧ d'.handlers = d.handlers := by
  unfold takeJob at h
  split at h
  · rename_i hu
    cases h
    refine ⟨by simp [jobs, hu], ?_, rfl⟩
    intro x hx
    simp only [jobs, hu, List.mem_append, List.mem_cons] at hx ⊢
    tauto
  · rename_i hu hc
    cases h
    refine ⟨by simp [jobs, hu, hc], ?_, rfl⟩
    intro x hx
    simp only [jobs, hu, hc, List.mem_append, List.mem_cons] at hx ⊢
    tauto
  · rename_i hu hc hn
    cases h
    refine ⟨by simp [jobs, hu, hc, hn], ?_, rfl⟩
    intro x hx
    simp only [jobs, hu, hc, hn, List.mem_append, List.mem_cons] at hx ⊢
    tauto
  · cases h

/-- **An idle dispatcher hands out the job it is given**, whatever its header. -/
theorem takeJob_enqueuePacket {d : PacketDispatcher H} (hd : d.jobs = []) (job : RawPacketJob) :
    (d.enqueuePacket job).takeJob = some (job, d) := by
  obtain ⟨qn, qc, qu, handlers⟩ := d
  simp only [jobs, List.append_eq_nil_iff] at hd
  obtain ⟨⟨rfl, rfl⟩, rfl⟩ := hd
  unfold enqueuePacket
  split_ifs <;> rfl

end PacketDispatcher

end ServiceServer
