import ServiceServer.Threads.Completion

/-!
# From the sockets to the handlers, in the whole program

In the program as a whole, each of the two services that listen to datagrams has its
dispatcher, and nobody else calls it.  So what the dispatcher promises to whoever uses it
holds from the socket on.

* `registered` — the handlers that are registered one after the other are those of the service.
* `Delivers` — what can be seen of the dispatcher in the program is what can be seen of a run
  of its own machine, and every datagram that arrived is accounted for.
* `datagrams_delivered` — in each class the datagrams that arrived are those that the program
  took for a handler, and those that still wait somewhere, in this order.
-/

namespace ServiceServer

open Lib

/-! ## Registering the handlers -/

/-- The handlers `VersionChecker::Run` registers. -/
def VersionChecker.registrations : List (PacketType × VersionChecker.Handler) :=
  [(.version, VersionChecker.versionHandler)]

/-- The handlers `SubcribeActionHandlers` registers, in its order. -/
def MatchmakingServer.registrations : List (PacketType × MatchmakingServer.Handler) :=
  [(.findMatch, fun s _ job => s.findMatchHandler job),
    (.cancelSearch, fun s _ job => s.cancelSearchHandler job),
    (.ackMatchFound, fun s _ job => s.ackMatchFoundHandler job),
    (.matchUnique, MatchmakingServer.matchUniqueHandler),
    (.matchUsed, MatchmakingServer.matchUsedHandler)]

namespace RunningDispatcher

variable {H : Type}

/-- The handlers behind these calls of `RegisterHandler`. -/
def registered (registrations : List (PacketType × H)) (handlers : PacketType → Option H) :
    PacketType → Option H :=
  registrations.foldl (fun handlers r t => if t = r.1 then some r.2 else handlers t) handlers

/-- Registering handlers is a run of the dispatcher, as long as it was not started. -/
theorem run_registered (registrations : List (PacketType × H)) {d : RunningDispatcher H}
    (hd : d.started = false) :
    ∃ h, (machine H).Run d h { d with handlers := registered registrations d.handlers } ∧
      h.flatMap (·.out) = [] := by
  induction registrations generalizing d with
  | nil => exact ⟨[], .nil, rfl⟩
  | cons r rs ih =>
    let e : RunningDispatcher H :=
      { d with toPacketDispatcher := d.toPacketDispatcher.registerHandler r.1 r.2 }
    have hstep : (machine H).step d (.registerHandler r.1 r.2) = .ok (e, []) := by
      change step d (.registerHandler r.1 r.2) = _
      rw [step, if_neg (by simp [hd])]
    have he : e.started = false := hd
    obtain ⟨h, hr, hnone⟩ := ih he
    refine ⟨_, (Machine.Run.single hstep).append hr, ?_⟩
    rw [List.flatMap_append]
    exact hnone

/-- `Start` and the two halves of `Stop` touch neither jobs nor handlers. -/
theorem quiet_of_step {d d' : RunningDispatcher H} {l : DispatcherStep H}
    {out : List (DispatchEvent H)} (hl : l = .start ∨ l = .stop ∨ l = .join)
    (h : d.step l = .ok (d', out)) : out = [] ∧ d'.handlers = d.handlers := by
  rcases hl with rfl | rfl | rfl
  · rw [step] at h
    split_ifs at h
    cases h
    exact ⟨rfl, rfl⟩
  · cases h
    exact ⟨rfl, rfl⟩
  · rw [step] at h
    split at h
    · cases h
      exact ⟨rfl, rfl⟩
    · cases h
      exact ⟨rfl, rfl⟩
    · cases h

end RunningDispatcher

/-- The handlers of a service are the ones it registers. -/
def UdpService.Registers {H : Type} (k : UdpService H) (registrations : List (PacketType × H)) :
    Prop :=
  RunningDispatcher.registered registrations (fun _ => none) = k.handlers

theorem VersionChecker.registers : VersionChecker.service.Registers registrations := by
  funext t
  cases t <;> rfl

theorem MatchmakingServer.registers : MatchmakingServer.service.Registers registrations := by
  funext t
  cases t <;> rfl

/-! ## One service -/

namespace UdpThread

variable {H : Type} {k : UdpService H} {running : Bool} {t t' : UdpThread H}
  {out : List (DispatchEvent H)}

/-- The job of a datagram, if `receive` has room for it and it parses. -/
def jobOf (a : Arrival) : List RawPacketJob :=
  ((receiveInto 1024 a.data).bind (parseRawDatagram · a.sender a.port)).toList

/-- The job between `receive` and `EnqueuePacket`. -/
def inHand (t : UdpThread H) : List RawPacketJob :=
  match t.point with
  | some (.received a) => jobOf a
  | _ => []

/-- The jobs that were not enqueued yet. -/
def ahead (t : UdpThread H) : List RawPacketJob := t.inHand ++ t.buffer.flatMap jobOf

/-- The handlers are registered before the dispatcher is started. -/
def Registered (k : UdpService H) (t : UdpThread H) : Prop :=
  match t.point with
  | none | some .initializing | some .subscribing =>
    t.dispatcher.started = false ∧ t.dispatcher.handlers = fun _ => none
  | some .starting => t.dispatcher.started = false ∧ t.dispatcher.handlers = k.handlers
  | some .returned => t.dispatcher.started = true → t.dispatcher.handlers = k.handlers
  | some _ => t.dispatcher.handlers = k.handlers

/-- A call of the dispatcher is a step of it. -/
theorem step_of_call {l : DispatcherStep H} {next : RunPoint}
    (h : t.call l next = some (t', out)) :
    ∃ d, t.dispatcher.step l = .ok (d, out) ∧
      t' = { t with dispatcher := d, point := some next } := by
  unfold call at h
  cases hstep : t.dispatcher.step l with
  | error e => simp [hstep] at h
  | ok r =>
    simp only [hstep, Option.some.injEq, Prod.mk.injEq] at h
    obtain ⟨rfl, rfl⟩ := h
    exact ⟨r.1, rfl, rfl⟩

/-- What a step of the thread does to its dispatcher: it is a run of the dispatcher, of which
just as much can be seen, and what it enqueues is what the thread had next. -/
def Carries (t : UdpThread H) (out : List (DispatchEvent H)) (t' : UdpThread H) : Prop :=
  (∃ h, (RunningDispatcher.machine H).Run t.dispatcher h t'.dispatcher ∧
    h.flatMap (·.out) = out) ∧
    out.flatMap RunningDispatcher.enqueuedBy ++ t'.ahead = t.ahead

theorem Carries.quiet (hd : t'.dispatcher = t.dispatcher) (hahead : t'.ahead = t.ahead) :
    Carries t [] t' :=
  ⟨⟨[], hd ▸ .nil, rfl⟩, hahead⟩

theorem Carries.step {l : DispatcherStep H} (h : t.dispatcher.step l = .ok (t'.dispatcher, out))
    (hahead : out.flatMap RunningDispatcher.enqueuedBy ++ t'.ahead = t.ahead) :
    Carries t out t' :=
  ⟨⟨_, .single h, List.flatMap_singleton _ _⟩, hahead⟩

theorem registered_afterReceive (hpoint : t.point = some (afterReceive k))
    (hhandlers : t.dispatcher.handlers = k.handlers) : Registered k t := by
  unfold Registered
  rcases afterReceive_cases k with h | h <;> rw [hpoint, h] <;> exact hhandlers

theorem inHand_afterReceive (hpoint : t.point = some (afterReceive k)) : t.inHand = [] := by
  unfold inHand
  rcases afterReceive_cases k with h | h <;> rw [hpoint, h]

/-- **A step of the thread is a run of its dispatcher.** -/
theorem carries_runStep {registrations : List (PacketType × H)} {bound : Bool}
    (hk : k.Registers registrations) (ht : Registered k t)
    (h : t.runStep k running bound = some (t', out)) : Registered k t' ∧ Carries t out t' := by
  unfold Registered at ht
  unfold UdpThread.runStep at h
  cases hp : t.point with
  | none => simp [hp] at h
  | some p =>
    rw [hp] at h ht
    cases p with
    | initializing =>
      cases bound with
      | false =>
        cases h
        exact ⟨fun hs => by simp [ht.1] at hs, .quiet rfl (by simp [ahead, inHand, hp])⟩
      | true =>
        cases h
        exact ⟨ht, .quiet rfl (by simp [ahead, inHand, hp])⟩
    | subscribing =>
      cases h
      obtain ⟨hr, hrun, hnone⟩ := RunningDispatcher.run_registered registrations ht.1
      rw [ht.2, hk] at hrun
      exact ⟨⟨ht.1, rfl⟩, ⟨hr, hrun, hnone⟩, by simp [ahead, inHand, hp]⟩
    | starting =>
      obtain ⟨d, hstep, rfl⟩ := step_of_call h
      obtain ⟨rfl, hhandlers⟩ := RunningDispatcher.quiet_of_step (.inl rfl) hstep
      exact ⟨hhandlers.trans ht.2, .step hstep (by simp [ahead, inHand, hp])⟩
    | atTest =>
      cases h
      cases running <;> exact ⟨ht, .quiet rfl (by simp [ahead, inHand, hp])⟩
    | receiving =>
      cases hbuffer : t.buffer with
      | nil =>
        simp only [hbuffer] at h
        split_ifs at h
        cases h
        refine ⟨registered_afterReceive rfl ht, .quiet rfl ?_⟩
        rw [ahead, ahead, inHand_afterReceive rfl]
        simp [inHand, hp, hbuffer]
      | cons a buffer =>
        simp only [hbuffer, Option.some.injEq, Prod.mk.injEq] at h
        obtain ⟨rfl, rfl⟩ := h
        exact ⟨ht, .quiet rfl (by simp [ahead, inHand, hp, hbuffer])⟩
    | received a =>
      cases hjob : (receiveInto 1024 a.data).bind (parseRawDatagram · a.sender a.port) with
      | none =>
        simp only [hjob, Option.some.injEq, Prod.mk.injEq] at h
        obtain ⟨rfl, rfl⟩ := h
        refine ⟨registered_afterReceive rfl ht, .quiet rfl ?_⟩
        rw [ahead, ahead, inHand_afterReceive rfl]
        simp [inHand, hp, jobOf, hjob]
      | some job =>
        simp only [hjob] at h
        obtain ⟨d, hstep, rfl⟩ := step_of_call h
        obtain ⟨rfl, hhandlers⟩ : out = [.enqueued job] ∧ d.handlers = t.dispatcher.handlers := by
          cases hstep
          exact ⟨rfl, PacketDispatcher.handlers_enqueuePacket _ _⟩
        refine ⟨registered_afterReceive rfl (hhandlers.trans ht), .step hstep ?_⟩
        rw [ahead, ahead, inHand_afterReceive rfl]
        simp [inHand, hp, jobOf, hjob, RunningDispatcher.enqueuedBy]
    | processing =>
      cases h
      exact ⟨ht, .quiet rfl (by simp [ahead, inHand, hp])⟩
    | stopping =>
      obtain ⟨d, hstep, rfl⟩ := step_of_call h
      obtain ⟨rfl, hhandlers⟩ := RunningDispatcher.quiet_of_step (.inr (.inl rfl)) hstep
      exact ⟨hhandlers.trans ht, .step hstep (by simp [ahead, inHand, hp])⟩
    | joining =>
      obtain ⟨d, hstep, rfl⟩ := step_of_call h
      obtain ⟨rfl, hhandlers⟩ := RunningDispatcher.quiet_of_step (.inr (.inr rfl)) hstep
      exact ⟨fun _ => hhandlers.trans ht, .step hstep (by simp [ahead, inHand, hp])⟩
    | returned => cases h

/-- A turn of the dispatcher's thread is a run of the dispatcher. -/
theorem carries_dispatchStep (ht : Registered k t) (h : t.dispatchStep = some (t', out)) :
    Registered k t' ∧ Carries t out t' := by
  obtain ⟨⟨d, events⟩, hloop, heq⟩ := Option.map_eq_some_iff.1 h
  cases heq
  have hturn := RunningDispatcher.turn_of_loopStep hloop
  have hstep : t.dispatcher.step .loop = .ok (d, events) := by
    rw [RunningDispatcher.step, hloop]
  have hnothing : events.flatMap RunningDispatcher.enqueuedBy = [] := by cases hturn <;> rfl
  have hkept : d.started = t.dispatcher.started ∧ d.handlers = t.dispatcher.handlers := by
    cases hturn with
    | took _ hjob => exact ⟨rfl, (PacketDispatcher.mem_jobs_takeJob hjob).2.2⟩
    | tested | idle | skipped | called | handled => exact ⟨rfl, rfl⟩
  refine ⟨?_, .step hstep ?_⟩
  · unfold Registered at ht ⊢
    dsimp only
    rw [hkept.1, hkept.2]
    exact ht
  · rw [hnothing]
    rfl

/-- What happens to the thread of a service in a step: the datagrams that arrive, and what can
be seen of its dispatcher. -/
inductive Takes (k : UdpService H) (running : Bool) :
    List Arrival → List (DispatchEvent H) → UdpThread H → UdpThread H → Prop
  | stay (t : UdpThread H) : Takes k running [] [] t t
  | create {t : UdpThread H} (hp : t.point = none) :
      Takes k running [] [] t { t with point := some .initializing }
  | run {t t' : UdpThread H} {bound : Bool} {out : List (DispatchEvent H)}
      (h : t.runStep k running bound = some (t', out)) : Takes k running [] out t t'
  | dispatch {t t' : UdpThread H} {out : List (DispatchEvent H)}
      (h : t.dispatchStep = some (t', out)) : Takes k running [] out t t'
  | arrive (t : UdpThread H) (a : Arrival) :
      Takes k running [a] [] t { t with buffer := t.buffer ++ [a] }

/-- What could be seen of the dispatcher is what can be seen of a run of its own machine, and
every datagram that arrived was enqueued in its turn, or is still ahead. -/
def Delivers (k : UdpService H) (arrived : List Arrival) (events : List (DispatchEvent H))
    (t : UdpThread H) : Prop :=
  Registered k t ∧
    (∃ h, (RunningDispatcher.machine H).Run .initial h t.dispatcher ∧
      h.flatMap (·.out) = events) ∧
    events.flatMap RunningDispatcher.enqueuedBy ++ t.ahead = arrived.flatMap jobOf

theorem Delivers.carries {arrived : List Arrival} {events : List (DispatchEvent H)}
    (ht : Delivers k arrived events t) (h : Registered k t' ∧ Carries t out t') :
    Delivers k arrived (events ++ out) t' := by
  obtain ⟨hregistered, ⟨hd, hrun, hout⟩, hahead⟩ := h
  obtain ⟨-, ⟨hd₀, hrun₀, hout₀⟩, hahead₀⟩ := ht
  refine ⟨hregistered, ⟨_, hrun₀.append hrun, ?_⟩, ?_⟩
  · rw [List.flatMap_append, hout₀, hout]
  · rw [← hahead₀, ← hahead, ← List.append_assoc, List.flatMap_append]

/-- **Every datagram is accounted for, step by step.** -/
theorem Delivers.takes {registrations : List (PacketType × H)} {arrived new : List Arrival}
    {events : List (DispatchEvent H)} (hk : k.Registers registrations)
    (ht : Delivers k arrived events t) (h : Takes k running new out t t') :
    Delivers k (arrived ++ new) (events ++ out) t' := by
  cases h with
  | stay => rwa [List.append_nil, List.append_nil]
  | create hp =>
    rw [List.append_nil]
    refine ht.carries ⟨?_, .quiet rfl (by simp [ahead, inHand, hp])⟩
    have hregistered := ht.1
    unfold Registered at hregistered
    rw [hp] at hregistered
    exact hregistered
  | run h =>
    rw [List.append_nil]
    exact ht.carries (carries_runStep hk ht.1 h)
  | dispatch h =>
    rw [List.append_nil]
    exact ht.carries (carries_dispatchStep ht.1 h)
  | arrive a =>
    obtain ⟨hregistered, hrun, hahead⟩ := ht
    rw [List.append_nil]
    refine ⟨hregistered, hrun, ?_⟩
    rw [List.flatMap_append, ← hahead]
    simp [ahead, inHand]

theorem Registered.handlers (ht : Registered k t) (hs : t.dispatcher.started = true) :
    t.dispatcher.handlers = k.handlers := by
  unfold Registered at ht
  split at ht
  · simp [ht.1] at hs
  · simp [ht.1] at hs
  · simp [ht.1] at hs
  · simp [ht.1] at hs
  · exact ht hs
  · exact ht

/-- The call that a service makes for a job. -/
def callOf (k : UdpService H) (job : RawPacketJob) : List (H × RawPacketJob) :=
  (k.handlers job.type).toList.map fun handler => (handler, job)

/-- What has become of the datagrams that arrived at a service, by what could be seen of its
dispatcher:
* this is what can be seen of a run of the dispatcher that ends where the dispatcher is;
* in each class the jobs that arrived are those that were taken, then those that wait in the
  dispatcher, then those the thread has in hand or in the buffer of its socket;
* the calls made, and the one that is about to be made, are those of the service's own
  handlers for the jobs taken, in this order. -/
def Delivered (k : UdpService H) (arrived : List Arrival) (events : List (DispatchEvent H))
    (t : UdpThread H) : Prop :=
  (∃ h, (RunningDispatcher.machine H).Run .initial h t.dispatcher ∧
    h.flatMap (·.out) = events) ∧
    (∀ c, RunningDispatcher.inClass c (arrived.flatMap jobOf)
      = RunningDispatcher.inClass c (events.flatMap RunningDispatcher.takenBy)
        ++ t.dispatcher.waiting c ++ RunningDispatcher.inClass c t.ahead) ∧
    events.flatMap RunningDispatcher.calledBy ++ t.dispatcher.pendingCall
      = (events.flatMap RunningDispatcher.takenBy).flatMap (callOf k)

theorem Delivers.delivered {arrived : List Arrival} {events : List (DispatchEvent H)}
    (ht : Delivers k arrived events t) : Delivered k arrived events t := by
  obtain ⟨hregistered, ⟨h, hrun, rfl⟩, hahead⟩ := ht
  have henqueued : (h.flatMap (·.out)).flatMap RunningDispatcher.enqueuedBy
      = RunningDispatcher.enqueued h := List.flatMap_assoc
  have htaken : (h.flatMap (·.out)).flatMap RunningDispatcher.takenBy
      = RunningDispatcher.taken h := List.flatMap_assoc
  have hcalled : (h.flatMap (·.out)).flatMap RunningDispatcher.calledBy
      = RunningDispatcher.called h := List.flatMap_assoc
  refine ⟨⟨h, hrun, rfl⟩, fun c => ?_, ?_⟩
  · have hnone : (RunningDispatcher.initial : RunningDispatcher H).waiting c = [] := by
      cases c <;> rfl
    have hfifo := RunningDispatcher.fifo_from .nil hrun c
    rw [hnone, List.nil_append] at hfifo
    rw [htaken, ← hfifo, ← hahead, henqueued, RunningDispatcher.inClass, List.flatMap_append]
    rfl
  · have hkept := RunningDispatcher.kept_of_run hrun
    rw [hcalled, htaken, hkept.calls]
    cases hs : t.dispatcher.started with
    | false =>
      rw [(hkept.fresh hs).1]
      rfl
    | true =>
      refine List.flatMap_congr fun job _ => ?_
      rw [RunningDispatcher.callOf, hregistered.handlers hs]
      rfl

end UdpThread

/-! ## The program -/

namespace ServiceManager

variable {s s' : ServiceManager}

/-- The datagram that arrives at the version service in a step. -/
def versionArrival : ManagerStep → List Arrival
  | .versionDatagram a => [a]
  | _ => []

/-- The datagram that arrives at the matchmaking in a step. -/
def matchmakingArrival : ManagerStep → List Arrival
  | .matchmakingDatagram a => [a]
  | _ => []

/-- What can be seen of the dispatcher of the version service. -/
def versionEvents (out : List ManagerEvent) : List (DispatchEvent VersionChecker.Handler) :=
  out.filterMap fun
    | .version e => some e
    | .matchmaking _ => none

/-- What can be seen of the dispatcher of the matchmaking. -/
def matchmakingEvents (out : List ManagerEvent) :
    List (DispatchEvent MatchmakingServer.Handler) :=
  out.filterMap fun
    | .version _ => none
    | .matchmaking e => some e

theorem events_version (out : List (DispatchEvent VersionChecker.Handler)) :
    versionEvents (out.map .version) = out ∧ matchmakingEvents (out.map .version) = [] := by
  constructor
  · rw [versionEvents, List.filterMap_map]
    exact List.filterMap_some
  · rw [matchmakingEvents, List.filterMap_map]
    exact List.filterMap_none _

theorem events_matchmaking (out : List (DispatchEvent MatchmakingServer.Handler)) :
    versionEvents (out.map .matchmaking) = [] ∧
      matchmakingEvents (out.map .matchmaking) = out := by
  constructor
  · rw [versionEvents, List.filterMap_map]
    exact List.filterMap_none _
  · rw [matchmakingEvents, List.filterMap_map]
    exact List.filterMap_some

/-- What a step does to the two services that listen to datagrams. -/
structure StepTakes (l : ManagerStep) (out : List ManagerEvent) (s s' : ServiceManager) :
    Prop where
  version : s.version.Takes VersionChecker.service s.running (versionArrival l)
    (versionEvents out) s'.version
  matchmaking : s.matchmaking.Takes MatchmakingServer.service s.running (matchmakingArrival l)
    (matchmakingEvents out) s'.matchmaking

theorem takes_mainStep (h : s.mainStep = some s') : StepTakes .main [] s s' := by
  cases mainGoes_of_mainStep h with
  | created _ hcreates =>
    cases hcreates with
    | version hp => exact ⟨.create hp, .stay _⟩
    | login hp => exact ⟨.stay _, .stay _⟩
    | matchmaking hp => exact ⟨.stay _, .create hp⟩
  | read | cleared | joined => exact ⟨.stay _, .stay _⟩

theorem step_takes {l : ManagerStep} {out : List ManagerEvent}
    (h : s.advance l = some (s', out)) : StepTakes l out s s' := by
  cases l with
  | main =>
    obtain ⟨t, ht, heq⟩ := Option.map_eq_some_iff.1 h
    cases heq
    exact takes_mainStep ht
  | version bound =>
    obtain ⟨r, hr, heq⟩ := Option.map_eq_some_iff.1 h
    cases heq
    obtain ⟨hversion, hmatchmaking⟩ := events_version r.2
    exact ⟨hversion.symm ▸ .run hr, hmatchmaking.symm ▸ .stay _⟩
  | versionDispatcher =>
    obtain ⟨r, hr, heq⟩ := Option.map_eq_some_iff.1 h
    cases heq
    obtain ⟨hversion, hmatchmaking⟩ := events_version r.2
    exact ⟨hversion.symm ▸ .dispatch hr, hmatchmaking.symm ▸ .stay _⟩
  | login input =>
    obtain ⟨t, -, heq⟩ := Option.map_eq_some_iff.1 h
    cases heq
    exact ⟨.stay _, .stay _⟩
  | matchmaking bound =>
    obtain ⟨r, hr, heq⟩ := Option.map_eq_some_iff.1 h
    cases heq
    obtain ⟨hversion, hmatchmaking⟩ := events_matchmaking r.2
    exact ⟨hversion.symm ▸ .stay _, hmatchmaking.symm ▸ .run hr⟩
  | matchmakingDispatcher =>
    obtain ⟨r, hr, heq⟩ := Option.map_eq_some_iff.1 h
    cases heq
    obtain ⟨hversion, hmatchmaking⟩ := events_matchmaking r.2
    exact ⟨hversion.symm ▸ .stay _, hmatchmaking.symm ▸ .dispatch hr⟩
  | versionDatagram a =>
    cases h
    exact ⟨.arrive _ a, .stay _⟩
  | matchmakingDatagram a =>
    cases h
    exact ⟨.stay _, .arrive _ a⟩
  | connection | clientData client =>
    cases h
    exact ⟨.stay _, .stay _⟩

variable {h : History}

/-- The two services in a run of the program. -/
theorem delivers_run (hr : machine.Run initial h s) :
    s.version.Delivers VersionChecker.service (h.flatMap fun t => versionArrival t.label)
        (h.flatMap fun t => versionEvents t.out) ∧
      s.matchmaking.Delivers MatchmakingServer.service
        (h.flatMap fun t => matchmakingArrival t.label)
        (h.flatMap fun t => matchmakingEvents t.out) := by
  induction hr with
  | nil => exact ⟨⟨⟨rfl, rfl⟩, ⟨[], .nil, rfl⟩, rfl⟩, ⟨⟨rfl, rfl⟩, ⟨[], .nil, rfl⟩, rfl⟩⟩
  | snoc _ hstep ih =>
    obtain ⟨hversion, hmatchmaking⟩ := step_takes (step_iff.1 hstep)
    simp only [List.flatMap_append, List.flatMap_singleton]
    exact ⟨ih.1.takes VersionChecker.registers hversion,
      ih.2.takes MatchmakingServer.registers hmatchmaking⟩

/-- **From the socket to the handler, nothing is lost, doubled or overtaken inside a class.**
In every state of the program, whatever the threads do and whatever arrives, and also while
the services are stopped: of both services that listen to datagrams, every datagram that
arrived and parses was taken by the program for its handler or still waits, in the order of its
class, and the handlers the program called are the ones the service registered, once for each
job taken. -/
theorem datagrams_delivered (hr : machine.Run initial h s) :
    s.version.Delivered VersionChecker.service (h.flatMap fun t => versionArrival t.label)
        (h.flatMap fun t => versionEvents t.out) ∧
      s.matchmaking.Delivered MatchmakingServer.service
        (h.flatMap fun t => matchmakingArrival t.label)
        (h.flatMap fun t => matchmakingEvents t.out) :=
  ⟨(delivers_run hr).1.delivered, (delivers_run hr).2.delivered⟩

/-- Two searches arrive at the matchmaking, and one of them is handled. -/
theorem datagrams_delivered_searches : ∃ h s, machine.Run initial h s ∧
    (h.flatMap fun t => matchmakingArrival t.label).length = 2 ∧ s.matchmaking.buffer.length = 1 ∧
      ((h.flatMap fun t => matchmakingEvents t.out).flatMap
        RunningDispatcher.calledBy).length = 1 ∧
      s.matchmaking.dispatcher.pendingCall = [] ∧
      s.matchmaking.Delivered MatchmakingServer.service
        (h.flatMap fun t => matchmakingArrival t.label)
        (h.flatMap fun t => matchmakingEvents t.out) := by
  let search (port : UInt16) : ManagerStep :=
    .matchmakingDatagram
      ⟨createRawDatagram 1 .findMatch MatchType.normal.name, ⟨10, 0, 0, 1⟩, port⟩
  obtain ⟨h, s, hr, harrived, hbuffer, hcalled, hpending⟩ :=
    Machine.exists_run_of_exec (M := machine) (s := initial)
    (l := List.replicate 3 .main ++ List.replicate 3 (.matchmaking true) ++
      [search 5000, search 5001] ++ List.replicate 3 (.matchmaking true) ++
        List.replicate 4 .matchmakingDispatcher)
    (P := fun h s => (h.flatMap fun t => matchmakingArrival t.label).length = 2 ∧
      s.matchmaking.buffer.length = 1 ∧
      ((h.flatMap fun t => matchmakingEvents t.out).flatMap
        RunningDispatcher.calledBy).length = 1 ∧
      s.matchmaking.dispatcher.pendingCall.length = 0)
    (by decide +kernel)
  exact ⟨h, s, hr, harrived, hbuffer, hcalled, List.length_eq_zero_iff.1 hpending,
    (datagrams_delivered hr).2⟩

end ServiceManager

end ServiceServer
