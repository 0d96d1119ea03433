import ServiceServer.ServiceManager

/-!
# Stopping the services (`ServiceManager::StopServices`)

When `_running` has been cleared, a service thread comes to its end if it gets back to
the test of its loop.  Of the three ways to wait for input two end by themselves: the
matchmaking socket is not blocking, and the selector waits for a second at most.  The
version socket is blocking: nobody calls `setBlocking(false)` on it.

* `UdpThread.Sound`, `LoginThread.Sound` — the blocking mode of every socket is the one
  its initialisation gave it.
* `shutdown_unstuck_iff` — no thread is stuck after the flag was cleared, unless the
  version service stood in `receive` with nothing to receive.
-/

namespace ServiceServer

open Lib

/-! ## A service that listens to datagrams -/

namespace UdpThread

variable {H : Type} {k : UdpService H} {running : Bool} {t t' : UdpThread H}
  {out : List (DispatchEvent H)}

/-- The blocking mode of the socket, and the dispatcher before it is started. -/
def Sound (k : UdpService H) (t : UdpThread H) : Prop :=
  match t.point with
  | none | some .initializing => t.dispatcher.thread = none ∧ t.blocking = true
  | some .subscribing | some .starting =>
    t.dispatcher.thread = none ∧ t.blocking = !k.setsNonBlocking
  | some .returned => True
  | some _ => t.blocking = !k.setsNonBlocking

/-- A call of the dispatcher moves the thread on, and leaves the socket alone. -/
theorem call_eq_some {l : DispatcherStep H} {next : RunPoint}
    (h : t.call l next = some (t', out)) :
    t'.point = some next ∧ t'.blocking = t.blocking ∧ t'.buffer = t.buffer := by
  unfold call at h
  cases hstep : t.dispatcher.step l with
  | error e => simp [hstep] at h
  | ok r =>
    simp only [hstep, Option.some.injEq, Prod.mk.injEq] at h
    obtain ⟨rfl, -⟩ := h
    exact ⟨rfl, rfl, rfl⟩

/-- Which point of `Run` follows which. -/
inductive Follows (k : UdpService H) (running : Bool) : RunPoint → RunPoint → Prop
  | bound : Follows k running .initializing .subscribing
  | notBound : Follows k running .initializing .returned
  | subscribed : Follows k running .subscribing .starting
  | started : Follows k running .starting .atTest
  | goesOn : running = true → Follows k running .atTest .receiving
  | ends : running = false → Follows k running .atTest .stopping
  | received (a : Arrival) : Follows k running .receiving (.received a)
  | nothing : Follows k running .receiving (afterReceive k)
  | enqueued (a : Arrival) : Follows k running (.received a) (afterReceive k)
  | passed : Follows k running .processing .atTest
  | stopped : Follows k running .stopping .joining
  | joined : Follows k running .joining .returned

/-- What a step of the thread does to what counts here. -/
structure RunSpec (k : UdpService H) (running : Bool) (t t' : UdpThread H) (p p' : RunPoint) :
    Prop where
  pre : t.point = some p
  post : t'.point = some p'
  follows : Follows k running p p'
  blocking : p ≠ .initializing → t'.blocking = t.blocking
  bound : p = .initializing → p' = .subscribing →
    t'.blocking = (t.blocking && !k.setsNonBlocking)
  thread : p = .initializing ∨ p = .subscribing → t'.dispatcher.thread = t.dispatcher.thread

/-- **What a step of the thread does.** -/
theorem runStep_spec {bound : Bool} (h : t.runStep k running bound = some (t', out)) :
    ∃ p p', RunSpec k running t t' p p' := by
  unfold UdpThread.runStep at h
  cases hp : t.point with
  | none => simp [hp] at h
  | some p =>
    rw [hp] at h
    cases p with
    | initializing =>
      by_cases hbound : bound = true
      · simp only [if_pos hbound, Option.some.injEq, Prod.mk.injEq] at h
        obtain ⟨rfl, -⟩ := h
        exact ⟨_, _, hp, rfl, .bound, nofun, fun _ _ => rfl, fun _ => rfl⟩
      · simp only [if_neg hbound, Option.some.injEq, Prod.mk.injEq] at h
        obtain ⟨rfl, -⟩ := h
        exact ⟨_, _, hp, rfl, .notBound, nofun, nofun, fun _ => rfl⟩
    | subscribing =>
      cases h
      exact ⟨_, _, hp, rfl, .subscribed, fun _ => rfl, nofun, fun _ => rfl⟩
    | starting =>
      obtain ⟨hpoint, hblocking, -⟩ := call_eq_some h
      exact ⟨_, _, hp, hpoint, .started, fun _ => hblocking, nofun, by simp⟩
    | atTest =>
      cases h
      cases running
      · exact ⟨_, _, hp, rfl, .ends rfl, fun _ => rfl, nofun, by simp⟩
      · exact ⟨_, _, hp, rfl, .goesOn rfl, fun _ => rfl, nofun, by simp⟩
    | receiving =>
      cases hbuffer : t.buffer with
      | nil =>
        by_cases hblocking : t.blocking = true
        · simp [hbuffer, hblocking] at h
        · simp only [hbuffer, if_neg hblocking, Option.some.injEq, Prod.mk.injEq] at h
          obtain ⟨rfl, -⟩ := h
          exact ⟨_, _, hp, rfl, .nothing, fun _ => rfl, nofun, by simp⟩
      | cons a buffer =>
        simp only [hbuffer, Option.some.injEq, Prod.mk.injEq] at h
        obtain ⟨rfl, -⟩ := h
        exact ⟨_, _, hp, rfl, .received a, fun _ => rfl, nofun, by simp⟩
    | received a =>
      cases hjob : (receiveInto 1024 a.data).bind (parseRawDatagram · a.sender a.port) with
      | none =>
        simp only [hjob, Option.some.injEq, Prod.mk.injEq] at h
        obtain ⟨rfl, -⟩ := h
        exact ⟨_, _, hp, rfl, .enqueued a, fun _ => rfl, nofun, by simp⟩
      | some job =>
        simp only [hjob] at h
        obtain ⟨hpoint, hblocking, -⟩ := call_eq_some h
        exact ⟨_, _, hp, hpoint, .enqueued a, fun _ => hblocking, nofun, by simp⟩
    | processing =>
      cases h
      exact ⟨_, _, hp, rfl, .passed, fun _ => rfl, nofun, by simp⟩
    | stopping =>
      obtain ⟨hpoint, hblocking, -⟩ := call_eq_some h
      exact ⟨_, _, hp, hpoint, .stopped, fun _ => hblocking, nofun, by simp⟩
    | joining =>
      obtain ⟨hpoint, hblocking, -⟩ := call_eq_some h
      exact ⟨_, _, hp, hpoint, .joined, fun _ => hblocking, nofun, by simp⟩
    | returned => cases h

theorem afterReceive_cases (k : UdpService H) :
    afterReceive k = .processing ∨ afterReceive k = .atTest := by
  unfold afterReceive
  by_cases h : k.hasPasses
  · exact .inl (if_pos h)
  · exact .inr (if_neg h)

/-- Behind `receive` only the blocking mode counts. -/
theorem sound_afterReceive (hpoint : t'.point = some (afterReceive k))
    (hblocking : t'.blocking = !k.setsNonBlocking) : Sound k t' := by
  unfold Sound
  rcases afterReceive_cases k with h | h
  · rw [hpoint, h]
    exact hblocking
  · rw [hpoint, h]
    exact hblocking

theorem Sound.runStep {bound : Bool} (ht : Sound k t)
    (h : t.runStep k running bound = some (t', out)) : Sound k t' := by
  obtain ⟨p, p', hpre, hpost, hfollows, hblocking, hbound, hthread⟩ := runStep_spec h
  unfold Sound at ht
  rw [hpre] at ht
  cases hfollows with
  | bound =>
    unfold Sound
    rw [hpost]
    refine ⟨(hthread (.inl rfl)).trans ht.1, ?_⟩
    rw [hbound rfl rfl, ht.2, Bool.true_and]
  | notBound =>
    unfold Sound
    rw [hpost]
    trivial
  | subscribed =>
    unfold Sound
    rw [hpost]
    exact ⟨(hthread (.inr rfl)).trans ht.1, (hblocking nofun).trans ht.2⟩
  | started =>
    unfold Sound
    rw [hpost]
    exact (hblocking nofun).trans ht.2
  | nothing => exact sound_afterReceive hpost ((hblocking nofun).trans ht)
  | enqueued a => exact sound_afterReceive hpost ((hblocking nofun).trans ht)
  | joined =>
    unfold Sound
    rw [hpost]
    trivial
  | goesOn _ | ends _ | received _ | passed | stopped =>
    unfold Sound
    rw [hpost]
    exact (hblocking nofun).trans ht

/-- The thread of the dispatcher changes nothing that counts: before it is started it
takes no step. -/
theorem Sound.dispatchStep (ht : Sound k t) (h : t.dispatchStep = some (t', out)) :
    Sound k t' := by
  obtain ⟨r, hloop, heq⟩ := Option.map_eq_some_iff.1 h
  cases heq
  have hthread : t.dispatcher.thread ≠ none := by
    intro hnone
    rw [RunningDispatcher.loopStep, hnone] at hloop
    cases hloop
  unfold Sound at ht ⊢
  cases hp : t.point with
  | none =>
    rw [hp] at ht
    exact absurd ht.1 hthread
  | some p =>
    rw [hp] at ht
    cases p with
    | initializing => exact absurd ht.1 hthread
    | subscribing => exact absurd ht.1 hthread
    | starting => exact absurd ht.1 hthread
    | atTest => exact ht
    | receiving => exact ht
    | received a => exact ht
    | processing => exact ht
    | stopping => exact ht
    | joining => exact ht
    | returned => trivial

/-- **The blocking mode stays what the initialisation made it.** -/
theorem Sound.moves (ht : Sound k t) (h : t.Moves k running t') : Sound k t' := by
  cases h with
  | stay => exact ht
  | create hp =>
    unfold Sound at ht
    rw [hp] at ht
    exact ht
  | run h => exact ht.runStep h
  | dispatch h => exact ht.dispatchStep h
  | arrive a => exact ht

/-! ### When the flag is cleared -/

/-- A thread that finds the flag cleared does not come to `receive` any more. -/
theorem runStep_ne_receiving {bound : Bool} (h : t.runStep k false bound = some (t', out)) :
    t'.point ≠ some .receiving := by
  obtain ⟨p, p', -, hpost, hfollows, -⟩ := runStep_spec h
  rw [hpost]
  rintro hp'
  obtain rfl := Option.some.inj hp'
  generalize hq : RunPoint.receiving = q at hfollows
  cases hfollows with
  | goesOn hrunning => cases hrunning
  | nothing => rcases afterReceive_cases k with hcase | hcase <;> rw [hcase] at hq <;> cases hq
  | enqueued a => rcases afterReceive_cases k with hcase | hcase <;> rw [hcase] at hq <;> cases hq
  | bound | notBound | subscribed | started | ends | received | passed | stopped | joined =>
    cases hq

/-- A thread that stands in `receive` has something to receive. -/
def Fed (t : UdpThread H) : Prop := t.point = some .receiving → t.buffer ≠ []

/-- **A thread that has something to receive, or is not in `receive`, does not get stuck
there once the flag is cleared.** -/
theorem Fed.moves (ht : t.Fed) (h : t.Moves k false t') : t'.Fed := by
  cases h with
  | stay => exact ht
  | create hp => exact nofun
  | run h => exact fun hp => absurd hp (runStep_ne_receiving h)
  | dispatch h =>
    obtain ⟨r, -, heq⟩ := Option.map_eq_some_iff.1 h
    cases heq
    exact ht
  | arrive a => exact fun _ => by simp

/-- Whoever waits for the thread of a dispatcher need not wait for ever: it takes a step
itself, or the thread does. -/
theorem join_or_loop (d : RunningDispatcher H) :
    (∃ r, d.step .join = .ok r) ∨ ∃ r, d.loopStep = some r := by
  unfold RunningDispatcher.step RunningDispatcher.loopStep
  cases d.thread with
  | none => exact .inl ⟨_, rfl⟩
  | some p =>
    cases p with
    | atTest => exact .inr ⟨_, rfl⟩
    | atLock =>
      cases d.takeJob with
      | none => exact .inr ⟨_, rfl⟩
      | some r => exact .inr ⟨_, rfl⟩
    | holding job =>
      refine .inr ?_
      cases hhandler : d.handlers job.type with
      | none =>
        simp only [hhandler]
        exact ⟨_, rfl⟩
      | some handler =>
        simp only [hhandler]
        exact ⟨_, rfl⟩
    | handling job => exact .inr ⟨_, rfl⟩
    | returned => exact .inl ⟨_, rfl⟩

/-- The thread can take a step, or it waits for its dispatcher, and that can. -/
def CanStep (k : UdpService H) (running : Bool) (t : UdpThread H) : Prop :=
  (∃ bound r, t.runStep k running bound = some r) ∨
    (t.point = some .joining ∧ ∃ r, t.dispatchStep = some r)

/-- A call of the dispatcher that does not wait is a step. -/
theorem call_of_ok {l : DispatcherStep H} {next : RunPoint}
    {r : RunningDispatcher H × List (DispatchEvent H)} (h : t.dispatcher.step l = .ok r) :
    ∃ r', t.call l next = some r' := by
  unfold call
  rw [h]
  exact ⟨_, rfl⟩

/-- **A thread that does not wait for a datagram can take a step.** -/
theorem canStep_of_sound (ht : Sound k t) {p : RunPoint} (hp : t.point = some p)
    (hrunning : p ≠ .returned) (hreceive : p = .receiving → t.blocking = false ∨ t.buffer ≠ []) :
    t.CanStep k running := by
  unfold Sound at ht
  rw [hp] at ht
  unfold CanStep UdpThread.runStep
  rw [hp]
  cases p with
  | initializing => exact .inl ⟨false, _, rfl⟩
  | subscribing => exact .inl ⟨true, _, rfl⟩
  | starting =>
    have hstart : t.dispatcher.step .start
        = .ok ({ t.dispatcher with running := true, thread := some .atTest, started := true }, []) :=
      if_pos ht.1
    exact .inl ⟨true, call_of_ok hstart⟩
  | atTest => exact .inl ⟨true, _, rfl⟩
  | receiving =>
    cases hbuffer : t.buffer with
    | nil =>
      have hblocking : t.blocking = false := (hreceive rfl).resolve_right (by simp [hbuffer])
      exact .inl ⟨true, by simp [hblocking]⟩
    | cons a buffer => exact .inl ⟨true, _, rfl⟩
  | received a =>
    cases hjob : (receiveInto 1024 a.data).bind (parseRawDatagram · a.sender a.port) with
    | none => exact .inl ⟨true, by simp only [hjob]; exact ⟨_, rfl⟩⟩
    | some job => exact .inl ⟨true, by simp only [hjob]; exact call_of_ok rfl⟩
  | processing => exact .inl ⟨true, _, rfl⟩
  | stopping => exact .inl ⟨true, call_of_ok rfl⟩
  | joining =>
    rcases join_or_loop t.dispatcher with ⟨r, hjoin⟩ | ⟨r, hloop⟩
    · exact .inl ⟨true, call_of_ok hjoin⟩
    · refine .inr ⟨rfl, ?_⟩
      unfold UdpThread.dispatchStep
      rw [hloop]
      exact ⟨_, rfl⟩
  | returned => exact absurd rfl hrunning

end UdpThread

/-! ## The login server -/

namespace LoginThread

variable {running : Bool} {t t' : LoginThread}

/-- The sockets of the clients are not blocking, and in `accept` there is a connection. -/
def Sound (t : LoginThread) : Prop :=
  (∀ c ∈ t.clients, c.blocking = false) ∧ (t.point = some .accepting → 0 < t.backlog)

theorem Sound.runStep {input : LoginInput} (ht : t.Sound)
    (h : t.runStep running input = some t') : t'.Sound := by
  obtain ⟨hclients, haccept⟩ := ht
  unfold LoginThread.runStep at h
  cases hp : t.point with
  | none => simp [hp] at h
  | some p =>
    rw [hp] at h haccept
    cases p with
    | atTest =>
      cases h
      cases running
      · exact ⟨hclients, nofun⟩
      · exact ⟨hclients, nofun⟩
    | waiting =>
      cases h
      refine ⟨hclients, fun hpoint => ?_⟩
      by_contra hempty
      rw [if_neg hempty] at hpoint
      cases hpoint
    | accepting =>
      by_cases hwait : t.backlog = 0 ∧ t.listenerBlocking = true
      · simp [hwait] at h
      · simp only [if_neg hwait, Option.some.injEq] at h
        subst h
        refine ⟨?_, nofun⟩
        show ∀ c ∈ (if input.accepted then t.clients ++ [{ blocking := false }] else t.clients),
          c.blocking = false
        by_cases haccepted : input.accepted
        · rw [if_pos haccepted]
          intro c hc
          rcases List.mem_append.1 hc with hc | hc
          · exact hclients c hc
          · rw [List.mem_singleton.1 hc]
        · rw [if_neg haccepted]
          exact hclients
    | serving ready =>
      cases ready with
      | nil =>
        cases h
        exact ⟨hclients, nofun⟩
      | cons k ready =>
        cases hc : t.clients[k]? with
        | none =>
          simp only [hc, Option.some.injEq] at h
          subst h
          exact ⟨hclients, nofun⟩
        | some c =>
          have hblocking := hclients c (List.mem_of_getElem? hc)
          simp only [hc, hblocking, Bool.false_eq_true, false_and, if_false, Option.some.injEq] at h
          subst h
          refine ⟨fun d hd => ?_, nofun⟩
          rcases List.mem_or_eq_of_mem_set hd with hd | rfl
          · exact hclients d hd
          · rfl
    | returned => cases h

/-- **Only sockets that do not block are received from, and only connections that are
there are accepted.** -/
theorem Sound.moves (ht : t.Sound) (h : t.Moves running t') : t'.Sound := by
  cases h with
  | stay => exact ht
  | create hp => exact ⟨ht.1, nofun⟩
  | run h => exact ht.runStep h
  | connect => exact ⟨ht.1, fun hp => Nat.lt_succ_of_lt (ht.2 hp)⟩
  | data client =>
    refine ⟨fun c hc => ?_, ht.2⟩
    obtain ⟨i, hi, rfl⟩ := List.mem_iff_getElem.1 hc
    have hlen : i < t.clients.length := by simpa using hi
    rw [List.getElem_modify]
    have hold := ht.1 t.clients[i] (List.getElem_mem hlen)
    by_cases hclient : client = i
    · rw [if_pos hclient]
      exact hold
    · rw [if_neg hclient]
      exact hold

/-- **The login thread can always take a step.** -/
theorem canStep_of_sound (ht : t.Sound) {p : LoginPoint} (hp : t.point = some p)
    (hrunning : p ≠ .returned) : ∃ input t', t.runStep running input = some t' := by
  obtain ⟨hclients, haccept⟩ := ht
  refine ⟨⟨true, false⟩, ?_⟩
  unfold LoginThread.runStep
  rw [hp]
  cases p with
  | atTest => exact ⟨_, rfl⟩
  | waiting => exact ⟨_, rfl⟩
  | accepting =>
    have hbacklog := haccept hp
    exact ⟨_, if_neg fun h => by omega⟩
  | serving ready =>
    cases ready with
    | nil => exact ⟨_, rfl⟩
    | cons k ready =>
      cases hc : t.clients[k]? with
      | none =>
        simp only [hc]
        exact ⟨_, rfl⟩
      | some c =>
        have hblocking := hclients c (List.mem_of_getElem? hc)
        simp only [hc, hblocking, Bool.false_eq_true, false_and, if_false]
        exact ⟨_, rfl⟩
  | returned => exact absurd rfl hrunning

end LoginThread

/-! ## Stopping -/

namespace ServiceManager

variable {s s' : ServiceManager}

/-- What has happened, oldest first. -/
abbrev History := List (Transition ServiceManager ManagerStep (List ManagerEvent))

/-- A service thread can take a step, or it waits for the thread of its dispatcher, and
that can. -/
def CanStep (s : ServiceManager) : ServiceName → Prop
  | .version => (∃ bound r, s.advance (.version bound) = some r) ∨
      (s.version.point = some .joining ∧ ∃ r, s.advance .versionDispatcher = some r)
  | .login => ∃ input r, s.advance (.login input) = some r
  | .matchmaking => (∃ bound r, s.advance (.matchmaking bound) = some r) ∨
      (s.matchmaking.point = some .joining ∧ ∃ r, s.advance .matchmakingDispatcher = some r)

/-- No service thread waits for input only, and neither does `StopServices`: it can go
on, or the thread it joins can. -/
def Unstuck (s : ServiceManager) : Prop :=
  (∀ service, s.Running service = true → s.CanStep service) ∧
    ∀ service, s.main = .joining service →
      (∃ r, s.advance .main = some r) ∨ s.CanStep service

/-- A datagram or a connection from outside. -/
def IsArrival : ManagerStep → Prop
  | .versionDatagram _ | .matchmakingDatagram _ | .connection => True
  | _ => False

/-- What holds in every state. -/
structure Sound (s : ServiceManager) : Prop where
  version : s.version.Sound VersionChecker.service
  login : s.login.Sound
  matchmaking : s.matchmaking.Sound MatchmakingServer.service

theorem sound_initial : initial.Sound where
  version := ⟨rfl, rfl⟩
  login := ⟨by simp [initial], nofun⟩
  matchmaking := ⟨rfl, rfl⟩

theorem Sound.advance {l : ManagerStep} {out : List ManagerEvent} (hs : s.Sound)
    (h : s.advance l = some (s', out)) : s'.Sound := by
  obtain ⟨hversion, hlogin, hmatchmaking, -⟩ := step_moves h
  exact ⟨hs.version.moves hversion, hs.login.moves hlogin, hs.matchmaking.moves hmatchmaking⟩

theorem sound_of_run {h : History}
    (hr : machine.Run initial h s) : s.Sound :=
  hr.invariant sound_initial fun _ _ _ _ hs hstep => hs.advance (step_iff.1 hstep)

/-- **The one place where a thread can be stuck.**  With sound threads, and something to
receive wherever the version service is in `receive`, nobody is. -/
theorem unstuck_of_sound (hs : s.Sound) (hfed : s.version.Fed) : s.Unstuck := by
  have hcan : ∀ service, s.Running service = true → s.CanStep service := by
    intro service hrunning
    cases service with
    | version =>
      cases hp : s.version.point with
      | none => simp [Running, hp] at hrunning
      | some p =>
        have hreturned : p ≠ .returned := by
          rintro rfl
          simp [Running, hp] at hrunning
        have hcan : s.version.CanStep VersionChecker.service s.running :=
          UdpThread.canStep_of_sound hs.version hp hreturned
            fun hreceive => .inr (hfed (hreceive ▸ hp))
        rcases hcan with ⟨bound, t, ht⟩ | ⟨hjoin, t, ht⟩
        · exact .inl ⟨bound, _, Option.map_eq_some_iff.2 ⟨t, ht, rfl⟩⟩
        · exact .inr ⟨hjoin, _, Option.map_eq_some_iff.2 ⟨t, ht, rfl⟩⟩
    | login =>
      cases hp : s.login.point with
      | none => simp [Running, hp] at hrunning
      | some p =>
        have hreturned : p ≠ .returned := by
          rintro rfl
          simp [Running, hp] at hrunning
        obtain ⟨input, t, ht⟩ : ∃ input t, s.login.runStep s.running input = some t :=
          LoginThread.canStep_of_sound hs.login hp hreturned
        exact ⟨input, _, Option.map_eq_some_iff.2 ⟨t, ht, rfl⟩⟩
    | matchmaking =>
      cases hp : s.matchmaking.point with
      | none => simp [Running, hp] at hrunning
      | some p =>
        have hreturned : p ≠ .returned := by
          rintro rfl
          simp [Running, hp] at hrunning
        have hblocking : p = .receiving → s.matchmaking.blocking = false := by
          rintro rfl
          have hsound := hs.matchmaking
          unfold UdpThread.Sound at hsound
          rw [hp] at hsound
          exact hsound
        have hcan : s.matchmaking.CanStep MatchmakingServer.service s.running :=
          UdpThread.canStep_of_sound hs.matchmaking hp hreturned
            fun hreceive => .inl (hblocking hreceive)
        rcases hcan with ⟨bound, t, ht⟩ | ⟨hjoin, t, ht⟩
        · exact .inl ⟨bound, _, Option.map_eq_some_iff.2 ⟨t, ht, rfl⟩⟩
        · exact .inr ⟨hjoin, _, Option.map_eq_some_iff.2 ⟨t, ht, rfl⟩⟩
  refine ⟨hcan, fun service hjoin => ?_⟩
  by_cases hrunning : s.Running service = true
  · exact .inr (hcan service hrunning)
  · refine .inl ⟨({ s with main := afterJoin service }, []), ?_⟩
    refine Option.map_eq_some_iff.2 ⟨{ s with main := afterJoin service }, ?_, rfl⟩
    rw [mainStep, hjoin]
    exact if_neg hrunning

/-- A version service that waits in `receive` with nothing to receive is stuck. -/
theorem not_unstuck (hs : s.Sound) (hp : s.version.point = some .receiving)
    (hbuffer : s.version.buffer = []) : ¬ s.Unstuck := by
  intro hunstuck
  have hblocking : s.version.blocking = true := by
    have hsound := hs.version
    unfold UdpThread.Sound at hsound
    rw [hp] at hsound
    exact hsound
  rcases hunstuck.1 .version (by simp [Running, hp]) with ⟨bound, s', hstep⟩ | ⟨hjoin, -⟩
  · obtain ⟨t, ht, -⟩ := Option.map_eq_some_iff.1 hstep
    simp [UdpThread.runStep, hp, hbuffer, hblocking] at ht
  · rw [hp] at hjoin
    cases hjoin

/-- **Shutdown gets stuck in one case only.**  A run in which `StopServices` clears the
flag is followed by states without a stuck thread, whatever the threads do next and for
as long as no datagram and no connection arrives, if and only if the version service did
not stand in `receive` with nothing to receive when the flag was cleared. -/
theorem shutdown_unstuck_iff {h : History}
    {t : Transition ServiceManager ManagerStep (List ManagerEvent)}
    (hr : machine.Run initial (h ++ [t]) s)
    (hlabel : t.label = .main) (hmain : t.pre.main = .clearing) :
    (∀ h' s', machine.Run s h' s' → (∀ u ∈ h', ¬ IsArrival u.label) → s'.Unstuck) ↔
      ¬ (t.pre.version.point = some .receiving ∧ t.pre.version.buffer = []) := by
  have hsound := sound_of_run hr
  obtain ⟨hpre, hstep, rfl⟩ := Machine.Run.concat_iff.1 hr
  have hclear : t.post = { t.pre with running := false, main := .joining .version } := by
    rw [step_iff, hlabel] at hstep
    obtain ⟨s', hpost, heq⟩ := Option.map_eq_some_iff.1 hstep
    rw [mainStep, hmain, Option.some.injEq] at hpost
    rw [hpost]
    exact (congrArg Prod.fst heq).symm
  constructor
  · rintro hall ⟨hp, hbuffer⟩
    refine not_unstuck hsound ?_ ?_ (hall [] _ .nil (by simp))
    · rw [hclear]
      exact hp
    · rw [hclear]
      exact hbuffer
  · intro hcond h' s' hr' _
    have hkept : s'.Sound ∧ s'.running = false ∧ s'.version.Fed := by
      refine hr'.invariant (P := fun s => s.Sound ∧ s.running = false ∧ s.version.Fed) ?_ ?_
      · refine ⟨hsound, by rw [hclear], ?_⟩
        rw [hclear]
        exact fun hp hbuffer => hcond ⟨hp, hbuffer⟩
      · rintro s l s' o ⟨hs, hflag, hfed⟩ hstep
        obtain ⟨hversion, -, -, hkeep⟩ := step_moves (step_iff.1 hstep)
        rw [hflag] at hversion
        exact ⟨hs.advance (step_iff.1 hstep), hkeep hflag, hfed.moves hversion⟩
    exact unstuck_of_sound hkept.1 hkept.2.2

/-! ### A shutdown that gets stuck -/

/-- What a step leads to, if it can be taken. -/
def taken (s : ServiceManager) (l : ManagerStep) : ServiceManager × List ManagerEvent :=
  (s.advance l).getD (s, [])

/-- Where a list of steps leads. -/
def after (s : ServiceManager) : List ManagerStep → ServiceManager
  | [] => s
  | l :: ls => after (s.taken l).1 ls

/-- The transitions on the way. -/
def trail (s : ServiceManager) : List ManagerStep → History
  | [] => []
  | l :: ls => ⟨s, l, (s.taken l).2, (s.taken l).1⟩ :: trail (s.taken l).1 ls

/-- The main thread clears the flag after these steps. -/
def clears (ls : List ManagerStep) : Transition ServiceManager ManagerStep (List ManagerEvent) :=
  ⟨after initial ls, .main, [], after initial (ls ++ [.main])⟩

/-- The three services are created and the line is read, before any of them takes a
step. -/
def early : List ManagerStep := [.main, .main, .main, .main]

/-- The version service comes to its `receive` before that. -/
def listening : List ManagerStep :=
  [.main, .main, .main, .version true, .version true, .version true, .version true, .main]

theorem run_early : machine.Run initial (trail initial early ++ [clears early])
    (clears early).post := by
  have hexec : machine.exec initial (early ++ [.main])
      = .ok (trail initial early ++ [clears early], (clears early).post) := rfl
  exact Machine.run_of_exec hexec

theorem shutdown_unstuck_iff_early : (clears early).post.running = false ∧
    ∀ h' s', machine.Run (clears early).post h' s' →
      (∀ u ∈ h', ¬ IsArrival u.label) → s'.Unstuck := by
  refine ⟨rfl, (shutdown_unstuck_iff run_early rfl rfl).2 ?_⟩
  rintro ⟨hp, -⟩
  cases hp

/-- The version service waits for a datagram when the flag is cleared.  If none comes, it
takes no step any more, and the main thread waits for it for ever. -/
theorem shutdown_stuck :
    machine.Run initial (trail initial listening ++ [clears listening]) (clears listening).post ∧
      (clears listening).label = .main ∧ (clears listening).pre.main = .clearing ∧
      (clears listening).post.running = false ∧
      (clears listening).post.Running .version = true ∧
      ¬ (clears listening).post.CanStep .version ∧
      (clears listening).post.main = .joining .version ∧
      (clears listening).post.advance .main = none := by
  have hexec : machine.exec initial (listening ++ [.main])
      = .ok (trail initial listening ++ [clears listening], (clears listening).post) := rfl
  refine ⟨Machine.run_of_exec hexec, rfl, rfl, rfl, rfl, ?_, rfl, rfl⟩
  have hnone : ∀ bound, (clears listening).post.advance (.version bound) = none := by
    intro bound
    rfl
  have hpoint : (clears listening).post.version.point = some .receiving := rfl
  rintro (⟨bound, s', hs'⟩ | ⟨hjoin, -⟩)
  · rw [hnone bound] at hs'
    cases hs'
  · rw [hpoint] at hjoin
    cases hjoin

end ServiceManager

end ServiceServer
