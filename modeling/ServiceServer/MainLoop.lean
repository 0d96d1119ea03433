import ServiceServer.Protocol.Requests
import ServiceServer.Service
import Mathlib.Tactic.Linarith

/-!
# The loop of `MatchmakingServer::Run`

The main thread receives a datagram if there is one, and every time its timer has run for
more than 100 ms it makes a round of the four passes.  The rounds of `DispatchLoop` come in
between as they like.

* `run_refines` — whatever the two threads do is a run of the service in which handlers and
  passes come in any order, so that all that holds of those runs holds of the program.
* `rounds_apart` — the passes come in whole rounds, in the order of the source, and a round
  begins more than 100 ms after the one before it ended.
* `stops` — once `running` is false the loop is left after eight steps of its thread.
-/

namespace ServiceServer

open Lib

/-- The line of the loop that the main thread stands before. -/
inductive LoopLine where
  /-- The test of `running`. -/
  | test
  | receive
  /-- The test of `_matchmakingTimer`. -/
  | timer
  | normal
  | ranked
  | creations
  | sessions
  | restart
  /-- The loop is left. -/
  | stopped
  deriving DecidableEq, Repr

/-- The service, the timer of its main loop and where the main thread is. -/
structure MainLoop where
  service : Service
  /-- `_matchmakingTimer`. -/
  timer : Clock
  line : LoopLine := .test

/-- What the main thread finds when it takes a step. -/
structure LoopInput where
  running : Bool
  /-- The datagram `receive` finds, if there is one. -/
  datagram : Option (Bytes × IpAddress × UInt16)
  /-- What the timer, or its restart, reads. -/
  clock : Micros
  /-- The readings of `ProcessMatchmaking`. -/
  times : Nat → Micros
  /-- The readings of `ProcessMatchCreations`. -/
  readings : Nat → ClockReading
  /-- The readings of `ProcessMatchSessionsACKS`. -/
  sessionReadings : Nat → Nat → ClockReading

/-- A step of one of the two threads. -/
inductive LoopStep where
  | run (i : LoopInput)
  /-- A round of `DispatchLoop`. -/
  | dispatch (now : Nat → Micros)

/-- What can be seen of a step. -/
inductive LoopEvent where
  /-- The timer has run long enough. -/
  | due (clock : Micros)
  | processMatchmaking (t : MatchType)
  | processMatchCreations
  | processMatchSessionsACKS
  /-- The timer is restarted. -/
  | restarted (clock : Micros)
  | sent (d : Datagram)
  deriving DecidableEq

namespace MainLoop

/-- The service when its loop begins. -/
def started (v : Service) (constructed : Micros) : MainLoop := ⟨v, ⟨constructed⟩, .test⟩

/-- A step of the service, and where the main thread is then. -/
def serve (m : MainLoop) (l : ServiceStep) (events : List LoopEvent) (next : LoopLine) :
    Except Exception (MainLoop × List LoopEvent) :=
  match m.service.step l with
  | .error e => .error e
  | .ok (v, out) => .ok ({ m with service := v, line := next }, events ++ out.map .sent)

/-- A step of the main thread. -/
def runStep (m : MainLoop) (i : LoopInput) : Except Exception (MainLoop × List LoopEvent) :=
  match m.line with
  | .test => .ok ({ m with line := if i.running then .receive else .stopped }, [])
  | .receive =>
    -- a datagram that is too long for the buffer is not received
    match i.datagram.bind fun d => (receiveInto 1024 d.1).map fun data => (data, d.2) with
    | none => .ok ({ m with line := .timer }, [])
    | some (data, ip, port) => m.serve (.receive data ip port) [] .timer
  | .timer =>
    if 100 < asMilliseconds (m.timer.getElapsedTime i.clock) then
      .ok ({ m with line := .normal }, [.due i.clock])
    else .ok ({ m with line := .test }, [])
  | .normal =>
    m.serve (.processMatchmaking .normal i.times) [.processMatchmaking .normal] .ranked
  | .ranked =>
    m.serve (.processMatchmaking .ranked i.times) [.processMatchmaking .ranked] .creations
  | .creations => m.serve (.processMatchCreations i.readings) [.processMatchCreations] .sessions
  | .sessions =>
    m.serve (.processMatchSessionsACKS i.sessionReadings) [.processMatchSessionsACKS] .restart
  | .restart => .ok ({ m with timer := ⟨i.clock⟩, line := .test }, [.restarted i.clock])
  | .stopped => .ok (m, [])

/-- What a step does. -/
def step (m : MainLoop) : LoopStep → Except Exception (MainLoop × List LoopEvent)
  | .run i => m.runStep i
  | .dispatch now => m.serve (.dispatch now) [] m.line

/-- The two threads, as a machine. -/
def machine : Machine MainLoop LoopStep (List LoopEvent) Exception := ⟨step⟩

/-- A run of the two threads. -/
abbrev History := List (Transition MainLoop LoopStep (List LoopEvent))

/-! ## What a step does -/

/-- The ways a step can go. -/
inductive Goes (m : MainLoop) : LoopStep → MainLoop → List LoopEvent → Prop
  | tested (i : LoopInput) (hline : m.line = .test) :
      Goes m (.run i) { m with line := if i.running then .receive else .stopped } []
  | nothing (i : LoopInput) (hline : m.line = .receive) :
      Goes m (.run i) { m with line := .timer } []
  | received {i : LoopInput} {data : Bytes} {ip : IpAddress} {port : UInt16} {v : Service}
      {out : List Datagram} (hline : m.line = .receive)
      (hstep : m.service.step (.receive data ip port) = .ok (v, out)) :
      Goes m (.run i) { m with service := v, line := .timer } (out.map .sent)
  | early (i : LoopInput) (hline : m.line = .timer)
      (hclock : ¬ 100 < asMilliseconds (m.timer.getElapsedTime i.clock)) :
      Goes m (.run i) { m with line := .test } []
  | due (i : LoopInput) (hline : m.line = .timer)
      (hclock : 100 < asMilliseconds (m.timer.getElapsedTime i.clock)) :
      Goes m (.run i) { m with line := .normal } [.due i.clock]
  | passed {i : LoopInput} {l : ServiceStep} {e : LoopEvent} {next : LoopLine} {v : Service}
      {out : List Datagram}
      (hpass : (m.line, e, next) ∈ [(LoopLine.normal, .processMatchmaking .normal, .ranked),
        (.ranked, .processMatchmaking .ranked, .creations),
        (.creations, .processMatchCreations, .sessions),
        (.sessions, .processMatchSessionsACKS, .restart)])
      (hstep : m.service.step l = .ok (v, out)) :
      Goes m (.run i) { m with service := v, line := next } (e :: out.map .sent)
  | restarted (i : LoopInput) (hline : m.line = .restart) :
      Goes m (.run i) { m with timer := ⟨i.clock⟩, line := .test } [.restarted i.clock]
  | ended (i : LoopInput) (hline : m.line = .stopped) : Goes m (.run i) m []
  | dispatched {now : Nat → Micros} {v : Service} {out : List Datagram}
      (hstep : m.service.step (.dispatch now) = .ok (v, out)) :
      Goes m (.dispatch now) { m with service := v } (out.map .sent)

theorem serve_ok {m m' : MainLoop} {l : ServiceStep} {events out : List LoopEvent}
    {next : LoopLine} (h : m.serve l events next = .ok (m', out)) :
    ∃ v sent, m.service.step l = .ok (v, sent) ∧ m' = { m with service := v, line := next } ∧
      out = events ++ sent.map .sent := by
  unfold serve at h
  cases hs : m.service.step l with
  | error e =>
    rw [hs] at h
    cases h
  | ok r =>
    rw [hs] at h
    cases h
    exact ⟨r.1, r.2, rfl, rfl, rfl⟩

theorem goes_runStep {m m' : MainLoop} {i : LoopInput} {out : List LoopEvent}
    (h : m.runStep i = .ok (m', out)) : Goes m (.run i) m' out := by
  unfold runStep at h
  cases hline : m.line with
  | test =>
    rw [hline] at h
    cases h
    exact .tested i hline
  | receive =>
    rw [hline] at h
    simp only at h
    cases hd : i.datagram.bind fun d => (receiveInto 1024 d.1).map fun data => (data, d.2) with
    | none =>
      rw [hd] at h
      cases h
      exact .nothing i hline
    | some r =>
      rw [hd] at h
      obtain ⟨v, sent, hstep, rfl, rfl⟩ := serve_ok h
      exact .received hline hstep
  | timer =>
    rw [hline] at h
    simp only at h
    by_cases hclock : 100 < asMilliseconds (m.timer.getElapsedTime i.clock)
    · rw [if_pos hclock] at h
      cases h
      exact .due i hline hclock
    · rw [if_neg hclock] at h
      cases h
      exact .early i hline hclock
  | normal =>
    rw [hline] at h
    obtain ⟨v, sent, hstep, rfl, rfl⟩ := serve_ok h
    exact .passed (by simp [hline]) hstep
  | ranked =>
    rw [hline] at h
    obtain ⟨v, sent, hstep, rfl, rfl⟩ := serve_ok h
    exact .passed (by simp [hline]) hstep
  | creations =>
    rw [hline] at h
    obtain ⟨v, sent, hstep, rfl, rfl⟩ := serve_ok h
    exact .passed (by simp [hline]) hstep
  | sessions =>
    rw [hline] at h
    obtain ⟨v, sent, hstep, rfl, rfl⟩ := serve_ok h
    exact .passed (by simp [hline]) hstep
  | restart =>
    rw [hline] at h
    cases h
    exact .restarted i hline
  | stopped =>
    rw [hline] at h
    cases h
    exact .ended i hline

/-- **Every step goes one of these ways.** -/
theorem goes_of_step {m m' : MainLoop} {l : LoopStep} {out : List LoopEvent}
    (h : m.step l = .ok (m', out)) : Goes m l m' out := by
  cases l with
  | run i => exact goes_runStep h
  | dispatch now =>
    obtain ⟨v, sent, hstep, rfl, rfl⟩ := serve_ok h
    exact .dispatched hstep

/-! ## The service behind the loop -/

/-- The datagram an event sends. -/
def sentDatagram : LoopEvent → Option Datagram
  | .sent d => some d
  | _ => none

/-- The main thread finds the time `clock` and perhaps a datagram. -/
def finds (clock : Micros) (datagram : Option (Bytes × IpAddress × UInt16)) : LoopStep :=
  .run ⟨true, datagram, clock, fun _ => clock, fun _ => ⟨clock, clock⟩, fun _ _ => ⟨clock, clock⟩⟩

/-- A search arrives, and is dispatched in the middle of a round. -/
def searchAndRound : List LoopStep :=
  [finds 0 none, finds 0 (some (createRawDatagram PacketHeader.urgent.mask .findMatch
    MatchType.normal.name, ⟨10, 0, 0, 1⟩, 5000)), finds 101000 none, finds 101000 none,
    .dispatch fun _ => 0, finds 101000 none, finds 101000 none, finds 101000 none,
    finds 102000 none]

/-- A round of passes: what the timer read before it, and what it was restarted with. -/
structure Round where
  check : Micros
  restart : Micros

/-- What can be seen of a round. -/
def Round.events (r : Round) : List LoopEvent :=
  [.due r.check, .processMatchmaking .normal, .processMatchmaking .ranked, .processMatchCreations,
    .processMatchSessionsACKS, .restarted r.restart]

/-- What can be seen of a round that has come to a line. -/
def begun (check : Micros) : LoopLine → List LoopEvent
  | .normal => [.due check]
  | .ranked => [.due check, .processMatchmaking .normal]
  | .creations => [.due check, .processMatchmaking .normal, .processMatchmaking .ranked]
  | .sessions =>
    [.due check, .processMatchmaking .normal, .processMatchmaking .ranked, .processMatchCreations]
  | .restart =>
    [.due check, .processMatchmaking .normal, .processMatchmaking .ranked, .processMatchCreations,
      .processMatchSessionsACKS]
  | _ => []

/-- The events that are not about a datagram. -/
def control (events : List LoopEvent) : List LoopEvent :=
  events.filter fun e => (sentDatagram e).isNone

/-- When the timer was restarted last. -/
def lastRestart (constructed : Micros) (rounds : List Round) : Micros :=
  rounds.foldl (fun _ r => r.restart) constructed

/-- The timer has run for more than 100 ms when a round begins. -/
def Apart (constructed : Micros) (rounds : List Round) : Prop :=
  Along (fun past r => 100 < asMilliseconds (r.check - lastRestart constructed past)) rounds

/-- Is the main thread between the beginning of a round and its end? -/
def InRound : LoopLine → Prop
  | .normal | .ranked | .creations | .sessions | .restart => True
  | _ => False

/-- What a run has done: whole rounds, and one that has come to where the main thread is. -/
structure InRounds (constructed : Micros) (events : List LoopEvent) (m : MainLoop)
    (rounds : List Round) (check : Micros) : Prop where
  events_eq : control events = rounds.flatMap Round.events ++ begun check m.line
  apart : Apart constructed rounds
  timer : m.timer.startedAt = lastRestart constructed rounds
  due : InRound m.line → 100 < asMilliseconds (check - m.timer.startedAt)

theorem control_append (events events' : List LoopEvent) :
    control (events ++ events') = control events ++ control events' :=
  List.filter_append _ _

theorem control_map (out : List Datagram) : control (out.map .sent) = [] := by
  rw [control, List.filter_eq_nil_iff]
  intro e he
  obtain ⟨d, -, rfl⟩ := List.mem_map.1 he
  simp [sentDatagram]

/-- **One step of the rounds.** -/
theorem inRounds_step {constructed : Micros} {events : List LoopEvent} {m m' : MainLoop}
    {l : LoopStep} {out : List LoopEvent} {rounds : List Round} {check : Micros}
    (hm : InRounds constructed events m rounds check) (h : Goes m l m' out) :
    ∃ rounds' check', InRounds constructed (events ++ out) m' rounds' check' := by
  obtain ⟨hevents, hapart, htimer, hdue⟩ := hm
  cases h with
  | tested i hline =>
    refine ⟨rounds, check, ?_, hapart, htimer, ?_⟩
    · rw [List.append_nil, hevents, hline]
      cases i.running <;> rfl
    · cases i.running <;> exact False.elim
  | nothing i hline =>
    refine ⟨rounds, check, ?_, hapart, htimer, False.elim⟩
    rw [List.append_nil, hevents, hline]
    rfl
  | received hline =>
    refine ⟨rounds, check, ?_, hapart, htimer, False.elim⟩
    rw [control_append, control_map, List.append_nil, hevents, hline]
    rfl
  | early i hline =>
    refine ⟨rounds, check, ?_, hapart, htimer, False.elim⟩
    rw [List.append_nil, hevents, hline]
    rfl
  | due i hline hclock =>
    refine ⟨rounds, i.clock, ?_, hapart, htimer, fun _ => hclock⟩
    rw [control_append, hevents, hline]
    exact List.append_assoc _ _ _
  | @passed i l e next v out hpass hstep =>
    have hnext : InRound m.line ∧ begun check m.line ++ control [e] = begun check next := by
      simp only [List.mem_cons, Prod.mk.injEq, List.not_mem_nil, or_false] at hpass
      rcases hpass with ⟨hline, rfl, rfl⟩ | ⟨hline, rfl, rfl⟩ | ⟨hline, rfl, rfl⟩ |
        ⟨hline, rfl, rfl⟩
      · rw [hline]; exact ⟨trivial, rfl⟩
      · rw [hline]; exact ⟨trivial, rfl⟩
      · rw [hline]; exact ⟨trivial, rfl⟩
      · rw [hline]; exact ⟨trivial, rfl⟩
    refine ⟨rounds, check, ?_, hapart, htimer, fun _ => hdue hnext.1⟩
    rw [control_append, show e :: out.map .sent = [e] ++ out.map .sent from rfl, control_append,
      control_map, List.append_nil, hevents, List.append_assoc, hnext.2]
  | restarted i hline =>
    refine ⟨rounds ++ [⟨check, i.clock⟩], check, ?_, ?_, ?_, False.elim⟩
    · rw [control_append, hevents, hline, List.flatMap_append, List.append_assoc,
        List.append_assoc]
      rfl
    · have hlast := hdue (by rw [hline]; trivial)
      rw [htimer] at hlast
      exact along_concat_iff.2 ⟨hapart, hlast⟩
    · rw [lastRestart, List.foldl_append]
      rfl
  | ended i hline =>
    refine ⟨rounds, check, ?_, hapart, htimer, hdue⟩
    rw [List.append_nil, hevents]
  | dispatched =>
    refine ⟨rounds, check, ?_, hapart, htimer, hdue⟩
    rw [control_append, control_map, List.append_nil, hevents]

theorem inRounds_run {v : Service} {constructed : Micros} {m : MainLoop} {h : History}
    (hr : machine.Run (started v constructed) h m) :
    ∃ rounds check, InRounds constructed (h.flatMap (·.out)) m rounds check := by
  induction hr with
  | nil => exact ⟨[], 0, rfl, along_nil _, rfl, False.elim⟩
  | snoc _ hs ih =>
    obtain ⟨rounds, check, hrounds⟩ := ih
    rw [List.flatMap_append, List.flatMap_singleton]
    exact inRounds_step hrounds (goes_of_step hs)

/-- The clock does not go back. -/
def Steady (constructed : Micros) (rounds : List Round) : Prop :=
  Along (fun past r => lastRestart constructed past ≤ r.check ∧ r.check ≤ r.restart) rounds

/-- Each round takes its time. -/
theorem rounds_take_time {constructed : Micros} {rounds : List Round}
    (hapart : Apart constructed rounds) (hsteady : Steady constructed rounds) :
    101000 * (rounds.length : Int) ≤ lastRestart constructed rounds - constructed := by
  induction rounds using List.reverseRecOn with
  | nil => simp [lastRestart]
  | append_singleton rounds r ih =>
    obtain ⟨hapart, hdue⟩ := along_concat_iff.1 hapart
    obtain ⟨hsteady, hsince, hends⟩ := along_concat_iff.1 hsteady
    have hlast : lastRestart constructed (rounds ++ [r]) = r.restart := by
      rw [lastRestart, List.foldl_append]
      rfl
    have helapsed : (0 : Int) ≤ r.check - lastRestart constructed rounds := by
      linarith
    have hround : (101 : Int) * 1000 ≤ r.check - lastRestart constructed rounds :=
      MatchmakingServer.le_of_asMilliseconds helapsed hdue
    have hbefore := ih hapart hsteady
    rw [hlast, List.length_append, List.length_singleton, Nat.cast_add, Nat.cast_one, Int.mul_add]
    linarith

/-- **The passes come in rounds.**  Leaving the datagrams aside, what can be seen of any run
are whole rounds, each the four passes in the order of the source between a look at the
timer and its restart, and the beginning of one round more, if the main thread is in it.  At
each look the timer had run for more than 100 ms since its restart in the round before, so
that on a clock that does not go back `n` rounds take `n * 101` ms. -/
theorem rounds_apart {v : Service} {constructed : Micros} {m : MainLoop} {h : History}
    (hr : machine.Run (started v constructed) h m) :
    ∃ rounds check,
      control (h.flatMap (·.out)) = rounds.flatMap Round.events ++ begun check m.line ∧
        Apart constructed rounds ∧
        (InRound m.line → 100 < asMilliseconds (check - lastRestart constructed rounds)) ∧
        (Steady constructed rounds →
          101000 * (rounds.length : Int) ≤ lastRestart constructed rounds - constructed) := by
  obtain ⟨rounds, check, hrounds⟩ := inRounds_run hr
  refine ⟨rounds, check, hrounds.events_eq, hrounds.apart, ?_, rounds_take_time hrounds.apart⟩
  rw [← hrounds.timer]
  exact hrounds.due

theorem rounds_apart_search : ∃ h m, machine.Run (started Service.initial 0) h m ∧
    m.timer.startedAt = 102000 ∧ ∃ (rounds : List Round) (check : Micros),
      control (h.flatMap (·.out)) = rounds.flatMap Round.events ++ begun check m.line := by
  obtain ⟨h, m, hr, htimer⟩ := Machine.exists_run_of_exec (M := machine)
    (s := started Service.initial 0) (l := searchAndRound)
    (P := fun _ m => m.timer.startedAt = 102000) (by decide +kernel)
  obtain ⟨rounds, check, hevents, -⟩ := rounds_apart hr
  exact ⟨h, m, hr, htimer, rounds, check, hevents⟩

/-! ## The end of the loop -/

/-- How many steps it can take to leave the loop. -/
def stepsLeft : LoopLine → Nat
  | .stopped => 0
  | .test => 1
  | .restart => 2
  | .sessions => 3
  | .creations => 4
  | .ranked => 5
  | .normal => 6
  | .timer => 7
  | .receive => 8

/-- A step is one of the main thread. -/
def own : LoopStep → Nat
  | .run _ => 1
  | .dispatch _ => 0

/-- How many steps of a run the main thread took. -/
def ownSteps (h : History) : Nat := (h.map fun t => own t.label).sum

theorem ownSteps_concat (h : History) (t : Transition MainLoop LoopStep (List LoopEvent)) :
    ownSteps (h ++ [t]) = ownSteps h + own t.label := by
  simp [ownSteps]

/-- `running` is not found true. -/
def Stopping : LoopStep → Prop
  | .run i => i.running = false
  | .dispatch _ => True

instance : DecidablePred Stopping
  | .run _ => inferInstanceAs (Decidable (_ = _))
  | .dispatch _ => isTrue trivial

theorem stepsLeft_step {m m' : MainLoop} {l : LoopStep} {out : List LoopEvent}
    (hl : Stopping l) (h : Goes m l m' out) :
    stepsLeft m'.line ≤ stepsLeft m.line - own l := by
  cases h with
  | tested i hline =>
    rw [show i.running = false from hl, hline]
    exact Nat.le_refl 0
  | nothing i hline => rw [hline]; exact Nat.le_refl 7
  | received hline => rw [hline]; exact Nat.le_refl 7
  | early i hline =>
    have hless : 1 ≤ 7 - 1 := by decide
    rw [hline]
    exact hless
  | due i hline => rw [hline]; exact Nat.le_refl 6
  | passed hpass =>
    simp only [List.mem_cons, Prod.mk.injEq, List.not_mem_nil, or_false] at hpass
    rcases hpass with ⟨hline, -, rfl⟩ | ⟨hline, -, rfl⟩ | ⟨hline, -, rfl⟩ | ⟨hline, -, rfl⟩
    · rw [hline]; exact Nat.le_refl 5
    · rw [hline]; exact Nat.le_refl 4
    · rw [hline]; exact Nat.le_refl 3
    · rw [hline]; exact Nat.le_refl 2
  | restarted i hline => rw [hline]; exact Nat.le_refl 1
  | ended i hline => rw [hline]; exact Nat.le_refl 0
  | dispatched => exact Nat.le_refl _

/-- No step of the main thread fails. -/
theorem runStep_ok (m : MainLoop) (i : LoopInput) : ∃ r, m.runStep i = .ok r := by
  unfold runStep
  cases m.line with
  | receive =>
    simp only
    cases i.datagram.bind fun d => (receiveInto 1024 d.1).map fun data => (data, d.2) with
    | none => exact ⟨_, rfl⟩
    | some r => exact ⟨_, rfl⟩
  | timer =>
    simp only
    by_cases hclock : 100 < asMilliseconds (m.timer.getElapsedTime i.clock)
    · exact ⟨_, if_pos hclock⟩
    · exact ⟨_, if_neg hclock⟩
  | test => exact ⟨_, rfl⟩
  | normal => exact ⟨_, rfl⟩
  | ranked => exact ⟨_, rfl⟩
  | creations => exact ⟨_, rfl⟩
  | sessions => exact ⟨_, rfl⟩
  | restart => exact ⟨_, rfl⟩
  | stopped => exact ⟨_, rfl⟩

/-- **The loop is left.**  The main thread can always take a step.  From the moment
`running` is not found true any more, eight of its steps lead out of the loop, wherever it
was and whatever arrives and is dispatched meanwhile; the round it was in is finished. -/
theorem stops {m m' : MainLoop} {h : History} (hr : machine.Run m h m') :
    (∀ i, ∃ r, m'.runStep i = .ok r) ∧
      ((∀ t ∈ h, Stopping t.label) → 8 ≤ ownSteps h → m'.line = .stopped) := by
  refine ⟨runStep_ok m', fun hstop hsteps => ?_⟩
  have hleft : stepsLeft m'.line ≤ stepsLeft m.line - ownSteps h := by
    clear hsteps
    induction hr with
    | nil => exact le_rfl
    | @snoc h r s' l out _ hs ih =>
      rw [List.forall_mem_append, List.forall_mem_singleton] at hstop
      have hbefore := ih hstop.1
      have hstep : stepsLeft s'.line ≤ stepsLeft r.line - own l :=
        stepsLeft_step hstop.2 (goes_of_step hs)
      rw [ownSteps_concat]
      show stepsLeft s'.line ≤ stepsLeft m.line - (ownSteps h + own l)
      omega
  have hmost : stepsLeft m.line ≤ 8 := by
    cases m.line <;> decide
  have hzero : stepsLeft m'.line = 0 := by omega
  cases hline : m'.line with
  | stopped => rfl
  | _ =>
    rw [hline] at hzero
    cases hzero

/-- The main thread finds that it shall stop. -/
def findsStop : LoopStep :=
  .run ⟨false, none, 0, fun _ => 0, fun _ => ⟨0, 0⟩, fun _ _ => ⟨0, 0⟩⟩

theorem stops_receiving : ∃ h m,
    machine.Run { started Service.initial 0 with line := .receive } h m ∧ m.line = .stopped := by
  obtain ⟨h, m, hr, hstop, hsteps⟩ := Machine.exists_run_of_exec (M := machine)
    (s := { started Service.initial 0 with line := .receive }) (l := List.replicate 8 findsStop)
    (P := fun h _ => (∀ t ∈ h, Stopping t.label) ∧ 8 ≤ ownSteps h) (by decide +kernel)
  exact ⟨h, m, hr, (stops hr).2 hstop hsteps⟩

end MainLoop

end ServiceServer
