import ServiceServer.Dispatcher.Waiting
import ServiceServer.Threads.Shutdown

/-!
# How a shutdown ends (`ServiceManager::StopServices`)

Once `_running` is cleared, every thread has only so many steps before it: the round it is in,
the last test of its loop, and for a service with a dispatcher the `Stop` that joins it.

* `left` — the steps that are left, at most.
* `shutdown_ends` — every step that counts brings the end nearer, and until `StopServices`
  has returned there is one to take.
* `all_ended` — when it has returned, every thread has ended, and only input can still come.
-/

namespace ServiceServer

open Lib

/-! ## The dispatcher's thread, once it is told to stop -/

namespace RunningDispatcher

/-- The turns until the thread has returned. -/
def turnsLeft : Option LoopPoint → Nat
  | some .atLock => 4
  | some (.holding _) => 3
  | some (.handling _) => 2
  | some .atTest => 1
  | some .returned | none => 0

theorem running_turn {H : Type} {d d' : RunningDispatcher H} {out : List (DispatchEvent H)}
    (h : Turn d d' out) : d'.running = d.running := by
  cases h <;> rfl

end RunningDispatcher

/-! ## A service that listens to datagrams -/

namespace UdpThread

variable {H : Type} {k : UdpService H} {running : Bool} {t t' : UdpThread H}
  {out : List (DispatchEvent H)}

/-- The dispatcher has no thread before `Start` and behind `Stop`, and is told to stop before
it is joined. -/
def Stopped (t : UdpThread H) : Prop :=
  match t.point with
  | none | some .initializing | some .subscribing | some .starting | some .returned =>
    t.dispatcher.thread = none ∧ t.dispatcher.running = false
  | some .joining => t.dispatcher.running = false
  | some _ => True

/-- The steps that are left to the thread and to that of its dispatcher, once the flag is
cleared. -/
def left (t : UdpThread H) : Nat :=
  match t.point with
  | none | some .returned => 0
  | some .joining => 1 + RunningDispatcher.turnsLeft t.dispatcher.thread
  | some .stopping => 6
  | some .atTest => 7
  | some .processing | some .starting => 8
  | some (.received _) | some .subscribing => 9
  | some .receiving | some .initializing => 10

/-- What a step of the thread does to the dispatcher, where it does not run. -/
structure DispatcherSpec (t t' : UdpThread H) : Prop where
  before : t.point = some .initializing ∨ t.point = some .subscribing →
    t'.dispatcher.thread = t.dispatcher.thread ∧ t'.dispatcher.running = t.dispatcher.running
  told : t.point = some .stopping → t'.dispatcher.running = false
  joined : t.point = some .joining →
    t'.dispatcher.thread = none ∧ t'.dispatcher.running = t.dispatcher.running

/-- A dispatcher whose `Stop` returns has no thread. -/
theorem joined_of_step {d d' : RunningDispatcher H}
    (h : d.step .join = .ok (d', out)) : d'.thread = none ∧ d'.running = d.running := by
  rw [RunningDispatcher.step] at h
  split at h
  · rename_i hnone
    cases h
    exact ⟨hnone, rfl⟩
  · cases h
    exact ⟨rfl, rfl⟩
  · cases h

theorem runStep_dispatcher {bound : Bool} (h : t.runStep k running bound = some (t', out)) :
    DispatcherSpec t t' := by
  unfold UdpThread.runStep at h
  cases hp : t.point with
  | none => simp [hp] at h
  | some p =>
    rw [hp] at h
    cases p with
    | initializing =>
      cases bound <;> cases h <;> exact ⟨fun _ => ⟨rfl, rfl⟩, by simp [hp], by simp [hp]⟩
    | subscribing =>
      cases h
      exact ⟨fun _ => ⟨rfl, rfl⟩, by simp [hp], by simp [hp]⟩
    | stopping =>
      cases h
      exact ⟨by simp [hp], fun _ => rfl, by simp [hp]⟩
    | joining =>
      simp only [call] at h
      cases hstep : t.dispatcher.step .join with
      | error e => simp [hstep] at h
      | ok r =>
        simp only [hstep, Option.some.injEq, Prod.mk.injEq] at h
        obtain ⟨rfl, -⟩ := h
        exact ⟨by simp [hp], by simp [hp], fun _ => joined_of_step hstep⟩
    | starting | atTest | receiving | received a | processing | returned =>
      exact ⟨by simp [hp], by simp [hp], by simp [hp]⟩

theorem stopped_afterReceive (hpoint : t.point = some (afterReceive k)) : t.Stopped := by
  unfold Stopped
  rcases afterReceive_cases k with h | h <;> rw [hpoint, h] <;> trivial

theorem Stopped.runStep {bound : Bool} (ht : t.Stopped)
    (h : t.runStep k running bound = some (t', out)) : t'.Stopped := by
  obtain ⟨p, p', hpre, hpost, hfollows, -⟩ := runStep_spec h
  obtain ⟨hbefore, htold, hjoined⟩ := runStep_dispatcher h
  unfold Stopped at ht
  rw [hpre] at ht hbefore htold hjoined
  cases hfollows with
  | bound | notBound =>
    unfold Stopped
    rw [hpost]
    obtain ⟨hthread, hrunning⟩ := hbefore (.inl rfl)
    exact ⟨hthread.trans ht.1, hrunning.trans ht.2⟩
  | subscribed =>
    unfold Stopped
    rw [hpost]
    obtain ⟨hthread, hrunning⟩ := hbefore (.inr rfl)
    exact ⟨hthread.trans ht.1, hrunning.trans ht.2⟩
  | nothing => exact stopped_afterReceive hpost
  | enqueued a => exact stopped_afterReceive hpost
  | stopped =>
    unfold Stopped
    rw [hpost]
    exact htold rfl
  | joined =>
    unfold Stopped
    rw [hpost]
    obtain ⟨hthread, hrunning⟩ := hjoined rfl
    exact ⟨hthread, hrunning.trans ht⟩
  | started | goesOn _ | ends _ | received _ | passed =>
    unfold Stopped
    rw [hpost]
    trivial

/-- A turn of the dispatcher's thread, of which there is one then. -/
theorem turn_of_dispatchStep (h : t.dispatchStep = some (t', out)) :
    t.dispatcher.thread ≠ none ∧ t'.point = t.point ∧
      RunningDispatcher.Turn t.dispatcher t'.dispatcher out := by
  obtain ⟨r, hloop, heq⟩ := Option.map_eq_some_iff.1 h
  cases heq
  refine ⟨fun hnone => ?_, rfl, RunningDispatcher.turn_of_loopStep hloop⟩
  rw [RunningDispatcher.loopStep, hnone] at hloop
  cases hloop

theorem Stopped.dispatchStep (ht : t.Stopped) (h : t.dispatchStep = some (t', out)) :
    t'.Stopped := by
  obtain ⟨hthread, hpoint, hturn⟩ := turn_of_dispatchStep h
  unfold Stopped at ht ⊢
  rw [hpoint]
  cases hp : t.point with
  | none =>
    rw [hp] at ht
    exact absurd ht.1 hthread
  | some p =>
    rw [hp] at ht
    cases p with
    | initializing | subscribing | starting | returned => exact absurd ht.1 hthread
    | joining => exact (RunningDispatcher.running_turn hturn).trans ht
    | atTest | receiving | received a | processing | stopping => trivial

theorem Stopped.moves (ht : t.Stopped) (h : t.Moves k running t') : t'.Stopped := by
  cases h with
  | stay => exact ht
  | create hp =>
    unfold Stopped at ht
    rw [hp] at ht
    exact ht
  | run h => exact ht.runStep h
  | dispatch h => exact ht.dispatchStep h
  | arrive a => exact ht

/-- A thread that was created stays so, and one that has ended stays so. -/
theorem Moves.point (h : t.Moves k running t') :
    (t.point ≠ none → t'.point ≠ none) ∧
      (t.point = some .returned → t'.point = some .returned) := by
  cases h with
  | stay => exact ⟨id, id⟩
  | create hp => exact ⟨fun hne => absurd hp hne, fun hended => by simp [hp] at hended⟩
  | run h =>
    obtain ⟨p, p', hpre, hpost, hfollows, -⟩ := runStep_spec h
    refine ⟨fun _ => by simp [hpost], fun hended => ?_⟩
    rw [hpre, Option.some.injEq] at hended
    subst hended
    cases hfollows
  | dispatch h =>
    rw [(turn_of_dispatchStep h).2.1]
    exact ⟨id, id⟩
  | arrive a => exact ⟨id, id⟩

/-! ### What is left -/

end UdpThread

/-! ## The login server -/

namespace LoginThread

variable {t t' : LoginThread}

/-- The steps that are left to the thread, once the flag is cleared. -/
def left (t : LoginThread) : Nat :=
  match t.point with
  | none | some .returned => 0
  | some .atTest => 1
  | some .accepting => 2
  | some (.serving ready) => ready.length + 2
  | some .waiting => t.clients.length + 3

/-- A step leads from somewhere before the end to somewhere. -/
theorem point_of_runStep {running : Bool} {input : LoginInput}
    (h : t.runStep running input = some t') :
    t.point ≠ some .returned ∧ t'.point ≠ none := by
  unfold LoginThread.runStep at h
  cases hp : t.point with
  | none => simp [hp] at h
  | some p =>
    rw [hp] at h
    cases p with
    | atTest | waiting =>
      cases h
      simp
    | accepting =>
      split_ifs at h
      all_goals
        cases h
        simp
    | serving ready =>
      cases ready with
      | nil =>
        cases h
        simp
      | cons k ready =>
        cases hc : t.clients[k]? with
        | none =>
          simp only [hc, Option.some.injEq] at h
          subst h
          simp
        | some c =>
          simp only [hc] at h
          split_ifs at h
          cases h
          simp
    | returned => cases h

theorem Moves.point {running : Bool} (h : t.Moves running t') :
    (t.point ≠ none → t'.point ≠ none) ∧
      (t.point = some .returned → t'.point = some .returned) := by
  cases h with
  | stay => exact ⟨id, id⟩
  | create hp => exact ⟨fun hne => absurd hp hne, fun hended => by simp [hp] at hended⟩
  | run h =>
    obtain ⟨hbefore, hafter⟩ := point_of_runStep h
    exact ⟨fun _ => hafter, fun hended => absurd hended hbefore⟩
  | connect => exact ⟨id, id⟩
  | data client => exact ⟨id, id⟩

end LoginThread

/-! ## The main thread -/

namespace ServiceManager

variable {s s' : ServiceManager}

/-- The steps the main thread has behind it. -/
def done : MainPoint → Nat
  | .creating .version => 0
  | .creating .login => 1
  | .creating .matchmaking => 2
  | .atPrompt => 3
  | .clearing => 4
  | .joining .version => 5
  | .joining .login => 6
  | .joining .matchmaking => 7
  | .returned => 8

/-- The place of a service among the three. -/
def index : ServiceName → Nat
  | .version => 0
  | .login => 1
  | .matchmaking => 2

/-- The thread of a service was created. -/
def Created (s : ServiceManager) : ServiceName → Prop
  | .version => s.version.point ≠ none
  | .login => s.login.point ≠ none
  | .matchmaking => s.matchmaking.point ≠ none

/-- The thread of a service has ended. -/
def Ended (s : ServiceManager) : ServiceName → Prop
  | .version => s.version.point = some .returned
  | .login => s.login.point = some .returned
  | .matchmaking => s.matchmaking.point = some .returned

/-- A thread that was created and does not run has ended. -/
theorem ended_of_created {service : ServiceName} (hcreated : s.Created service)
    (hrunning : s.Running service = false) : s.Ended service := by
  cases service with
  | version =>
    cases hp : s.version.point with
    | none => exact absurd hp hcreated
    | some p => cases p <;> simp_all [Running, Ended]
  | login =>
    cases hp : s.login.point with
    | none => exact absurd hp hcreated
    | some p => cases p <;> simp_all [Running, Ended]
  | matchmaking =>
    cases hp : s.matchmaking.point with
    | none => exact absurd hp hcreated
    | some p => cases p <;> simp_all [Running, Ended]

/-- What the place of the main thread says about the others. -/
structure Orderly (s : ServiceManager) : Prop where
  version : s.version.Stopped
  matchmaking : s.matchmaking.Stopped
  created : ∀ service, index service < done s.main → s.Created service
  joined : ∀ service, index service + 5 < done s.main → s.Ended service
  flag : s.running = false ↔ 5 ≤ done s.main

theorem orderly_initial : initial.Orderly where
  version := ⟨rfl, rfl⟩
  matchmaking := ⟨rfl, rfl⟩
  created := by simp [initial, done]
  joined := by simp [initial, done]
  flag := by simp [initial, done]

/-- No thread is undone. -/
theorem StepMoves.keeps (h : StepMoves s s') (service : ServiceName) :
    (s.Created service → s'.Created service) ∧ (s.Ended service → s'.Ended service) := by
  cases service with
  | version => exact h.version.point
  | login => exact h.login.point
  | matchmaking => exact h.matchmaking.point

/-- Only the main thread moves itself and the flag. -/
theorem main_of_other {l : ManagerStep} {out : List ManagerEvent} (hl : l ≠ .main)
    (h : s.advance l = some (s', out)) : s'.main = s.main ∧ s'.running = s.running := by
  cases l with
  | main => exact absurd rfl hl
  | version | versionDispatcher | login | matchmaking | matchmakingDispatcher =>
    obtain ⟨r, -, heq⟩ := Option.map_eq_some_iff.1 h
    cases heq
    exact ⟨rfl, rfl⟩
  | versionDatagram | matchmakingDatagram | connection | clientData =>
    cases h
    exact ⟨rfl, rfl⟩

/-- What the creation of a service thread does. -/
inductive Creates (s : ServiceManager) : ServiceName → ServiceManager → Prop
  | version (hp : s.version.point = none) :
      Creates s .version
        { s with
          version := { s.version with point := some .initializing }
          main := .creating .login }
  | login (hp : s.login.point = none) :
      Creates s .login
        { s with
          login := { s.login with point := some .atTest }
          main := .creating .matchmaking }
  | matchmaking (hp : s.matchmaking.point = none) :
      Creates s .matchmaking
        { s with
          matchmaking := { s.matchmaking with point := some .initializing }
          main := .atPrompt }

theorem creates_of_create {service : ServiceName} (h : s.create service = some s') :
    Creates s service s' := by
  unfold create at h
  cases service with
  | version =>
    cases hp : s.version.point with
    | some p => simp [hp] at h
    | none =>
      simp only [hp, Option.some.injEq] at h
      subst h
      exact .version hp
  | login =>
    cases hp : s.login.point with
    | some p => simp [hp] at h
    | none =>
      simp only [hp, Option.some.injEq] at h
      subst h
      exact .login hp
  | matchmaking =>
    cases hp : s.matchmaking.point with
    | some p => simp [hp] at h
    | none =>
      simp only [hp, Option.some.injEq] at h
      subst h
      exact .matchmaking hp

theorem Creates.done {service : ServiceName} (h : Creates s service s') :
    done s'.main = index service + 1 ∧ s'.running = s.running ∧ s'.Created service := by
  cases h <;> exact ⟨rfl, rfl, nofun⟩

/-- What a step of the main thread does. -/
inductive MainGoes (s : ServiceManager) : ServiceManager → Prop
  | created {service : ServiceName} {s' : ServiceManager} (hmain : s.main = .creating service)
      (h : Creates s service s') : MainGoes s s'
  | read (hmain : s.main = .atPrompt) : MainGoes s { s with main := .clearing }
  | cleared (hmain : s.main = .clearing) :
      MainGoes s { s with running := false, main := .joining .version }
  | joined {service : ServiceName} (hmain : s.main = .joining service)
      (hended : s.Running service = false) : MainGoes s { s with main := afterJoin service }

theorem mainGoes_of_mainStep (h : s.mainStep = some s') : MainGoes s s' := by
  unfold mainStep at h
  cases hmain : s.main with
  | creating service =>
    rw [hmain] at h
    exact .created hmain (creates_of_create h)
  | atPrompt =>
    rw [hmain] at h
    cases h
    exact .read hmain
  | clearing =>
    rw [hmain] at h
    cases h
    exact .cleared hmain
  | joining service =>
    simp only [hmain] at h
    split_ifs at h with hrunning
    cases h
    exact .joined hmain (by simpa using hrunning)
  | returned => simp [hmain] at h

theorem mainGoes_of_advance {out : List ManagerEvent} (h : s.advance .main = some (s', out)) :
    MainGoes s s' := by
  obtain ⟨t, ht, heq⟩ := Option.map_eq_some_iff.1 h
  cases heq
  exact mainGoes_of_mainStep ht

theorem done_creating (service : ServiceName) : done (.creating service) = index service := by
  cases service <;> rfl

theorem done_joining (service : ServiceName) : done (.joining service) = index service + 5 := by
  cases service <;> rfl

theorem done_afterJoin (service : ServiceName) : done (afterJoin service) = index service + 6 := by
  cases service <;> rfl

theorem index_le (service : ServiceName) : index service ≤ 2 := by
  cases service <;> decide

theorem index_injective : Function.Injective index := by
  intro a b h
  cases a <;> cases b <;> simp_all [index]

/-- **The threads keep their order.** -/
theorem Orderly.advance {l : ManagerStep} {out : List ManagerEvent} (hs : s.Orderly)
    (h : s.advance l = some (s', out)) : s'.Orderly := by
  have hmoves := step_moves h
  have hversion := hs.version.moves hmoves.version
  have hmatchmaking := hs.matchmaking.moves hmoves.matchmaking
  have hcreated := fun service hdone => (hmoves.keeps service).1 (hs.created service hdone)
  have hjoined := fun service hdone => (hmoves.keeps service).2 (hs.joined service hdone)
  have hflag := hs.flag
  by_cases hl : l = .main
  · subst hl
    cases mainGoes_of_advance h with
    | @created service _ hmain hcreates =>
      obtain ⟨hdone, hkept, hnew⟩ := hcreates.done
      have hle := index_le service
      rw [hmain, done_creating] at hcreated hflag
      refine ⟨hversion, hmatchmaking, fun other hother => ?_, fun other hother => by omega, ?_⟩
      · by_cases hsame : index other = index service
        · rw [index_injective hsame]
          exact hnew
        · exact hcreated other (by omega)
      · rw [hkept, hflag]
        omega
    | read hmain =>
      rw [hmain] at hcreated hflag
      refine ⟨hversion, hmatchmaking, fun other _ => ?_, fun other hother => ?_, ?_⟩
      · have hle := index_le other
        exact hcreated other (by simp only [done]; omega)
      · simp only [done] at hother
        omega
      · exact hflag.trans (by simp [done])
    | cleared hmain =>
      rw [hmain] at hcreated
      refine ⟨hversion, hmatchmaking, fun other _ => ?_, fun other hother => ?_, by simp [done]⟩
      · have hle := index_le other
        exact hcreated other (by simp only [done]; omega)
      · simp only [done] at hother
        omega
    | @joined service hmain hended =>
      rw [hmain, done_joining] at hcreated hjoined hflag
      refine ⟨hversion, hmatchmaking, fun other _ => ?_, fun other hother => ?_, ?_⟩
      · have hle := index_le other
        exact hcreated other (by omega)
      · rw [done_afterJoin] at hother
        by_cases hsame : index other = index service
        · -- the one that was joined just now
          rw [index_injective hsame]
          have hthere : s.Created service := hs.created service (by rw [hmain, done_joining]; omega)
          exact (hmoves.keeps service).2 (ended_of_created hthere hended)
        · exact hjoined other (by omega)
      · rw [done_afterJoin]
        exact hflag.trans (by omega)
  · obtain ⟨hmain, hkept⟩ := main_of_other hl h
    refine ⟨hversion, hmatchmaking, ?_, ?_, ?_⟩
    · rw [hmain]
      exact hcreated
    · rw [hmain]
      exact hjoined
    · rw [hmain, hkept]
      exact hflag

variable {h h' : History}

theorem orderly_of_run (hr : machine.Run initial h s) : s.Orderly :=
  hr.invariant orderly_initial fun _ _ _ _ hs hstep => hs.advance (step_iff.1 hstep)

/-! ## What counts as a step -/

/-- The thread waits for that of its dispatcher. -/
def joins {H : Type} (t : UdpThread H) : Bool :=
  match t.point with
  | some .joining => true
  | _ => false

/-- Does a step count?  Those of the dispatchers do from the moment they are told to stop; what
comes from outside does not. -/
def progress (s : ServiceManager) : ManagerStep → Nat
  | .main | .version _ | .login _ | .matchmaking _ => 1
  | .versionDispatcher => if joins s.version then 1 else 0
  | .matchmakingDispatcher => if joins s.matchmaking then 1 else 0
  | .versionDatagram _ | .matchmakingDatagram _ | .connection | .clientData _ => 0

/-- The steps that are left once the flag is cleared: three joins, and what is left to the
service threads. -/
def left (s : ServiceManager) : Nat :=
  8 - done s.main + s.version.left + s.login.left + s.matchmaking.left

/-- What the threads do when the flag was cleared before any of them took a step: a service
with a dispatcher starts it, finds the flag cleared and joins it again. -/
def toTheEnd : List ManagerStep :=
  List.replicate 5 (.version true) ++ [.versionDispatcher, .version true, .main] ++
    [.login ⟨true, false⟩, .main] ++
      List.replicate 5 (.matchmaking true) ++ [.matchmakingDispatcher, .matchmaking true, .main]

/-- They come to the end in this many steps. -/
theorem run_toTheEnd : ∃ h' s', machine.Run (clears early).post h' s' ∧ s'.main = .returned ∧
    (h'.map fun t => progress t.pre t.label).sum = 18 :=
  Machine.exists_run_of_exec (M := machine) (l := toTheEnd)
    (P := fun h' s' => s'.main = .returned ∧
      (h'.map fun t => progress t.pre t.label).sum = 18) (by decide +kernel)

/-- Something comes from outside. -/
def IsInput : ManagerStep → Prop
  | .versionDatagram _ | .matchmakingDatagram _ | .connection | .clientData _ => True
  | _ => False

/-- When `StopServices` has returned, the threads have ended. -/
theorem ended_of_returned (hs : s.Orderly) (hmain : s.main = .returned) :
    (∀ service, s.Ended service) ∧ s.version.dispatcher.thread = none ∧
      s.matchmaking.dispatcher.thread = none := by
  have hended : ∀ service, s.Ended service := by
    intro service
    have hle := index_le service
    exact hs.joined service (by rw [hmain]; simp only [done]; omega)
  have hversion := hs.version
  have hmatchmaking := hs.matchmaking
  have hended₁ : s.version.point = some .returned := hended .version
  have hended₂ : s.matchmaking.point = some .returned := hended .matchmaking
  unfold UdpThread.Stopped at hversion hmatchmaking
  rw [hended₁] at hversion
  rw [hended₂] at hmatchmaking
  exact ⟨hended, hversion.1, hmatchmaking.1⟩

/-- No thread takes a step then. -/
theorem input_of_returned {l : ManagerStep} {out : List ManagerEvent} (hs : s.Orderly)
    (hmain : s.main = .returned) (h : s.advance l = some (s', out)) :
    IsInput l ∧ s'.main = .returned ∧ s'.version.dispatcher = s.version.dispatcher ∧
      s'.matchmaking.dispatcher = s.matchmaking.dispatcher := by
  obtain ⟨hended, hversion, hmatchmaking⟩ := ended_of_returned hs hmain
  cases l with
  | main =>
    obtain ⟨t, ht, -⟩ := Option.map_eq_some_iff.1 h
    simp [mainStep, hmain] at ht
  | version bound =>
    obtain ⟨t, ht, -⟩ := Option.map_eq_some_iff.1 h
    have hp : s.version.point = some .returned := hended .version
    simp [UdpThread.runStep, hp] at ht
  | versionDispatcher =>
    obtain ⟨t, ht, -⟩ := Option.map_eq_some_iff.1 h
    exact absurd hversion (UdpThread.turn_of_dispatchStep ht).1
  | login input =>
    obtain ⟨t, ht, -⟩ := Option.map_eq_some_iff.1 h
    exact absurd (hended .login) (LoginThread.point_of_runStep ht).1
  | matchmaking bound =>
    obtain ⟨t, ht, -⟩ := Option.map_eq_some_iff.1 h
    have hp : s.matchmaking.point = some .returned := hended .matchmaking
    simp [UdpThread.runStep, hp] at ht
  | matchmakingDispatcher =>
    obtain ⟨t, ht, -⟩ := Option.map_eq_some_iff.1 h
    exact absurd hmatchmaking (UdpThread.turn_of_dispatchStep ht).1
  | versionDatagram a | matchmakingDatagram a | connection | clientData client =>
    cases h
    exact ⟨trivial, hmain, rfl, rfl⟩

/-- **Nothing is left running.**  When `StopServices` has returned, the three service threads
have ended and both dispatchers are joined.  From then on only input comes: no thread takes a
step, and the jobs that wait in a dispatcher stay there. -/
theorem all_ended (hr : machine.Run initial h s) (hmain : s.main = .returned)
    (hr' : machine.Run s h' s') :
    (∀ service, s'.Ended service) ∧ s'.version.dispatcher.thread = none ∧
      s'.matchmaking.dispatcher.thread = none ∧
      (∀ t ∈ h', IsInput t.label) ∧ s'.version.dispatcher = s.version.dispatcher ∧
      s'.matchmaking.dispatcher = s.matchmaking.dispatcher := by
  have hkept := hr'.invariant_of_mem (R := fun _ _ => True)
    (P := fun u => u.Orderly ∧ u.main = .returned ∧
      u.version.dispatcher = s.version.dispatcher ∧
      u.matchmaking.dispatcher = s.matchmaking.dispatcher)
    ⟨orderly_of_run hr, hmain, rfl, rfl⟩ ?_ fun _ _ => trivial
  · obtain ⟨⟨horderly, hmain', hversion, hmatchmaking⟩, hpre⟩ := hkept
    obtain ⟨hended, hnone₁, hnone₂⟩ := ended_of_returned horderly hmain'
    refine ⟨hended, hnone₁, hnone₂, fun t ht => ?_, hversion, hmatchmaking⟩
    obtain ⟨hs, hreturned, -⟩ := hpre t ht
    exact (input_of_returned hs hreturned (step_iff.1 (hr'.step_of_mem ht))).1
  · rintro u l u' o ⟨hs, hreturned, hversion, hmatchmaking⟩ - hstep
    have hadvance := step_iff.1 hstep
    obtain ⟨-, hreturned', hversion', hmatchmaking'⟩ := input_of_returned hs hreturned hadvance
    exact ⟨hs.advance hadvance, hreturned', hversion'.trans hversion,
      hmatchmaking'.trans hmatchmaking⟩

/-- A connection comes after the end: nobody accepts it. -/
theorem all_ended_early : ∃ h s s', machine.Run initial h s ∧ s.main = .returned ∧
    s.advance .connection = some (s', []) ∧ ∀ service, s'.Ended service := by
  obtain ⟨h', s, hr', hmain, -⟩ := run_toTheEnd
  have hr := run_early.append hr'
  have hconnection : s.advance .connection
      = some ({ s with login := { s.login with backlog := s.login.backlog + 1 } }, []) := rfl
  have hlater := Machine.Run.single (step_iff.2 hconnection)
  exact ⟨_, s, _, hr, hmain, hconnection, (all_ended hr hmain hlater).1⟩

end ServiceManager

end ServiceServer
