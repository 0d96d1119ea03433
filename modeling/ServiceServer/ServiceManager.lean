import ServiceServer.Dispatcher.Loop
import ServiceServer.MatchmakingServer
import ServiceServer.VersionChecker

/-!
# Starting and stopping the services (`ServiceManager.cpp`, `Main.cpp`)

The main thread starts one thread for each service, waits for a line and then clears
`_running` and joins them; two of the services have a dispatcher with a thread of its
own, which they start and join.  A step of a thread is a call of its that may wait, or
what it does between two of them: the threads are interleaved in any order, and input
comes from outside at any time.

Only what may wait is kept here, and what can be seen of the dispatchers.  What the handlers
and the passes do, and what the login server does with its clients, is modelled where those
are; all of it returns.

* `step_moves` — what one step does to each thread.
-/

namespace ServiceServer

open Lib

/-! ## The services that listen to datagrams -/

/-- What the `Run` of a service that listens to datagrams is made of. -/
structure UdpService (H : Type) where
  /-- Does `InitializeSocket` call `setBlocking(false)`? -/
  setsNonBlocking : Bool
  handlers : PacketType → Option H
  /-- Are there passes in the loop? -/
  hasPasses : Bool

/-- `VersionChecker::Run`. -/
def VersionChecker.service : UdpService VersionChecker.Handler where
  setsNonBlocking := false
  handlers := VersionChecker.handlers
  hasPasses := false

/-- `MatchmakingServer::Run`. -/
def MatchmakingServer.service : UdpService MatchmakingServer.Handler where
  setsNonBlocking := true
  handlers := MatchmakingServer.subcribeActionHandlers
  hasPasses := true

/-- A datagram in the buffer of a socket. -/
structure Arrival where
  data : Bytes
  sender : IpAddress
  port : UInt16

/-- Where a service thread stands in `Run`. -/
inductive RunPoint where
  /-- In `InitializeSocket`. -/
  | initializing
  /-- Before the handlers are registered. -/
  | subscribing
  /-- Before `_dispatcher.Start`. -/
  | starting
  /-- Before the test of `running`. -/
  | atTest
  /-- In `_socket.receive`. -/
  | receiving
  /-- Behind it, with a datagram. -/
  | received (a : Arrival)
  /-- Before the passes. -/
  | processing
  /-- Before `_dispatcher.Stop`. -/
  | stopping
  /-- In its `join`. -/
  | joining
  | returned

/-- The thread of such a service, if it was created, with its socket and its
dispatcher. -/
structure UdpThread (H : Type) where
  point : Option RunPoint := none
  /-- A socket is blocking unless it is told otherwise. -/
  blocking : Bool := true
  buffer : List Arrival := []
  dispatcher : RunningDispatcher H := {}

namespace UdpThread

variable {H : Type}

/-- A call of the dispatcher, if it does not wait, with what can be seen of it; `Run` is
`next` then. -/
def call (t : UdpThread H) (l : DispatcherStep H) (next : RunPoint) :
    Option (UdpThread H × List (DispatchEvent H)) :=
  match t.dispatcher.step l with
  | .ok (d, out) => some ({ t with dispatcher := d, point := some next }, out)
  | .error _ => none

/-- What follows `receive` and its datagram. -/
def afterReceive (k : UdpService H) : RunPoint := if k.hasPasses then .processing else .atTest

/-- A step of the thread, with what can be seen of its dispatcher; `none` where it waits, or
where there is none.  `bound` says whether a `bind` succeeds. -/
def runStep (k : UdpService H) (running bound : Bool) (t : UdpThread H) :
    Option (UdpThread H × List (DispatchEvent H)) :=
  match t.point with
  | none => none
  | some .initializing =>
    if bound then
      some ({ t with point := some .subscribing, blocking := t.blocking && !k.setsNonBlocking }, [])
    else some ({ t with point := some .returned }, [])
  | some .subscribing =>
    some
      ({ t with
          dispatcher := { t.dispatcher with handlers := k.handlers }
          point := some .starting }, [])
  | some .starting => t.call .start .atTest
  | some .atTest => some ({ t with point := some (if running then .receiving else .stopping) }, [])
  | some .receiving =>
    match t.buffer with
    | [] => if t.blocking then none else some ({ t with point := some (afterReceive k) }, [])
    | a :: buffer => some ({ t with buffer := buffer, point := some (.received a) }, [])
  | some (.received a) =>
    match (receiveInto 1024 a.data).bind (parseRawDatagram · a.sender a.port) with
    | none => some ({ t with point := some (afterReceive k) }, [])
    | some job => t.call (.enqueuePacket job) (afterReceive k)
  | some .processing => some ({ t with point := some .atTest }, [])
  | some .stopping => t.call .stop .joining
  | some .joining => t.call .join .returned
  | some .returned => none

/-- A step of the thread of its dispatcher. -/
def dispatchStep (t : UdpThread H) : Option (UdpThread H × List (DispatchEvent H)) :=
  t.dispatcher.loopStep.map fun r => ({ t with dispatcher := r.1 }, r.2)

end UdpThread

/-! ## The login server -/

/-- A socket of a client. -/
structure ClientSocket where
  blocking : Bool := true
  /-- Is there something to receive, or has the client left? -/
  readable : Bool := false

/-- Where the login thread stands in `Run`. -/
inductive LoginPoint where
  /-- Before the test of `running`. -/
  | atTest
  /-- In `_selector.wait`. -/
  | waiting
  /-- In `_listener.accept`. -/
  | accepting
  /-- In the loop over the clients, before the ones that were found ready. -/
  | serving (ready : List ℕ)
  | returned

/-- The login thread, its listener and its clients. -/
structure LoginThread where
  point : Option LoginPoint := none
  listenerBlocking : Bool := true
  /-- The connections that wait to be accepted. -/
  backlog : ℕ := 0
  clients : List ClientSocket := []

/-- What a step of the login thread finds. -/
structure LoginInput where
  /-- Does `accept` report `Done`? -/
  accepted : Bool
  /-- Is there more to receive? -/
  more : Bool

namespace LoginThread

/-- The clients that are ready. -/
def readyClients (t : LoginThread) : List ℕ :=
  (List.range t.clients.length).filter fun k => t.clients[k]?.any ClientSocket.readable

/-- A step of the thread; `none` where it waits.  `wait` returns when its time is over,
and nobody is ready then. -/
def runStep (running : Bool) (input : LoginInput) (t : LoginThread) : Option LoginThread :=
  match t.point with
  | none => none
  | some .atTest => some { t with point := some (if running then .waiting else .returned) }
  | some .waiting =>
    some { t with point := some (if 0 < t.backlog then .accepting else .serving t.readyClients) }
  | some .accepting =>
    if t.backlog = 0 ∧ t.listenerBlocking then none
    else
      some
        { t with
          backlog := t.backlog - 1
          -- `setBlocking(false)`
          clients := if input.accepted then t.clients ++ [{ blocking := false }] else t.clients
          point := some .atTest }
  | some (.serving []) => some { t with point := some .atTest }
  | some (.serving (k :: ready)) =>
    match t.clients[k]? with
    | none => some { t with point := some (.serving ready) }
    | some c =>
      if c.blocking ∧ ¬ c.readable then none
      else
        some
          { t with
            clients := t.clients.set k { c with readable := input.more }
            point := some (.serving ready) }
  | some .returned => none

end LoginThread

/-! ## The main thread -/

/-- The services, in the order in which they are started and joined. -/
inductive ServiceName where
  | version
  | login
  | matchmaking
  deriving DecidableEq

/-- Where the main thread stands. -/
inductive MainPoint where
  /-- In `InitializeServices`. -/
  | creating (service : ServiceName)
  /-- In `std::cin.get`. -/
  | atPrompt
  /-- In `StopServices`, before the flag is cleared. -/
  | clearing
  /-- In `StopServices`, before this thread is joined. -/
  | joining (service : ServiceName)
  | returned
  deriving DecidableEq

/-- `ServiceManager`, with the threads it owns. -/
structure ServiceManager where
  main : MainPoint := .creating .version
  running : Bool := true
  version : UdpThread VersionChecker.Handler := {}
  login : LoginThread := {}
  matchmaking : UdpThread MatchmakingServer.Handler := {}

/-- A step of one of the threads, or something that comes from outside. -/
inductive ManagerStep where
  | main
  | version (bound : Bool)
  | versionDispatcher
  | login (input : LoginInput)
  | matchmaking (bound : Bool)
  | matchmakingDispatcher
  | versionDatagram (a : Arrival)
  | matchmakingDatagram (a : Arrival)
  | connection
  /-- A client sends something, or leaves. -/
  | clientData (client : ℕ)

/-- What can be seen of the dispatchers of the two services that have one. -/
inductive ManagerEvent where
  | version (e : DispatchEvent VersionChecker.Handler)
  | matchmaking (e : DispatchEvent MatchmakingServer.Handler)

namespace ServiceManager

/-- A service thread that was created, or was joined, cannot be created again. -/
def create (s : ServiceManager) : ServiceName → Option ServiceManager
  | .version =>
    match s.version.point with
    | none => some
        { s with
          version := { s.version with point := some .initializing }
          main := .creating .login }
    | some _ => none
  | .login =>
    match s.login.point with
    | none => some
        { s with
          login := { s.login with point := some .atTest }
          main := .creating .matchmaking }
    | some _ => none
  | .matchmaking =>
    match s.matchmaking.point with
    | none => some
        { s with
          matchmaking := { s.matchmaking with point := some .initializing }
          main := .atPrompt }
    | some _ => none

/-- Does the thread of a service run? -/
def Running (s : ServiceManager) : ServiceName → Bool
  | .version =>
    match s.version.point with
    | none | some .returned => false
    | some _ => true
  | .login =>
    match s.login.point with
    | none | some .returned => false
    | some _ => true
  | .matchmaking =>
    match s.matchmaking.point with
    | none | some .returned => false
    | some _ => true

/-- What comes after a `join`. -/
def afterJoin : ServiceName → MainPoint
  | .version => .joining .login
  | .login => .joining .matchmaking
  | .matchmaking => .returned

/-- A step of the main thread; `none` where it waits. -/
def mainStep (s : ServiceManager) : Option ServiceManager :=
  match s.main with
  | .creating service => s.create service
  | .atPrompt => some { s with main := .clearing }
  | .clearing => some { s with running := false, main := .joining .version }
  | .joining service => if s.Running service then none else some { s with main := afterJoin service }
  | .returned => none

/-- What a step does, and what can be seen of it; `none` where it cannot be taken. -/
def advance (s : ServiceManager) : ManagerStep → Option (ServiceManager × List ManagerEvent)
  | .main => s.mainStep.map fun s => (s, [])
  | .version bound =>
    (s.version.runStep VersionChecker.service s.running bound).map
      fun r => ({ s with version := r.1 }, r.2.map .version)
  | .versionDispatcher =>
    s.version.dispatchStep.map fun r => ({ s with version := r.1 }, r.2.map .version)
  | .login input => (s.login.runStep s.running input).map fun t => ({ s with login := t }, [])
  | .matchmaking bound =>
    (s.matchmaking.runStep MatchmakingServer.service s.running bound).map
      fun r => ({ s with matchmaking := r.1 }, r.2.map .matchmaking)
  | .matchmakingDispatcher =>
    s.matchmaking.dispatchStep.map fun r => ({ s with matchmaking := r.1 }, r.2.map .matchmaking)
  | .versionDatagram a =>
    some ({ s with version := { s.version with buffer := s.version.buffer ++ [a] } }, [])
  | .matchmakingDatagram a =>
    some ({ s with matchmaking := { s.matchmaking with buffer := s.matchmaking.buffer ++ [a] } }, [])
  | .connection => some ({ s with login := { s.login with backlog := s.login.backlog + 1 } }, [])
  | .clientData client =>
    some
      ({ s with
          login :=
            { s.login with
              clients := s.login.clients.modify client fun c => { c with readable := true } } }, [])

/-- The threads and what comes from outside, as a machine whose output is what can be seen of
the dispatchers. -/
def machine : Machine ServiceManager ManagerStep (List ManagerEvent) NotEnabled where
  step s l :=
    match s.advance l with
    | none => .error .notEnabled
    | some r => .ok r

/-- As the constructor leaves it. -/
def initial : ServiceManager := {}

theorem step_iff {s s' : ServiceManager} {l : ManagerStep} {out : List ManagerEvent} :
    machine.step s l = .ok (s', out) ↔ s.advance l = some (s', out) := by
  cases h : s.advance l with
  | none => simp [machine, h]
  | some r => simp [machine, h]

end ServiceManager

/-! ## What a step does to a thread -/

/-- What may happen to a thread that listens to datagrams, and to its dispatcher. -/
inductive UdpThread.Moves {H : Type} (k : UdpService H) (running : Bool) :
    UdpThread H → UdpThread H → Prop
  | stay (t : UdpThread H) : Moves k running t t
  | create {t : UdpThread H} : t.point = none →
      Moves k running t { t with point := some .initializing }
  | run {t t' : UdpThread H} {bound : Bool} {out : List (DispatchEvent H)} :
      t.runStep k running bound = some (t', out) → Moves k running t t'
  | dispatch {t t' : UdpThread H} {out : List (DispatchEvent H)} :
      t.dispatchStep = some (t', out) → Moves k running t t'
  | arrive (t : UdpThread H) (a : Arrival) :
      Moves k running t { t with buffer := t.buffer ++ [a] }

/-- What may happen to the login thread. -/
inductive LoginThread.Moves (running : Bool) : LoginThread → LoginThread → Prop
  | stay (t : LoginThread) : Moves running t t
  | create {t : LoginThread} : t.point = none → Moves running t { t with point := some .atTest }
  | run {t t' : LoginThread} {input : LoginInput} : t.runStep running input = some t' →
      Moves running t t'
  | connect (t : LoginThread) : Moves running t { t with backlog := t.backlog + 1 }
  | data (t : LoginThread) (client : ℕ) :
      Moves running t
        { t with clients := t.clients.modify client fun c => { c with readable := true } }

namespace ServiceManager

/-- What a step of the main thread does to the others, and to the flag. -/
structure StepMoves (s s' : ServiceManager) : Prop where
  version : s.version.Moves VersionChecker.service s.running s'.version
  login : s.login.Moves s.running s'.login
  matchmaking : s.matchmaking.Moves MatchmakingServer.service s.running s'.matchmaking
  /-- Nobody sets the flag again. -/
  flag : s.running = false → s'.running = false

theorem stepMoves_create {s s' : ServiceManager} {service : ServiceName}
    (h : s.create service = some s') : StepMoves s s' := by
  unfold create at h
  cases service with
  | version =>
    cases hp : s.version.point with
    | some p => simp [hp] at h
    | none =>
      simp only [hp, Option.some.injEq] at h
      subst h
      exact ⟨.create hp, .stay _, .stay _, id⟩
  | login =>
    cases hp : s.login.point with
    | some p => simp [hp] at h
    | none =>
      simp only [hp, Option.some.injEq] at h
      subst h
      exact ⟨.stay _, .create hp, .stay _, id⟩
  | matchmaking =>
    cases hp : s.matchmaking.point with
    | some p => simp [hp] at h
    | none =>
      simp only [hp, Option.some.injEq] at h
      subst h
      exact ⟨.stay _, .stay _, .create hp, id⟩

theorem stepMoves_main {s s' : ServiceManager} (h : s.mainStep = some s') : StepMoves s s' := by
  unfold mainStep at h
  cases hmain : s.main with
  | creating service =>
    rw [hmain] at h
    exact stepMoves_create h
  | atPrompt =>
    simp only [hmain, Option.some.injEq] at h
    subst h
    exact ⟨.stay _, .stay _, .stay _, id⟩
  | clearing =>
    simp only [hmain, Option.some.injEq] at h
    subst h
    exact ⟨.stay _, .stay _, .stay _, fun _ => rfl⟩
  | joining service =>
    simp only [hmain] at h
    by_cases hrunning : s.Running service
    · rw [if_pos hrunning] at h
      cases h
    · rw [if_neg hrunning, Option.some.injEq] at h
      subst h
      exact ⟨.stay _, .stay _, .stay _, id⟩
  | returned => simp [hmain] at h

/-- **What one step does to each thread.** -/
theorem step_moves {s s' : ServiceManager} {l : ManagerStep} {out : List ManagerEvent}
    (h : s.advance l = some (s', out)) : StepMoves s s' := by
  cases l with
  | main =>
    obtain ⟨t, ht, heq⟩ := Option.map_eq_some_iff.1 h
    cases heq
    exact stepMoves_main ht
  | version bound =>
    obtain ⟨r, hr, heq⟩ := Option.map_eq_some_iff.1 h
    cases heq
    exact ⟨.run hr, .stay _, .stay _, id⟩
  | versionDispatcher =>
    obtain ⟨r, hr, heq⟩ := Option.map_eq_some_iff.1 h
    cases heq
    exact ⟨.dispatch hr, .stay _, .stay _, id⟩
  | login input =>
    obtain ⟨t, ht, heq⟩ := Option.map_eq_some_iff.1 h
    cases heq
    exact ⟨.stay _, .run ht, .stay _, id⟩
  | matchmaking bound =>
    obtain ⟨r, hr, heq⟩ := Option.map_eq_some_iff.1 h
    cases heq
    exact ⟨.stay _, .stay _, .run hr, id⟩
  | matchmakingDispatcher =>
    obtain ⟨r, hr, heq⟩ := Option.map_eq_some_iff.1 h
    cases heq
    exact ⟨.stay _, .stay _, .dispatch hr, id⟩
  | versionDatagram a =>
    cases h
    exact ⟨.arrive _ a, .stay _, .stay _, id⟩
  | matchmakingDatagram a =>
    cases h
    exact ⟨.stay _, .stay _, .arrive _ a, id⟩
  | connection =>
    cases h
    exact ⟨.stay _, .connect _, .stay _, id⟩
  | clientData client =>
    cases h
    exact ⟨.stay _, .data _ client, .stay _, id⟩

end ServiceManager

end ServiceServer
