import ServiceServer.Lib.Interleaving
import ServiceServer.Matchmaking.Receive

/-!
# The two threads, call by call

The main thread runs `ProcessMatchmaking` and `ProcessMatchCreations`, the
dispatcher's thread the `FIND_MATCH`, `CANCEL_SEARCH`, `MATCH_UNIQUE` and
`MATCH_USED` handlers.  Here each call of a `std::queue` or a `std::vector` is
one step, and a thread is at a **point** between two calls, with its local
variables.  Iterators are positions.

* `mainThread`, `dispatcherThread` — the two programs, with the changes each call
  makes and what a thread relies on between two calls.
* `Conflict` — which changes upset which reliances.
* `threads` — the machine of both.
-/

namespace ServiceServer

open Lib

/-- What a thread may do wrong. -/
inductive Fault where
  /-- `front` of an empty queue. -/
  | frontOfEmpty
  /-- `pop` of an empty queue. -/
  | popOfEmpty
  /-- An iterator that points at no element is read or erased. -/
  | pastTheEnd
  /-- An exception leaves a handler. -/
  | thrown (e : Exception)
  deriving DecidableEq

/-- What a call may change that the other thread goes by. -/
inductive Change where
  /-- A player is pushed to a queue. -/
  | push (t : MatchType)
  /-- A queue is popped or replaced. -/
  | take (t : MatchType)
  /-- A creation is appended, confirmed, given up or erased. -/
  | creations
  /-- A creation gets another ID. -/
  | rekey
  deriving DecidableEq

/-- What a thread has seen and goes by until it has acted on it. -/
inductive Reliance where
  /-- The players in a queue. -/
  | queued (t : MatchType)
  /-- That a queue is empty. -/
  | drained (t : MatchType)
  /-- An iterator, and the players of the creations. -/
  | rosters
  /-- An iterator, and the matches of the creations, with their IDs. -/
  | matchData
  deriving DecidableEq

/-- What nobody may rely on while the change is made.  A push leaves the players
of a queue where they are; an erased or appended element spoils every iterator. -/
def Change.upsets : Change → List Reliance
  | .push t => [.drained t]
  | .take t => [.queued t, .drained t]
  | .creations => [.rosters, .matchData]
  | .rekey => [.matchData]

/-- The change upsets what is relied on. -/
abbrev Conflict (x : Change) (y : Reliance) : Prop := y ∈ x.upsets

namespace MatchmakingServer

/-! ## The main thread -/

/-- A point of the main thread: the next call, and the local variables. -/
inductive MainPoint where
  | idle
  /-- `queue.size()`. -/
  | pairSize (t : MatchType)
  /-- `queue.front()`. -/
  | pairFront (t : MatchType) (players : List ClientMatchInfo)
  /-- `queue.pop()`. -/
  | pairPop (t : MatchType) (players : List ClientMatchInfo) (info : ClientMatchInfo)
  /-- `_pendingMatchCreations.push_back(...)`. -/
  | pairPush (t : MatchType) (players : List ClientMatchInfo)
  /-- `it != _pendingMatchCreations.end()`, and what follows for `*it`. -/
  | creationAt (i : Nat)
  /-- `push` of the next player of a creation that is given up, or its `erase`. -/
  | giveUp (i k : Nat)
  deriving DecidableEq

/-- What the main thread does next. -/
inductive MainCall where
  /-- It enters `ProcessMatchmaking`. -/
  | processMatchmaking (t : MatchType)
  /-- It enters `ProcessMatchCreations`. -/
  | processMatchCreations
  /-- It makes its next call. -/
  | next (now : ClockReading)

/-- The next call of the main thread. -/
def mainNext (s : MatchmakingServer) (now : ClockReading) :
    MainPoint → Except Fault (MatchmakingServer × MainPoint × List Datagram)
  | .idle => .ok (s, .idle, [])
  | .pairSize t =>
    .ok (s, if s.playersPerMatch.val.toNat ≤ (s.queueOf t).length then .pairFront t [] else .idle,
      [])
  | .pairFront t players =>
    match s.queueOf t with
    | [] => .error .frontOfEmpty
    | info :: _ => .ok (s, .pairPop t players info, [])
  | .pairPop t players info =>
    match s.queueOf t with
    | [] => .error .popOfEmpty
    | _ :: queue =>
      let players := players ++ [{ info with playerID := UInt32.ofNat players.length }]
      .ok (s.setQueue t queue,
        if players.length < s.playersPerMatch.val.toNat then .pairFront t players
        else .pairPush t players, [])
  | .pairPush t players =>
    .ok ({ s with
        lastMatchID := s.lastMatchID + 1
        pendingMatchCreations :=
          s.pendingMatchCreations ++ [s.formCreation t now.atRestart players] }, .pairSize t, [])
  | .creationAt i =>
    match s.pendingMatchCreations[i]? with
    | none =>
      if i = s.pendingMatchCreations.length then .ok (s, .idle, []) else .error .pastTheEnd
    | some c =>
      match creationOutcome c now.atElapsed with
      | .waiting => .ok (s, .creationAt (i + 1), [])
      | .givenUp => .ok (s, .giveUp i 0, [])
      | .retried =>
        .ok ({ s with
            pendingMatchCreations := s.pendingMatchCreations.set i
              { c with timer := ⟨now.atRestart⟩, attempts := c.attempts + 1 } },
          .creationAt (i + 1), [createMatchDatagram c])
  | .giveUp i k =>
    match s.pendingMatchCreations[i]? with
    | none => .error .pastTheEnd
    | some c =>
      match c.matchData.players[k]? with
      | some p => .ok (s.pushQueue c.matchData.type p, .giveUp i (k + 1), [])
      | none =>
        .ok ({ s with pendingMatchCreations := s.pendingMatchCreations.eraseIdx i },
          .creationAt i, [])

/-- What the main thread does; it enters a function only from its loop. -/
def mainCall (s : MatchmakingServer) (p : MainPoint) :
    MainCall → Except Fault (MatchmakingServer × MainPoint × List Datagram)
  | .processMatchmaking t => .ok (s, if p = .idle then .pairSize t else p, [])
  | .processMatchCreations => .ok (s, if p = .idle then .creationAt 0 else p, [])
  | .next now => s.mainNext now p

/-- What the main thread relies on: the size it has seen of a queue it takes
players out of, or an iterator. -/
def mainRelies : MainPoint → List Reliance
  | .pairFront t _ | .pairPop t _ _ => [.queued t]
  | .creationAt _ | .giveUp _ _ => [.rosters]
  | .idle | .pairSize _ | .pairPush _ _ => []

/-- The changes its next call makes.  A retry only counts and restarts a timer,
and nobody relies on these. -/
def mainDoes (s : MatchmakingServer) (p : MainPoint) : MainCall → List Change
  | .processMatchmaking _ | .processMatchCreations => []
  | .next now =>
    match p with
    | .idle | .pairSize _ | .pairFront _ _ => []
    | .pairPop t _ _ => [.take t]
    | .pairPush _ _ => [.creations]
    | .creationAt i =>
      match s.pendingMatchCreations[i]? with
      | none => []
      | some c => if creationOutcome c now.atElapsed = .givenUp then [.creations] else []
    | .giveUp i k =>
      match s.pendingMatchCreations[i]? with
      | none => []
      | some c =>
        if k < c.matchData.players.length then [.push c.matchData.type] else [.creations]

/-- The main thread. -/
def mainThread :
    Program MatchmakingServer MainPoint MainCall (List Datagram) Fault Change Reliance :=
  ⟨mainCall, mainDoes, mainRelies⟩

/-! ## The dispatcher's thread -/

/-- A point of the dispatcher's thread. -/
inductive DispatcherPoint where
  | idle
  /-- `push` of the player that searches. -/
  | findPush (t : MatchType) (p : ClientMatchInfo)
  /-- `queue.empty()`. -/
  | cancelEmpty (e : Endpoint) (t : MatchType) (temp : List ClientMatchInfo)
  /-- `queue.front()`. -/
  | cancelFront (e : Endpoint) (t : MatchType) (temp : List ClientMatchInfo)
  /-- `queue.pop()`. -/
  | cancelPop (e : Endpoint) (t : MatchType) (temp : List ClientMatchInfo) (p : ClientMatchInfo)
  /-- `queue = std::move(temp)`. -/
  | cancelAssign (e : Endpoint) (t : MatchType) (temp : List ClientMatchInfo)
  /-- `it != _pendingMatchCreations.end()`, and the comparison with `*it`. -/
  | uniqueAt (content : Bytes) (j : Nat)
  /-- `_pendingSessions.push_back(...)`, in `CreateMatchSession`. -/
  | uniqueCreate (j : Nat)
  /-- `_pendingMatchCreations.erase(it)`, after the creation was confirmed. -/
  | uniqueErase (j : Nat) (confirmed : PendingMatchCreation)
  /-- The same loop of `MATCH_USED`, and the new ID. -/
  | usedAt (content : Bytes) (j : Nat)
  deriving DecidableEq

/-- What the dispatcher's thread does next. -/
inductive DispatcherCall where
  /-- It takes a job and enters its handler. -/
  | take (job : RawPacketJob)
  /-- It makes its next call. -/
  | next (now : Nat → Micros)

/-- The point a handler starts at, with the sender's address read.
`ACK_MATCH_FOUND` works on neither the queues nor the creations. -/
def enterHandler (job : RawPacketJob) : Except Fault DispatcherPoint :=
  let reads (point : IpAddress → DispatcherPoint) : Except Fault DispatcherPoint :=
    match value job.sender with
    | .error e => .error (.thrown e)
    | .ok ip => .ok (point ip)
  match job.type with
  | .findMatch =>
    if job.content = MatchType.normal.name then
      reads fun ip => .findPush .normal { ip := ip, port := job.port }
    else if job.content = MatchType.ranked.name then
      reads fun ip => .findPush .ranked { ip := ip, port := job.port }
    else .ok .idle
  | .cancelSearch => reads fun ip => .cancelEmpty (ip, job.port) .normal []
  | .matchUnique => .ok (.uniqueAt job.content 0)
  | .matchUsed => .ok (.usedAt job.content 0)
  | _ => .ok .idle

/-- The next call of the dispatcher's thread. -/
def dispatcherNext (s : MatchmakingServer) (now : Nat → Micros) :
    DispatcherPoint → Except Fault (MatchmakingServer × DispatcherPoint × List Datagram)
  | .idle => .ok (s, .idle, [])
  | .findPush t p => .ok (s.pushQueue t p, .idle, [sendDatagram .urgent .searchAck [] p.ip p.port])
  | .cancelEmpty e t temp =>
    .ok (s, if s.queueOf t = [] then .cancelAssign e t temp else .cancelFront e t temp, [])
  | .cancelFront e t temp =>
    match s.queueOf t with
    | [] => .error .frontOfEmpty
    | p :: _ => .ok (s, .cancelPop e t temp p, [])
  | .cancelPop e t temp p =>
    match s.queueOf t with
    | [] => .error .popOfEmpty
    | _ :: queue =>
      .ok (s.setQueue t queue,
        .cancelEmpty e t (if p.ip = e.1 ∧ p.port = e.2 then temp else temp ++ [p]), [])
  | .cancelAssign e t temp =>
    match t with
    | .normal => .ok (s.setQueue .normal temp, .cancelEmpty e .ranked [], [])
    | .ranked => .ok (s.setQueue .ranked temp, .idle, [sendDatagram .urgent .ok [] e.1 e.2])
  | .uniqueAt content j =>
    match s.pendingMatchCreations[j]? with
    | none =>
      if j = s.pendingMatchCreations.length then .ok (s, .idle, []) else .error .pastTheEnd
    | some c =>
      match stoi content with
      | .error e => .error (.thrown e)
      | .ok id =>
        .ok (s, if c.matchData.matchID = UInt32.ofInt id then .uniqueCreate j
          else .uniqueAt content (j + 1), [])
  | .uniqueCreate j =>
    match s.pendingMatchCreations[j]? with
    | none => .error .pastTheEnd
    | some c =>
      let (s', sent) := s.createMatchSession now c.matchData
      .ok (s', .uniqueErase j c, sent)
  | .uniqueErase j _ =>
    if j < s.pendingMatchCreations.length then
      .ok ({ s with pendingMatchCreations := s.pendingMatchCreations.eraseIdx j }, .idle, [])
    else .error .pastTheEnd
  | .usedAt content j =>
    match s.pendingMatchCreations[j]? with
    | none =>
      if j = s.pendingMatchCreations.length then .ok (s, .idle, []) else .error .pastTheEnd
    | some c =>
      match stoi content with
      | .error e => .error (.thrown e)
      | .ok id =>
        if c.matchData.matchID = UInt32.ofInt id then
          let matchID := s.lastMatchID + 1
          .ok ({ s with
              lastMatchID := matchID
              pendingMatchCreations :=
                s.pendingMatchCreations.set j (rekey c matchID (now 0)) }, .idle, [])
        else .ok (s, .usedAt content (j + 1), [])

/-- What the dispatcher's thread does; it takes a job only when it is done with
the last one. -/
def dispatcherCall (s : MatchmakingServer) (p : DispatcherPoint) :
    DispatcherCall → Except Fault (MatchmakingServer × DispatcherPoint × List Datagram)
  | .take job =>
    if p = .idle then (enterHandler job).map fun q => (s, q, []) else .ok (s, p, [])
  | .next now => s.dispatcherNext now p

/-- What the dispatcher's thread relies on: that a queue has players or has none,
or an iterator. -/
def dispatcherRelies : DispatcherPoint → List Reliance
  | .cancelFront _ t _ | .cancelPop _ t _ _ => [.queued t]
  | .cancelAssign _ t _ => [.drained t]
  | .uniqueAt _ _ | .uniqueCreate _ | .uniqueErase _ _ | .usedAt _ _ => [.matchData]
  | .idle | .findPush _ _ | .cancelEmpty _ _ _ => []

/-- The changes its next call makes. -/
def dispatcherDoes (_ : MatchmakingServer) (p : DispatcherPoint) : DispatcherCall → List Change
  | .take _ => []
  | .next _ =>
    match p with
    | .findPush t _ => [.push t]
    | .cancelPop _ t _ _ | .cancelAssign _ t _ => [.take t]
    | .uniqueCreate _ | .uniqueErase _ _ => [.creations]
    | .usedAt _ _ => [.rekey]
    | .idle | .cancelEmpty _ _ _ | .cancelFront _ _ _ | .uniqueAt _ _ => []

/-- The dispatcher's thread. -/
def dispatcherThread :
    Program MatchmakingServer DispatcherPoint DispatcherCall (List Datagram) Fault Change Reliance :=
  ⟨dispatcherCall, dispatcherDoes, dispatcherRelies⟩

/-! ## Both threads -/

/-- The state of the service and where its two threads are. -/
abbrev ThreadState := Threads MatchmakingServer MainPoint DispatcherPoint

/-- Both threads, one call at a time in any order. -/
def threads : Machine ThreadState (MainCall ⊕ DispatcherCall) (List Datagram) Fault :=
  Interleaving.machine mainThread dispatcherThread

/-- Nothing has happened yet. -/
def threadsInitial : ThreadState := ⟨initial, .idle, .idle⟩

/-- The next call upsets nothing the other thread relies on. -/
abbrev Undisturbed : ThreadState → MainCall ⊕ DispatcherCall → Prop :=
  Interleaving.Undisturbed Conflict mainThread dispatcherThread

end MatchmakingServer

end ServiceServer
