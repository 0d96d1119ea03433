import ServiceServer.StartMatchData

/-!
# The matchmaking service (`MatchmakingServer.h`, `MatchmakingServer.cpp`)

The state of `MatchmakingServer` and the functions that change it: the five
packet handlers and the three passes of the main loop.  A handler returns the
new state and the datagrams it sent, in order, or the exception that left it.

Every clock reading is an argument.  A handler or a pass may take many, so they
come as a function of the position in the list that is walked: `now i` is what
the clock shows when the `i`-th element is handled.  Nothing is assumed of these
readings, not even that they grow.
-/

namespace ServiceServer

open Lib

/-- `MAX_RETRIES`. -/
def maxRetries : Int := 5

/-- `RESEND_INTERVAL`, in microseconds.  `asSeconds() > 1.0f` holds of exactly
the whole microsecond counts above it: the first of them is a `float` above
`1.0f`, and division by a million is monotone. -/
def resendInterval : Micros := 1000000

/-- The two readings taken for one element of a pass. -/
structure ClockReading where
  /-- What `getElapsedTime` sees. -/
  atElapsed : Micros
  /-- What `restart` sees. -/
  atRestart : Micros

/-- The data members of `MatchmakingServer` that its functions share. -/
structure MatchmakingServer where
  normalQueue : List ClientMatchInfo := []
  rankedQueue : List ClientMatchInfo := []
  pendingSessions : List MatchSession := []
  /-- Positive, or the pairing loop would never end. -/
  playersPerMatch : { n : UInt32 // 0 < n } := ⟨2, by decide⟩
  lastMatchID : UInt32 := 0
  pendingMatchCreations : List PendingMatchCreation := []
  deriving DecidableEq

/-- What a handler does: it fails, or leaves a state and what it sent. -/
abbrev HandlerResult := Except Exception (MatchmakingServer × List Datagram)

namespace MatchmakingServer

/-- The queue a `MatchQueue` of this type points to. -/
def queueOf (s : MatchmakingServer) : MatchType → List ClientMatchInfo
  | .normal => s.normalQueue
  | .ranked => s.rankedQueue

/-- Replace the queue of a type. -/
def setQueue (s : MatchmakingServer) (t : MatchType) (q : List ClientMatchInfo) :
    MatchmakingServer :=
  match t with
  | .normal => { s with normalQueue := q }
  | .ranked => { s with rankedQueue := q }

/-- `push` on the queue of a type. -/
def pushQueue (s : MatchmakingServer) (t : MatchType) (p : ClientMatchInfo) :
    MatchmakingServer :=
  s.setQueue t (s.queueOf t ++ [p])

/-! ## The packet handlers (`SubcribeActionHandlers`) -/

/-- The part of the `FIND_MATCH` handler its two branches share. -/
def enqueueSearch (s : MatchmakingServer) (t : MatchType) (job : RawPacketJob) : HandlerResult :=
  match value job.sender with
  | .error e => .error e
  | .ok ip =>
    .ok (s.pushQueue t { ip := ip, port := job.port },
      [sendDatagram .urgent .searchAck [] ip job.port])

/-- The `FIND_MATCH` handler.  Any other content is ignored. -/
def findMatchHandler (s : MatchmakingServer) (job : RawPacketJob) : HandlerResult :=
  if job.content = MatchType.normal.name then s.enqueueSearch .normal job
  else if job.content = MatchType.ranked.name then s.enqueueSearch .ranked job
  else .ok (s, [])

/-- `removeFromQueue`: the queue is drained and rebuilt without the sender. -/
def removeFromQueue (e : Endpoint) : List ClientMatchInfo → List ClientMatchInfo
  | [] => []
  | p :: q => if p.ip = e.1 ∧ p.port = e.2 then removeFromQueue e q else p :: removeFromQueue e q

/-- The `CANCEL_SEARCH` handler. -/
def cancelSearchHandler (s : MatchmakingServer) (job : RawPacketJob) : HandlerResult :=
  match value job.sender with
  | .error e => .error e
  | .ok ip =>
    .ok ({ s with
        normalQueue := removeFromQueue (ip, job.port) s.normalQueue
        rankedQueue := removeFromQueue (ip, job.port) s.rankedQueue },
      [sendDatagram .urgent .ok [] ip job.port])

/-- What an `ACK_MATCH_FOUND` does to a player. -/
def ackPlayer (job : RawPacketJob) (p : PendingMatch) : PendingMatch :=
  if some p.player.ip = job.sender ∧ p.player.port = job.port then { p with ackRecieved := true }
  else p

/-- What an `ACK_MATCH_FOUND` does to a session. -/
def ackSession (job : RawPacketJob) (session : MatchSession) : MatchSession :=
  ⟨session.players.map (ackPlayer job)⟩

/-- The `ACK_MATCH_FOUND` handler. -/
def ackMatchFoundHandler (s : MatchmakingServer) (job : RawPacketJob) : HandlerResult :=
  .ok ({ s with pendingSessions := s.pendingSessions.map (ackSession job) }, [])

/-- The text a player is told about its match. -/
def matchFoundMessage (matchID playerID : UInt32) : Bytes :=
  gameServerIP.toString ++ colon ++ decimal gameServerPort.toNat ++ colon ++
    decimal matchID.toNat ++ colon ++ decimal playerID.toNat

/-- The session entries of the players of a match. -/
def sessionPlayers (data : StartMatchData) :
    (Nat → Micros) → List ClientMatchInfo → List PendingMatch
  | _, [] => []
  | now, p :: ps =>
    { player := p
      matchMessage := matchFoundMessage data.matchID p.playerID
      timer := ⟨now 0⟩
      matchType := data.type } :: sessionPlayers data (fun i => now (i + 1)) ps

/-- The datagram that first tells a player about its match. -/
def matchFoundDatagram (matchID : UInt32) (p : ClientMatchInfo) : Datagram :=
  sendDatagram .urgent .matchFound (matchFoundMessage matchID p.playerID) p.ip p.port

/-- `CreateMatchSession`. -/
def createMatchSession (s : MatchmakingServer) (now : Nat → Micros) (data : StartMatchData) :
    MatchmakingServer × List Datagram :=
  ({ s with pendingSessions := s.pendingSessions ++ [⟨sessionPlayers data now data.players⟩] },
    data.players.map (matchFoundDatagram data.matchID))

/-- The loop both reply handlers run: the first creation with the ID read from
the content, between the creations before it and those after it.  The content is
read again for every creation that is compared. -/
def searchLoop (content : Bytes) : List PendingMatchCreation → Except Exception
    (Option (List PendingMatchCreation × PendingMatchCreation × List PendingMatchCreation))
  | [] => .ok none
  | c :: cs =>
    match stoi content with
    | .error e => .error e
    | .ok id =>
      -- an `unsigned` is compared with an `int`: the `int` is converted
      if c.matchData.matchID = UInt32.ofInt id then .ok (some ([], c, cs))
      else
        match searchLoop content cs with
        | .error e => .error e
        | .ok none => .ok none
        | .ok (some (before, found, after)) => .ok (some (c :: before, found, after))

/-- The `MATCH_UNIQUE` handler: the match is confirmed, its creation erased. -/
def matchUniqueHandler (s : MatchmakingServer) (now : Nat → Micros) (job : RawPacketJob) :
    HandlerResult :=
  match searchLoop job.content s.pendingMatchCreations with
  | .error e => .error e
  | .ok none => .ok (s, [])
  | .ok (some (before, found, after)) =>
    let (s', sent) := s.createMatchSession now found.matchData
    .ok ({ s' with pendingMatchCreations := before ++ after }, sent)

/-- What `MATCH_USED` makes of the creation it names: a new ID, and from the
start. -/
def rekey (c : PendingMatchCreation) (matchID : UInt32) (now : Micros) : PendingMatchCreation :=
  let matchData := { c.matchData with matchID := matchID }
  { c with
    matchData := matchData
    serialized := serializeMatch matchData
    attempts := 0
    timer := ⟨now⟩ }

/-- The `MATCH_USED` handler. -/
def matchUsedHandler (s : MatchmakingServer) (now : Nat → Micros) (job : RawPacketJob) :
    HandlerResult :=
  match searchLoop job.content s.pendingMatchCreations with
  | .error e => .error e
  | .ok none => .ok (s, [])
  | .ok (some (before, found, after)) =>
    let matchID := s.lastMatchID + 1
    .ok ({ s with
        lastMatchID := matchID
        pendingMatchCreations := before ++ rekey found matchID (now 0) :: after }, [])

/-- A registered handler. -/
abbrev Handler := MatchmakingServer → (Nat → Micros) → RawPacketJob → HandlerResult

/-- `SubcribeActionHandlers`: the handler registered for each packet type. -/
def subcribeActionHandlers : PacketType → Option Handler
  | .findMatch => some fun s _ job => s.findMatchHandler job
  | .cancelSearch => some fun s _ job => s.cancelSearchHandler job
  | .ackMatchFound => some fun s _ job => s.ackMatchFoundHandler job
  | .matchUnique => some matchUniqueHandler
  | .matchUsed => some matchUsedHandler
  | _ => none

/-- The dispatch of a job: a type without a handler is dropped. -/
def dispatch (s : MatchmakingServer) (now : Nat → Micros) (job : RawPacketJob) : HandlerResult :=
  match subcribeActionHandlers job.type with
  | none => .ok (s, [])
  | some handler => handler s now job

/-! ## Pairing (`ProcessMatchmaking`) -/

/-- The inner loop: `count` entries leave the front of the queue and are given
the player IDs from `i` on. -/
def takePlayers :
    (count : Nat) → (i : UInt32) → List ClientMatchInfo →
      List ClientMatchInfo × List ClientMatchInfo
  | 0, _, queue => ([], queue)
  | _ + 1, _, [] => ([], []) -- `front` of an empty queue: the caller looked at its size
  | count + 1, i, p :: queue =>
    let (players, rest) := takePlayers count (i + 1) queue
    ({ p with playerID := i } :: players, rest)

/-- The creation of a match of the given players. -/
def formCreation (s : MatchmakingServer) (t : MatchType) (now : Micros)
    (players : List ClientMatchInfo) : PendingMatchCreation :=
  let matchData : StartMatchData :=
    { matchID := s.lastMatchID + 1
      type := t
      numOfPlayers := s.playersPerMatch.val.toInt32
      players := players }
  { matchData := matchData, serialized := serializeMatch matchData, timer := ⟨now⟩ }

/-- One round of the outer loop. -/
def pairOnce (s : MatchmakingServer) (t : MatchType) (now : Micros) : MatchmakingServer :=
  let taken := takePlayers s.playersPerMatch.val.toNat 0 (s.queueOf t)
  { s.setQueue t taken.2 with
    lastMatchID := s.lastMatchID + 1
    pendingMatchCreations := s.pendingMatchCreations ++ [s.formCreation t now taken.1] }

/-- The outer loop, with a bound on the number of rounds. -/
def pairLoop (t : MatchType) : Nat → (Nat → Micros) → MatchmakingServer → MatchmakingServer
  | 0, _, s => s
  | rounds + 1, now, s =>
    if s.playersPerMatch.val.toNat ≤ (s.queueOf t).length then
      pairLoop t rounds (fun i => now (i + 1)) (s.pairOnce t (now 0))
    else s

/-- `ProcessMatchmaking`.  Every round takes an entry, so there are no more
rounds than entries. -/
def processMatchmaking (s : MatchmakingServer) (t : MatchType) (now : Nat → Micros) :
    MatchmakingServer :=
  pairLoop t (s.queueOf t).length now s

/-! ## Retrying creations (`ProcessMatchCreations`) -/

/-- The datagram that asks the game server for a match. -/
def createMatchDatagram (c : PendingMatchCreation) : Datagram :=
  sendDatagram .urgent .createMatch c.serialized gameServerIP gameServerPort

/-- What a pass does with one creation. -/
inductive CreationOutcome where
  /-- The timer has not run long enough. -/
  | waiting
  /-- The retries are used up: the players go back to the queue. -/
  | givenUp
  /-- The match is asked for once more. -/
  | retried
  deriving DecidableEq, Repr

/-- Which of the three it is, at a reading of the clock. -/
def creationOutcome (c : PendingMatchCreation) (now : Micros) : CreationOutcome :=
  if asMilliseconds (c.timer.getElapsedTime now) < 500 then .waiting
  else if 5 ≤ c.attempts then .givenUp
  else .retried

/-- The loop over the creations present at entry.  The ones it keeps are
collected in the state. -/
def creationsLoop : (Nat → ClockReading) → List PendingMatchCreation → MatchmakingServer →
    MatchmakingServer × List Datagram
  | _, [], s => (s, [])
  | now, c :: cs, s =>
    let keep (c : PendingMatchCreation) : MatchmakingServer :=
      { s with pendingMatchCreations := s.pendingMatchCreations ++ [c] }
    let later := fun i => now (i + 1)
    match creationOutcome c (now 0).atElapsed with
    | .waiting => creationsLoop later cs (keep c)
    | .givenUp =>
      creationsLoop later cs
        (c.matchData.players.foldl (fun s p => s.pushQueue c.matchData.type p) s)
    | .retried =>
      let (s', sent) :=
        creationsLoop later cs
          (keep { c with timer := ⟨(now 0).atRestart⟩, attempts := c.attempts + 1 })
      (s', createMatchDatagram c :: sent)

/-- `ProcessMatchCreations`. -/
def processMatchCreations (s : MatchmakingServer) (now : Nat → ClockReading) :
    MatchmakingServer × List Datagram :=
  creationsLoop now s.pendingMatchCreations { s with pendingMatchCreations := [] }

/-! ## Acknowledgements (`ProcessMatchSessionsACKS`) -/

/-- What the inner loop leaves of a session. -/
structure SessionScan where
  players : List PendingMatch
  allAcked : Bool
  giveUp : Bool
  sent : List Datagram
  deriving DecidableEq

/-- The datagram of a resend: the message alone goes to the socket. -/
def resendDatagram (p : PendingMatch) : Datagram := ⟨p.matchMessage, p.player.ip, p.player.port⟩

/-- The inner loop.  It stops at the first player whose retries are used up. -/
def scanPlayers : (Nat → ClockReading) → List PendingMatch → SessionScan
  | _, [] => { players := [], allAcked := true, giveUp := false, sent := [] }
  | now, p :: ps =>
    let rest := scanPlayers (fun i => now (i + 1)) ps
    if p.ackRecieved then { rest with players := p :: rest.players }
    else if resendInterval < p.timer.getElapsedTime (now 0).atElapsed then
      if maxRetries ≤ p.retries then
        { players := p :: ps, allAcked := false, giveUp := true, sent := [] }
      else
        { players :=
            { p with timer := ⟨(now 0).atRestart⟩, retries := p.retries + 1 } :: rest.players
          allAcked := false
          giveUp := rest.giveUp
          sent := resendDatagram p :: rest.sent }
    else { rest with players := p :: rest.players, allAcked := false }

/-- `RemoveSessionAndReQueue`: the players that acknowledged go back to the
queue. -/
def removeSessionAndReQueue (s : MatchmakingServer) (players : List PendingMatch) :
    MatchmakingServer :=
  players.foldl (fun s p => if p.ackRecieved then s.pushQueue p.matchType p.player else s) s

/-- The outer loop over the sessions present at entry.  The ones it keeps are
collected in the state. -/
def sessionsLoop : (Nat → Nat → ClockReading) → List MatchSession → MatchmakingServer →
    MatchmakingServer × List Datagram
  | _, [], s => (s, [])
  | now, session :: rest, s =>
    let scan := scanPlayers (now 0) session.players
    let s' :=
      if scan.giveUp then s.removeSessionAndReQueue scan.players
      else if scan.allAcked then s
      else { s with pendingSessions := s.pendingSessions ++ [⟨scan.players⟩] }
    let (s'', sent) := sessionsLoop (fun i => now (i + 1)) rest s'
    (s'', scan.sent ++ sent)

/-- `ProcessMatchSessionsACKS`. -/
def processMatchSessionsACKS (s : MatchmakingServer) (now : Nat → Nat → ClockReading) :
    MatchmakingServer × List Datagram :=
  sessionsLoop now s.pendingSessions { s with pendingSessions := [] }

end MatchmakingServer

end ServiceServer
