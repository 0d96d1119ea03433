import ServiceServer.NetworkDefs

/-!
# Match information (`StartMatchData.h`)

The records the matchmaking service moves players through (a queue entry, a
pending creation, a pending session) and `serializeMatch`, the text of a match
that is sent to the game server.
-/

namespace ServiceServer

open Lib

/-- `MatchType`. -/
inductive MatchType where
  | normal
  | ranked
  deriving DecidableEq, Repr

/-- A client as the sockets see it. -/
abbrev Endpoint := IpAddress × UInt16

/-- `ClientMatchInfo`: an entry of a queue, or a player of a match. -/
structure ClientMatchInfo where
  ip : IpAddress
  port : UInt16
  playerID : UInt32 := 0
  deriving DecidableEq, Repr

/-- Where the client is. -/
def ClientMatchInfo.endpoint (p : ClientMatchInfo) : Endpoint := (p.ip, p.port)

/-- `PendingMatch`: a player of a session that is being told about its match. -/
structure PendingMatch where
  player : ClientMatchInfo
  matchMessage : Bytes
  retries : Int := 0
  timer : Clock
  ackRecieved : Bool := false
  matchType : MatchType
  deriving DecidableEq, Repr

/-- `MatchSession`. -/
structure MatchSession where
  players : List PendingMatch
  deriving DecidableEq, Repr

/-- `StartMatchData`. -/
structure StartMatchData where
  matchID : UInt32
  type : MatchType
  numOfPlayers : Int32
  players : List ClientMatchInfo
  deriving DecidableEq

/-- `PendingMatchCreation`: a match the game server has not confirmed yet. -/
structure PendingMatchCreation where
  matchData : StartMatchData
  serialized : Bytes := []
  attempts : Int := 0
  timer : Clock
  waitingForAck : Bool := true
  deriving DecidableEq

/-- The name of a match type on the wire. -/
def MatchType.name : MatchType → Bytes
  | .ranked => ascii ['R', 'A', 'N', 'K', 'E', 'D']
  | .normal => ascii ['N', 'O', 'R', 'M', 'A', 'L']

/-- The three fields of a player in a serialized match. -/
def serializePlayer (p : ClientMatchInfo) : Bytes :=
  colon ++ p.ip.toString ++ colon ++ decimal p.port.toNat ++ colon ++ decimal p.playerID.toNat

/-- `SerializeMatch`. -/
def serializeMatch (data : StartMatchData) : Bytes :=
  decimal data.matchID.toNat ++ colon ++ data.type.name ++ colon ++
    printInt data.numOfPlayers.toInt ++ data.players.flatMap serializePlayer

end ServiceServer
