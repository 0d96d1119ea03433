import ServiceServer.VersionChecker
import ServiceServer.Matchmaking.Ids

/-!
# Does what is sent fit?

`SendDatagram` copies the header, the type and the content into a buffer of 1024
bytes, and never looks at the length of the content.  Every peer receives into a
buffer of that size.  What a service sends must therefore be short enough by itself.

* `SendCall.fits_iff` — a call fits when its content has at most 1022 bytes.
* `sendsFit_of_reachable` — all that the matchmaking service sends is short: two
  players make a text of fewer than a hundred bytes.
* `datagrams_fit_iff` — the version service sends what its files hold, which need not
  be.
-/

namespace ServiceServer

open Lib

/-- The size of the buffer in `SendDatagram`, and of those the services receive
into. -/
def bufferSize : Nat := 1024

namespace SendCall

/-- The call writes only into its buffer, and a peer reads from the datagram what was
passed in. -/
structure Fits (call : SendCall) : Prop where
  inBuffer : 2 + call.content.length ≤ bufferSize
  decodes : ∀ ip port,
    (receiveInto bufferSize call.datagram.data).bind (parseRawDatagram · ip port)
      = some ⟨call.header.mask, call.type, call.content, some ip, port⟩

/-- **A call fits when its content has at most 1022 bytes.** -/
theorem fits_iff {header : PacketHeader} {type : PacketType} {content : Bytes} {ip : IpAddress}
    {port : UInt16} (htype : type ≠ .invalid) :
    Fits ⟨header, type, content, ip, port⟩ ↔ content.length ≤ 1022 := by
  constructor
  · intro hfits
    have h : 2 + content.length ≤ 1024 := hfits.inBuffer
    omega
  · intro hlen
    refine ⟨?_, ?_⟩
    · show 2 + content.length ≤ 1024
      omega
    · intro peer peerPort
      have hshort : (createRawDatagram header.mask type content).length ≤ bufferSize := by
        rw [createRawDatagram, List.length_cons, List.length_cons, bufferSize]
        omega
      show (receiveInto bufferSize (createRawDatagram header.mask type content)).bind _ = _
      rw [receiveInto, if_pos hshort, Option.bind_some, parseRawDatagram_create htype]

end SendCall

/-! ## The texts of the matchmaking service -/

theorem length_toString_le (ip : IpAddress) : ip.toString.length ≤ 15 := by
  have hbyte : ∀ b : UInt8, (decimal b.toNat).length ≤ 3 := fun b =>
    length_decimal_le (by decide) (lt_of_lt_of_le b.toNat_lt (by decide))
  have h₀ := hbyte ip.byte0
  have h₁ := hbyte ip.byte1
  have h₂ := hbyte ip.byte2
  have h₃ := hbyte ip.byte3
  simp only [IpAddress.toString, ascii, List.length_append, List.length_map, List.length_cons,
    List.length_nil]
  omega

theorem length_decimal_uint32 (n : UInt32) : (decimal n.toNat).length ≤ 10 :=
  length_decimal_le (by decide) (lt_of_lt_of_le n.toNat_lt (by decide))

theorem length_decimal_uint16 (n : UInt16) : (decimal n.toNat).length ≤ 5 :=
  length_decimal_le (by decide) (lt_of_lt_of_le n.toNat_lt (by decide))

theorem length_serializePlayer_le (p : ClientMatchInfo) : (serializePlayer p).length ≤ 33 := by
  have hip := length_toString_le p.ip
  have hport := length_decimal_uint16 p.port
  have hid := length_decimal_uint32 p.playerID
  simp only [serializePlayer, colon, ascii, List.length_append, List.length_map, List.length_cons,
    List.length_nil]
  omega

/-- The text of a match of two players is short. -/
theorem length_serializeMatch_le {data : StartMatchData} (hnumbered : data.Numbered)
    (htwo : data.players.length = 2) : (serializeMatch data).length ≤ 85 := by
  have hid := length_decimal_uint32 data.matchID
  have hname : data.type.name.length = 6 := by cases data.type <;> rfl
  have hcount : data.numOfPlayers.toInt = 2 := by
    rw [← hnumbered.2, htwo]
    rfl
  have hprint : (printInt data.numOfPlayers.toInt).length = 1 := by
    rw [hcount]
    decide
  have hplayers : (data.players.flatMap serializePlayer).length ≤ 66 := by
    obtain ⟨p, q, hpq⟩ := List.length_eq_two.1 htwo
    have hp := length_serializePlayer_le p
    have hq := length_serializePlayer_le q
    simp only [hpq, List.flatMap_cons, List.flatMap_nil, List.length_append, List.length_nil]
    omega
  have hcolon : colon.length = 1 := rfl
  simp only [serializeMatch, List.length_append, hname, hprint, hcolon]
  omega

namespace MatchmakingServer

theorem length_matchFoundMessage_le (matchID playerID : UInt32) :
    (matchFoundMessage matchID playerID).length ≤ 43 := by
  have hid := length_decimal_uint32 matchID
  have hplayer := length_decimal_uint32 playerID
  have hip := length_toString_le gameServerIP
  have hport := length_decimal_uint16 gameServerPort
  have hcolon : colon.length = 1 := rfl
  simp only [matchFoundMessage, List.length_append, hcolon]
  omega

/-- Every pending match has as many players as a match takes. -/
structure Paired (s : MatchmakingServer) : Prop where
  playersPerMatch : s.playersPerMatch.val = 2
  players : ∀ c ∈ s.pendingMatchCreations, c.matchData.players.length = 2

/-- The pairing pass makes matches of as many players as a match takes. -/
theorem length_players_processMatchmaking (s : MatchmakingServer) (t : MatchType)
    (now : Nat → Micros) :
    (s.processMatchmaking t now).playersPerMatch = s.playersPerMatch ∧
      ∀ c ∈ (s.processMatchmaking t now).pendingMatchCreations, c ∈ s.pendingMatchCreations ∨
        c.matchData.players.length = s.playersPerMatch.val.toNat := by
  refine processMatchmaking_induction (t := t) (P := fun r =>
    r.playersPerMatch = s.playersPerMatch ∧ ∀ c ∈ r.pendingMatchCreations,
      c ∈ s.pendingMatchCreations ∨ c.matchData.players.length = s.playersPerMatch.val.toNat)
    ?_ ⟨rfl, fun c hc => .inl hc⟩ now
  rintro r now ⟨hper, hcs⟩ hlen
  refine ⟨by simpa [pairOnce] using hper, ?_⟩
  intro c hc
  simp only [pairOnce, List.mem_append, List.mem_singleton] at hc
  rcases hc with hc | rfl
  · exact hcs c hc
  · right
    show (takePlayers r.playersPerMatch.val.toNat 0 (r.queueOf t)).1.length = _
    rw [takePlayers_eq hlen, length_numbered, List.length_take, Nat.min_eq_left hlen, hper]

theorem paired_step {s s' : MatchmakingServer} {l : Step} {out : List Datagram} (hs : s.Paired)
    (h : s.step l = .ok (s', out)) : s'.Paired := by
  obtain ⟨hper, hcs⟩ := hs
  cases effect_of_step h with
  | ignored => exact ⟨hper, hcs⟩
  | searched t => exact ⟨by simpa using hper, by simpa using hcs⟩
  | cancelled => exact ⟨hper, hcs⟩
  | acked => exact ⟨hper, hcs⟩
  | confirmed before c after _ heq =>
    refine ⟨hper, fun b hb => hcs b ?_⟩
    rw [heq]
    rcases List.mem_append.1 hb with hb | hb
    · exact List.mem_append_left _ hb
    · exact List.mem_append_right _ (List.mem_cons_of_mem _ hb)
  | rekeyed before c after _ heq =>
    refine ⟨hper, ?_⟩
    intro b hb
    have hold : ∀ b ∈ before ++ c :: after, b.matchData.players.length = 2 := heq ▸ hcs
    simp only [List.mem_append, List.mem_cons] at hb hold
    rcases hb with hb | rfl | hb
    · exact hold b (.inl hb)
    · exact hold c (.inr (.inl rfl))
    · exact hold b (.inr (.inr hb))
  | paired t now =>
    obtain ⟨hsame, hformed⟩ := length_players_processMatchmaking s t now
    refine ⟨by rw [hsame]; exact hper, ?_⟩
    intro c hc
    rcases hformed c hc with hold | hnew
    · exact hcs c hold
    · rw [hnew, hper]
      rfl
  | retried now =>
    rw [processMatchCreations_eq]
    refine ⟨by simpa using hper, ?_⟩
    intro b hb
    obtain ⟨x, hx, hkept⟩ := List.mem_filterMap.1 hb
    rw [(matchData_keptCreation hkept).1]
    exact hcs x.1 (mem_of_mem_withReadings hx)
  | resent now =>
    rw [processMatchSessionsACKS_eq]
    exact ⟨by simpa using hper, by simpa using hcs⟩

/-- Whatever step comes next, each `SendDatagram` it calls fits.  A resend is handed to
the socket as it is. -/
def SendsFit (s : MatchmakingServer) : Prop :=
  ∀ l s' out, s.step l = .ok (s', out) → (∀ now, l ≠ .processMatchSessionsACKS now) →
    ∀ d ∈ out, ∃ call : SendCall, d = call.datagram ∧ call.Fits

/-- **What the matchmaking service sends is short**, in every state it can reach. -/
theorem sendsFit_of_reachable {s : MatchmakingServer} (hs : machine.Reachable initial s) :
    s.SendsFit := by
  obtain ⟨h, hr⟩ := hs
  have htidy : s.Tidy := hr.invariant tidy_initial fun _ _ _ _ => tidy_step
  have hpaired : s.Paired := hr.invariant ⟨rfl, by simp [initial]⟩ fun _ _ _ _ => paired_step
  intro l s' out hstep hl d hd
  cases effect_of_step hstep with
  | @searched _ job ip =>
    rw [List.mem_singleton] at hd
    exact ⟨⟨.urgent, .searchAck, [], ip, job.port⟩, hd,
      (SendCall.fits_iff (by decide)).2 (by simp)⟩
  | @cancelled _ job ip =>
    rw [List.mem_singleton] at hd
    exact ⟨⟨.urgent, .ok, [], ip, job.port⟩, hd, (SendCall.fits_iff (by decide)).2 (by simp)⟩
  | confirmed before c after =>
    obtain ⟨p, -, rfl⟩ := List.mem_map.1 hd
    refine ⟨⟨.urgent, .matchFound, matchFoundMessage c.matchData.matchID p.playerID, p.ip, p.port⟩,
      rfl, (SendCall.fits_iff (by decide)).2 ?_⟩
    exact (length_matchFoundMessage_le _ _).trans (by decide)
  | retried now =>
    rw [processMatchCreations_eq] at hd
    obtain ⟨x, hx, hd⟩ := List.mem_flatMap.1 hd
    unfold sentForCreation at hd
    split at hd
    · have hc := mem_of_mem_withReadings hx
      refine ⟨⟨.urgent, .createMatch, x.1.serialized, gameServerIP, gameServerPort⟩,
        List.mem_singleton.1 hd, (SendCall.fits_iff (by decide)).2 ?_⟩
      obtain ⟨hser, hnumbered⟩ := htidy.creations x.1 hc
      show x.1.serialized.length ≤ 1022
      rw [hser]
      exact (length_serializeMatch_le hnumbered (hpaired.players x.1 hc)).trans (by decide)
    · simp at hd
  | resent now => exact absurd rfl (hl now)
  | ignored => simp at hd
  | acked => simp at hd
  | rekeyed => simp at hd
  | paired => simp at hd

end MatchmakingServer

/-! ## The files of the version service -/

namespace VersionChecker

/-- The version a version file holds: its first line, or `0.0` if it cannot be
opened. -/
def versionIn (versionFile : Option Bytes) : Bytes :=
  (versionFile.map fun file => file.takeWhile (· ≠ newline)).getD (ascii ['0', '.', '0'])

theorem getLocalVersion_eq (versionFile : Option Bytes) :
    getLocalVersion versionFile = versionIn versionFile := by
  cases versionFile with
  | none => rfl
  | some file => exact getLocalVersion_some file

/-- A client that sends its version is answered by calls that fit, and a map it is
sent has the lines of the map file. -/
def SendsFit (versionFile mapFile : Option Bytes) (clientVersion : Bytes) : Prop :=
  ∀ job ip, job.content = clientVersion → job.sender = some ip →
    ∃ calls, (create versionFile).versionHandler mapFile job = .ok calls ∧
      ∀ call ∈ calls, call.Fits ∧ (call.type = .updateMap →
        ∃ file, mapFile = some file ∧ lines newline call.content = lines newline file)

/-- What the answer to a version consists of. -/
theorem versionHandler_eq {v : VersionChecker} {mapFile : Option Bytes} {job : RawPacketJob}
    {ip : IpAddress} (hsender : job.sender = some ip) :
    v.versionHandler mapFile job =
      .ok (if job.content = v.lastestVersion then [⟨.normal, .ok, [], ip, job.port⟩]
        else ⟨.normal, .update, v.lastestVersion, ip, job.port⟩ ::
          sendFile mapFile ip job.port) := by
  unfold versionHandler
  rw [hsender]
  split_ifs <;> rfl

/-- **When the answers fit**: the client is up to date, or the version and the map with
a complete last line take at most 1022 bytes. -/
theorem sendsFit_iff (versionFile mapFile : Option Bytes) (clientVersion : Bytes) :
    SendsFit versionFile mapFile clientVersion ↔
      clientVersion = versionIn versionFile ∨
        (versionIn versionFile).length ≤ 1022 ∧ ∀ file, mapFile = some file →
          file.length + (if LastLineOpen newline file then 1 else 0) ≤ 1022 := by
  have hlatest : (create versionFile).lastestVersion = versionIn versionFile :=
    getLocalVersion_eq versionFile
  constructor
  · intro hfit
    by_cases hsame : clientVersion = versionIn versionFile
    · exact .inl hsame
    · right
      obtain ⟨calls, hcalls, hall⟩ := hfit ⟨1, .version, clientVersion, some ⟨0, 0, 0, 0⟩, 0⟩
        ⟨0, 0, 0, 0⟩ rfl rfl
      rw [versionHandler_eq rfl, hlatest, if_neg hsame, Except.ok.injEq] at hcalls
      subst hcalls
      refine ⟨(SendCall.fits_iff (by decide)).1 (hall _ (List.mem_cons_self ..)).1, ?_⟩
      rintro file rfl
      rw [← length_fullMap]
      exact (SendCall.fits_iff (by decide)).1
        (hall _ (List.mem_cons_of_mem _ (List.mem_singleton_self _))).1
  · intro hcond job ip hcontent hsender
    refine ⟨_, versionHandler_eq hsender, ?_⟩
    rw [hlatest, hcontent]
    intro call hcall
    by_cases hsame : clientVersion = versionIn versionFile
    · rw [if_pos hsame, List.mem_singleton] at hcall
      subst hcall
      exact ⟨(SendCall.fits_iff (by decide)).2 (by simp), by simp⟩
    · obtain ⟨hversion, hmap⟩ := hcond.resolve_left hsame
      rw [if_neg hsame, List.mem_cons] at hcall
      rcases hcall with rfl | hcall
      · exact ⟨(SendCall.fits_iff (by decide)).2 hversion, by simp⟩
      · cases mapFile with
        | none => simp [sendFile] at hcall
        | some file =>
          rw [sendFile, List.mem_singleton] at hcall
          subst hcall
          refine ⟨(SendCall.fits_iff (by decide)).2 ?_, fun _ => ⟨file, rfl, lines_fullMap file⟩⟩
          show (fullMap file).length ≤ 1022
          rw [length_fullMap]
          exact hmap file rfl

end VersionChecker

/-- **When every datagram fits and decodes**: always in the matchmaking service, and in
the version service when the client is up to date or both files are short. -/
theorem datagrams_fit_iff {s : MatchmakingServer}
    (hs : MatchmakingServer.machine.Reachable MatchmakingServer.initial s)
    (versionFile mapFile : Option Bytes) (clientVersion : Bytes) :
    s.SendsFit ∧ VersionChecker.SendsFit versionFile mapFile clientVersion ↔
      clientVersion = VersionChecker.versionIn versionFile ∨
        (VersionChecker.versionIn versionFile).length ≤ 1022 ∧ ∀ file, mapFile = some file →
          file.length + (if LastLineOpen newline file then 1 else 0) ≤ 1022 := by
  rw [VersionChecker.sendsFit_iff]
  exact and_iff_right (MatchmakingServer.sendsFit_of_reachable hs)

/-- With the version `0.0`, a client that has none is sent a map of three lines. -/
theorem datagrams_fit_small :
    MatchmakingServer.initial.SendsFit ∧ VersionChecker.SendsFit (some (ascii ['0', '.', '0']))
      (some [35, 35, 10, 35, 10, 35, 35]) [] :=
  (datagrams_fit_iff ⟨[], .nil⟩ _ _ _).2 (.inr ⟨by decide, by
    rintro file hfile
    obtain rfl := Option.some.inj hfile
    decide⟩)

/-- A map file of one line with 1023 characters: the client is sent an update, and
then `SendDatagram` is called with a content that does not fit its buffer. -/
theorem map_overflows_buffer : ∃ (mapFile : Bytes) (job : RawPacketJob) (calls : List SendCall),
    mapFile.length = 1023 ∧
      (VersionChecker.create (some (ascii ['0', '.', '1']))).versionHandler (some mapFile) job
        = .ok calls ∧
      (∃ call ∈ calls, call.type = .updateMap ∧ bufferSize < 2 + call.content.length) ∧
      ¬ VersionChecker.SendsFit (some (ascii ['0', '.', '1'])) (some mapFile)
        (ascii ['0', '.', '0']) := by
  obtain ⟨mapFile, hlen⟩ : ∃ mapFile : Bytes, mapFile.length = 1023 :=
    ⟨List.replicate 1023 35, List.length_replicate⟩
  let job : RawPacketJob :=
    ⟨1, .version, ascii ['0', '.', '0'], some ⟨10, 0, 0, 1⟩, 5000⟩
  have hmap : 1022 < (VersionChecker.fullMap mapFile).length := by
    rw [VersionChecker.length_fullMap, hlen]
    omega
  refine ⟨mapFile, job, [⟨.normal, .update, ascii ['0', '.', '1'], ⟨10, 0, 0, 1⟩, 5000⟩,
    ⟨.normal, .updateMap, VersionChecker.fullMap mapFile, ⟨10, 0, 0, 1⟩, 5000⟩], hlen,
    VersionChecker.versionHandler_eq rfl, ⟨_, List.mem_cons_of_mem _ (List.mem_singleton_self _),
    rfl, ?_⟩, ?_⟩
  · rw [bufferSize]
    show 1024 < 2 + (VersionChecker.fullMap mapFile).length
    omega
  · rw [VersionChecker.sendsFit_iff]
    rintro (hsame | ⟨-, hshort⟩)
    · revert hsame
      decide
    · have h := hshort mapFile rfl
      omega

end ServiceServer
