import ServiceServer.Lib.Network
import ServiceServer.Protocol.Agreement

/-!
# The service and its clients

Clients that acknowledge match-found messages, and nothing else, over a network
that loses, duplicates, delays and reorders.  An acknowledgement names no match:
the service takes it for every pending session its sender is in.

* `toldMatch` — the match a match-found message is about, first or resent.
* `started_acked` — when a session starts, each player has been told of some match
  and its acknowledgement came in while the session was pending.
* `started_untold` — it need not have been told of this match.
-/

namespace ServiceServer

open Lib

namespace MatchmakingServer

/-! ## Match-found messages -/

/-- What every match-found message starts with: the address of the game server. -/
def matchFoundPrefix : Bytes :=
  gameServerIP.toString ++ colon ++ decimal gameServerPort.toNat ++ colon

/-- The text of a match-found message: the content of the first one, the whole of
a resend. -/
def matchFoundText (d : Datagram) : Option Bytes :=
  match parseRawDatagram d.data d.ip d.port with
  | none => none
  | some job =>
    if job.type = .matchFound then some job.content
    else if matchFoundPrefix.isPrefixOf d.data then some d.data
    else none

/-- The ID of the match a match-found message is about. -/
def toldMatch (d : Datagram) : Option Nat :=
  (matchFoundText d).map fun text =>
    ofDecimal ((text.drop matchFoundPrefix.length).takeWhile isDigit)

/-- The message of a match is about this match. -/
theorem matchID_matchFoundMessage (matchID playerID : UInt32) :
    ofDecimal (((matchFoundMessage matchID playerID).drop matchFoundPrefix.length).takeWhile isDigit)
      = matchID.toNat := by
  have hdrop : (matchFoundMessage matchID playerID).drop matchFoundPrefix.length
      = decimal matchID.toNat ++ (colon ++ decimal playerID.toNat) := by
    rw [matchFoundMessage, ← matchFoundPrefix, List.append_assoc, List.append_assoc,
      List.drop_left]
  rw [hdrop, takeWhile_decimal_append, ofDecimal_decimal]
  intro b hb
  obtain rfl : b = 58 := Option.some.inj hb.symm
  rfl

theorem toldMatch_matchFoundDatagram (matchID : UInt32) (p : ClientMatchInfo) :
    toldMatch (matchFoundDatagram matchID p) = some matchID.toNat := by
  have hp : parseRawDatagram (matchFoundDatagram matchID p).data (matchFoundDatagram matchID p).ip
      (matchFoundDatagram matchID p).port = some ⟨PacketHeader.urgent.mask, .matchFound,
        matchFoundMessage matchID p.playerID, some p.ip, p.port⟩ :=
    parseRawDatagram_create (by decide) _ _ _
  simp [toldMatch, matchFoundText, hp, matchID_matchFoundMessage]

theorem toldMatch_matchFoundMessage (matchID playerID : UInt32) (ip : IpAddress) (port : UInt16) :
    toldMatch ⟨matchFoundMessage matchID playerID, ip, port⟩ = some matchID.toNat := by
  obtain ⟨rest, hrest⟩ : ∃ rest, matchFoundMessage matchID playerID = 49 :: 57 :: rest := ⟨_, rfl⟩
  have hp : parseRawDatagram (matchFoundMessage matchID playerID) ip port
      = some ⟨49, .unlisted 57 (by decide), rest, some ip, port⟩ := by
    rw [hrest]
    rfl
  have hprefix : matchFoundPrefix.isPrefixOf (matchFoundMessage matchID playerID) = true := by
    rw [List.isPrefixOf_iff_prefix, matchFoundMessage, ← matchFoundPrefix]
    simp
  simp [toldMatch, matchFoundText, hp, hprefix, matchID_matchFoundMessage]

/-! ## The clients -/

/-- What the clients do with a datagram that reaches one of them: they remember
it, and the one that was told of a match acknowledges it.  The acknowledgement
is kept as the message it answers. -/
def clientsReact (received : List Datagram) (d : Datagram) : List Datagram × List Datagram :=
  (received ++ [d], if (toldMatch d).isSome then [d] else [])

/-- Does a step handle an acknowledgement? -/
def HandlesAck : Step → Prop
  | .handle _ job => job.type = .ackMatchFound
  | _ => False

/-- The service, its clients and the network between them.  Nobody else sends
acknowledgements; their content is not looked at. -/
def clientNetwork : Network MatchmakingServer Step Datagram Exception (List Datagram) Datagram
    Bytes where
  base := machine
  react := clientsReact
  handle content d := .handle (fun _ => 0) (jobOf .ackMatchFound content (destination d))
  free l := ¬ HandlesAck l

/-- The states of the whole. -/
abbrev ClientWorld := Network.World MatchmakingServer Datagram (List Datagram) Datagram

/-- What can happen in it. -/
abbrev ClientEvent := Network.Event Step Bytes clientNetwork.free

/-- A run of the whole. -/
abbrev ClientHistory := List (Transition ClientWorld ClientEvent (List Datagram))

/-- The message that the acknowledgement handled in an event answers. -/
def answered (t : Transition ClientWorld ClientEvent (List Datagram)) : Option Datagram :=
  match t.label with
  | .reply _ k => t.pre.replies[k]?
  | _ => none

/-- Where a session stands after a run. -/
def followSession (h : ClientHistory) (i : Nat) : Option Nat :=
  h.foldl (fun at? t => at?.bind fun i =>
    match t.label with
    | .own l _ => follow t.pre.base l i
    | _ => some i) (some i)

/-- Every acknowledgement answers a match-found message that was received, and
what was received was sent. -/
structure Answering (w : ClientWorld) : Prop where
  replies : ∀ d ∈ w.replies, d ∈ w.peer ∧ (toldMatch d).isSome
  received : ∀ d ∈ w.peer, d ∈ w.sent

theorem answering_step {w w' : ClientWorld} {e : ClientEvent} {out : List Datagram}
    (hw : Answering w) (h : clientNetwork.step w e = .ok (w', out)) : Answering w' := by
  cases Network.effect_of_step h with
  | undelivered => exact hw
  | unreplied => exact hw
  | own => exact ⟨hw.replies, fun d hd => List.mem_append_left _ (hw.received d hd)⟩
  | reply => exact ⟨hw.replies, fun d hd => List.mem_append_left _ (hw.received d hd)⟩
  | @deliver k d hd =>
    refine ⟨fun a ha => ?_, fun a ha => ?_⟩
    · rcases List.mem_append.1 ha with ha | ha
      · exact ⟨List.mem_append_left _ (hw.replies a ha).1, (hw.replies a ha).2⟩
      · simp only [clientNetwork, clientsReact] at ha ⊢
        split at ha
        · obtain rfl := List.mem_singleton.1 ha
          exact ⟨by simp, ‹_›⟩
        · simp at ha
    · rcases List.mem_append.1 ha with ha | ha
      · exact hw.received a ha
      · obtain rfl := List.mem_singleton.1 ha
        exact List.mem_of_getElem? hd

/-! ## A session and its acknowledgements -/

/-- **Whoever is acknowledged after a step was before, or acknowledges in it.** -/
theorem acked_step {s s' : MatchmakingServer} {l : Step} {out : List Datagram}
    (h : s.step l = .ok (s', out)) {i j : Nat} {session session' : MatchSession}
    (hi : s.pendingSessions[i]? = some session) (hj : s.follow l i = some j)
    (hsession' : s'.pendingSessions[j]? = some session') {q : PendingMatch}
    (hq : q ∈ session'.players) (hacked : q.ackRecieved = true) :
    (∃ p ∈ session.players, p.player = q.player ∧ p.ackRecieved = true) ∨
      HandledFrom .ackMatchFound q.player.endpoint l := by
  have hsame : s'.pendingSessions[j]? = some session →
      (∃ p ∈ session.players, p.player = q.player ∧ p.ackRecieved = true) ∨
        HandledFrom .ackMatchFound q.player.endpoint l := by
    intro hs
    obtain rfl : session' = session := Option.some.inj (hsession'.symm.trans hs)
    exact .inl ⟨q, hq, rfl, hacked⟩
  cases effect_of_step h with
  | @acked now job htype =>
    cases hj
    have hs : ackSession job session = session' := by
      simpa [hi] using hsession'
    rw [← hs] at hq
    obtain ⟨p, hp, rfl⟩ := List.mem_map.1 hq
    by_cases hcond : some p.player.ip = job.sender ∧ p.player.port = job.port
    · right
      rw [ackPlayer, if_pos hcond]
      exact ⟨htype, hcond.1.symm, hcond.2.symm⟩
    · left
      rw [ackPlayer, if_neg hcond] at hacked ⊢
      exact ⟨p, hp, rfl, hacked⟩
  | resent now =>
    simp only [follow, getElem?_withReadings now hi, Option.map_eq_some_iff] at hj
    obtain ⟨kept, hkept, rfl⟩ := hj
    have hstands := getElem?_filterMap_take
      (fun x : MatchSession × (Nat → ClockReading) => keptSession x.1 x.2)
      (getElem?_withReadings now hi) hkept
    rw [processMatchSessionsACKS_eq] at hsession'
    obtain rfl : kept = session' := Option.some.inj (hstands.symm.trans hsession')
    unfold keptSession at hkept
    split at hkept
    · cases hkept
      have hscan := map_scanPlayers (f := fun p => (p.player, p.ackRecieved))
        (fun p q hpq => by rw [hpq]) (now i) session.players
      have hmem : (q.player, q.ackRecieved) ∈ session.players.map
          fun p => (p.player, p.ackRecieved) := hscan ▸ List.mem_map.2 ⟨q, hq, rfl⟩
      obtain ⟨p, hp, heq⟩ := List.mem_map.1 hmem
      obtain ⟨hplayer, hflag⟩ := Prod.ext_iff.1 heq
      exact .inl ⟨p, hp, hplayer, hflag.trans hacked⟩
    · cases hkept
  | confirmed before c after =>
    cases hj
    refine hsame ?_
    obtain ⟨hlt, -⟩ := List.getElem?_eq_some_iff.1 hi
    simpa [List.getElem?_append_left hlt] using hi
  | paired t now =>
    cases hj
    obtain ⟨new, -, -, hsess, -⟩ := exists_formed s t now
    exact hsame (by rw [hsess, hi])
  | retried now =>
    cases hj
    exact hsame (by simpa [processMatchCreations_eq] using hi)
  | searched t => cases hj; exact hsame (by simpa using hi)
  | ignored => cases hj; exact hsame hi
  | cancelled => cases hj; exact hsame hi
  | rekeyed => cases hj; exact hsame hi

theorem not_acked_sessionPlayers {data : StartMatchData} {now : Nat → Micros}
    {ps : List ClientMatchInfo} : ∀ p ∈ sessionPlayers data now ps, p.ackRecieved = false := by
  induction ps generalizing now with
  | nil => simp [sessionPlayers]
  | cons p ps ih => simpa [sessionPlayers] using ih

/-- Each player of the session that has acknowledged did so in the run, and
answered a message it had received. -/
theorem acked_run {w w' : ClientWorld} {h : ClientHistory} (hw : Answering w)
    (hr : clientNetwork.machine.Run w h w') {i j : Nat} {session : MatchSession}
    (hi : w.base.pendingSessions[i]? = some session)
    (hnone : ∀ p ∈ session.players, p.ackRecieved = false) (hj : followSession h i = some j) :
    ∃ session', w'.base.pendingSessions[j]? = some session' ∧
      session'.identity = session.identity ∧
      ∀ q ∈ session'.players, q.ackRecieved = true →
        ∃ t ∈ h, ∃ d ∈ answered t, destination d = q.player.endpoint ∧ d ∈ t.pre.peer ∧
          (toldMatch d).isSome := by
  induction hr generalizing j with
  | nil =>
    cases hj
    refine ⟨session, hi, rfl, ?_⟩
    intro q hq hacked
    rw [hnone q hq] at hacked
    cases hacked
  | @snoc h v v' e out hr hstep ih =>
    simp only [followSession, List.foldl_append, List.foldl_cons, List.foldl_nil,
      Option.bind_eq_some_iff] at hj
    obtain ⟨k, hk, hj⟩ := hj
    obtain ⟨session₁, h₁, hid₁, hacked₁⟩ := ih hk
    have hv : Answering v := hr.invariant hw fun _ _ _ _ hw hs => answering_step hw hs
    -- what was acknowledged before the event was acknowledged in the run before it
    have hbefore : ∀ q : PendingMatch,
        (∃ p ∈ session₁.players, p.player = q.player ∧ p.ackRecieved = true) →
        ∃ t ∈ h ++ [⟨v, e, out, v'⟩], ∃ d ∈ answered t, destination d = q.player.endpoint ∧
          d ∈ t.pre.peer ∧ (toldMatch d).isSome := by
      rintro q ⟨p, hp, hplayer, hflag⟩
      obtain ⟨t, ht, hrest⟩ := hacked₁ p hp hflag
      exact ⟨t, List.mem_append_left _ ht, hplayer ▸ hrest⟩
    cases Network.effect_of_step hstep with
    | undelivered =>
      cases hj
      exact ⟨session₁, h₁, hid₁, fun q hq hacked => hbefore q ⟨q, hq, rfl, hacked⟩⟩
    | unreplied =>
      cases hj
      exact ⟨session₁, h₁, hid₁, fun q hq hacked => hbefore q ⟨q, hq, rfl, hacked⟩⟩
    | deliver =>
      cases hj
      exact ⟨session₁, h₁, hid₁, fun q hq hacked => hbefore q ⟨q, hq, rfl, hacked⟩⟩
    | @own l hfree s out hs =>
      obtain ⟨session₂, h₂, hid₂⟩ := identity_step hs h₁ hj
      refine ⟨session₂, h₂, hid₂.trans hid₁, ?_⟩
      intro q hq hacked
      rcases acked_step hs h₁ hj h₂ hq hacked with hold | hnew
      · exact hbefore q hold
      · refine absurd ?_ hfree
        cases l with
        | handle now job => exact hnew.1
        | _ => exact hnew.elim
    | @reply content k' d s out hd hs =>
      obtain ⟨session₂, h₂, hid₂⟩ := identity_step (l := clientNetwork.handle content d) hs h₁ hj
      refine ⟨session₂, h₂, hid₂.trans hid₁, ?_⟩
      intro q hq hacked
      rcases acked_step (l := clientNetwork.handle content d) hs h₁ hj h₂ hq hacked with hold | hnew
      · exact hbefore q hold
      · obtain ⟨-, hip, hport⟩ := hnew
        refine ⟨_, List.mem_append_right _ (List.mem_singleton_self _), d, hd, ?_, ?_⟩
        · exact Prod.ext (Option.some.inj hip) hport
        · exact hv.replies d (List.mem_of_getElem? hd)

/-- **A session starts when its players have acknowledged some match.**  Take any
run in which clients acknowledge only match-found messages they received, the
step that creates the session of a match, and a later pass that removes the
session because all its players have acknowledged.  Then each player of the match
had received a match-found message, and its acknowledgement of that message was
handled while the session was pending.  The message is about this match if all
match-found messages sent to the player were. -/
theorem started_acked {h₁ h₂ : ClientHistory} {w₁ w w₂ : ClientWorld} {l : Step}
    {hfree : ¬ HandlesAck l} {out : List Datagram} {data : StartMatchData}
    (hr₁ : clientNetwork.machine.Run (Network.start initial []) h₁ w₁)
    (hcreate : clientNetwork.step w₁ (.own l hfree) = .ok (w, out))
    (hdata : data ∈ confirmedBy w₁.base l) (hr₂ : clientNetwork.machine.Run w h₂ w₂) {j : Nat}
    (hj : followSession h₂ w₁.base.pendingSessions.length = some j) {session : MatchSession}
    (hsession : w₂.base.pendingSessions[j]? = some session) {now : Nat → ClockReading}
    (hstarted : sessionFate session now = .started) :
    ∀ p ∈ data.players, ∃ t ∈ h₂, ∃ d ∈ answered t,
      destination d = p.endpoint ∧ d ∈ t.pre.peer ∧ ∃ m, toldMatch d = some m ∧
        ((∀ d' ∈ w₂.sent, destination d' = p.endpoint →
          ∀ m', toldMatch d' = some m' → m' = data.matchID.toNat) → m = data.matchID.toNat) := by
  intro p hp
  have hw₁ : Answering w₁ := hr₁.invariant ⟨by simp [Network.start], by simp [Network.start]⟩
    fun _ _ _ _ hw hs => answering_step hw hs
  have hw : Answering w := answering_step hw₁ hcreate
  obtain ⟨hbase, -⟩ := Network.baseStep_ok hcreate
  obtain ⟨now₀, hsessions⟩ := session_of_confirmedBy hbase hdata
  have hnew : w.base.pendingSessions[w₁.base.pendingSessions.length]?
      = some ⟨sessionPlayers data now₀ data.players⟩ := by
    rw [hsessions, List.getElem?_concat_length]
  obtain ⟨session', hsession', hid, hacked⟩ :=
    acked_run hw hr₂ hnew (fun q hq => not_acked_sessionPlayers q hq) hj
  obtain rfl : session' = session := Option.some.inj (hsession'.symm.trans hsession)
  -- everyone in the session has acknowledged
  have hall : ∀ q ∈ session'.players, q.ackRecieved = true := by
    unfold sessionFate at hstarted
    split_ifs at hstarted with hgive hack
    exact allAcked_scanPlayers.1 hack
  have hmem : (p, matchFoundMessage data.matchID p.playerID, data.type) ∈ session'.identity := by
    rw [hid, identity_sessionPlayers]
    exact List.mem_map.2 ⟨p, hp, rfl⟩
  obtain ⟨q, hq, heq⟩ := List.mem_map.1 hmem
  obtain rfl : q.player = p := (Prod.ext_iff.1 heq).1
  obtain ⟨t, ht, d, hd, hdest, hpeer, htold⟩ := hacked q hq (hall q hq)
  obtain ⟨m, hm⟩ := Option.isSome_iff_exists.1 htold
  refine ⟨t, ht, d, hd, hdest, hpeer, m, hm, fun honly => honly d ?_ hdest m hm⟩
  obtain ⟨pre, post, rfl⟩ := List.append_of_mem ht
  obtain ⟨hpre, hstep, hpost⟩ := hr₂.mem_split
  have ht₁ : Answering t.pre := hpre.invariant hw fun _ _ _ _ hw hs => answering_step hw hs
  have hprefix := (Network.sent_prefix (.snoc .nil hstep)).trans (Network.sent_prefix hpost)
  exact hprefix.subset (ht₁.received d hpeer)

/-- A player searches. -/
def searchFor (ip : IpAddress) : ClientEvent :=
  .own (.handle (fun _ => 0) (jobOf .findMatch MatchType.normal.name (ip, 5000))) nofun

/-- The game server confirms a match. -/
def confirmMatch (m : Nat) : ClientEvent :=
  .own (.handle (fun _ => 0) (jobOf .matchUnique (decimal m) (gameServerIP, gameServerPort))) nofun

/-- Two players are told of match 1 and the first acknowledges; the second stays
silent until the match is given up, and a third player searches and is paired
with the first. -/
def pairedAgain : List ClientEvent :=
  [searchFor ⟨10, 0, 0, 1⟩, searchFor ⟨10, 0, 0, 2⟩,
      .own (.processMatchmaking .normal fun _ => 0) id, confirmMatch 1, .deliver 2, .reply [] 0] ++
    (List.range 6).map (fun k =>
      .own (.processMatchSessionsACKS fun _ _ => ⟨2000000 * (k + 1), 2000000 * (k + 1)⟩) id) ++
    [searchFor ⟨10, 0, 0, 3⟩, .own (.processMatchmaking .normal fun _ => 0) id]

/-- Match 2 is confirmed.  Its message to the third player is delivered and
acknowledged, the one to the first player is lost, and its old acknowledgement
comes in once more. -/
theorem exists_run_pairedAgain : ∃ h₁ w₁ w out data h₂ w₂ session,
    clientNetwork.machine.Run (Network.start initial []) h₁ w₁ ∧
      clientNetwork.step w₁ (confirmMatch 2) = .ok (w, out) ∧
      (data ∈ confirmedBy w₁.base (.handle (fun _ => 0)
        (jobOf .matchUnique (decimal 2) (gameServerIP, gameServerPort))) ∧ data.matchID = 2) ∧
      clientNetwork.machine.Run w h₂ w₂ ∧
      followSession h₂ w₁.base.pendingSessions.length = some 0 ∧
      w₂.base.pendingSessions = [session] ∧
      sessionFate session (fun _ => ⟨13000000, 13000000⟩) = .started := by
  obtain ⟨h₁, w₁, hr₁, hp⟩ := Machine.exists_run_of_exec (M := clientNetwork.machine)
    (s := Network.start initial []) (l := pairedAgain)
    (P := fun _ w₁ => Machine.okSat (clientNetwork.step w₁ (confirmMatch 2)) fun w _ =>
      ∃ data ∈ confirmedBy w₁.base (.handle (fun _ => 0)
        (jobOf .matchUnique (decimal 2) (gameServerIP, gameServerPort))), data.matchID = 2 ∧
        clientNetwork.machine.execSat w [.deliver 11, .reply [] 1, .reply [] 0] fun h₂ w₂ =>
          followSession h₂ w₁.base.pendingSessions.length = some 0 ∧
            ∃ session ∈ w₂.base.pendingSessions, w₂.base.pendingSessions = [session] ∧
              sessionFate session (fun _ => ⟨13000000, 13000000⟩) = .started) (by decide +kernel)
  obtain ⟨w, out, hcreate, hp⟩ := Machine.exists_of_okSat hp
  obtain ⟨data, hdata, hid, hp⟩ := hp
  obtain ⟨h₂, w₂, hr₂, hp⟩ := Machine.exists_run_of_exec hp
  obtain ⟨hfollow, session, -, hsession, hstarted⟩ := hp
  exact ⟨h₁, w₁, w, out, data, h₂, w₂, session, hr₁, hcreate, ⟨hdata, hid⟩, hr₂, hfollow,
    hsession, hstarted⟩

/-- In that run each player had acknowledged the message of some match. -/
theorem started_acked_pairedAgain : ∃ data : StartMatchData, data.matchID = 2 ∧
    ∃ h₂ : ClientHistory, ∀ p ∈ data.players, ∃ t ∈ h₂, ∃ d ∈ answered t,
      destination d = p.endpoint ∧ d ∈ t.pre.peer := by
  obtain ⟨h₁, w₁, w, out, data, h₂, w₂, session, hr₁, hcreate, ⟨hdata, hid⟩, hr₂, hj, hsession,
    hstarted⟩ := exists_run_pairedAgain
  refine ⟨data, hid, h₂, ?_⟩
  intro p hp
  obtain ⟨t, ht, d, hd, hdest, hpeer, -⟩ :=
    started_acked hr₁ hcreate hdata hr₂ hj (by rw [hsession]; rfl) hstarted p hp
  exact ⟨t, ht, d, hd, hdest, hpeer⟩

/-- The player waits for an acknowledgement of this match, and was not told of it. -/
def Untold (m : UInt32) (seen : List Datagram) (p : PendingMatch) : Prop :=
  p.matchMessage = matchFoundMessage m p.player.playerID ∧
    ∀ d ∈ seen, destination d = p.player.endpoint → toldMatch d ≠ some m.toNat

instance (m : UInt32) (seen : List Datagram) (p : PendingMatch) : Decidable (Untold m seen p) :=
  inferInstanceAs (Decidable (_ ∧ _))

/-- **A session starts although a player was never told of its match**: its
acknowledgement of an earlier one is taken for it. -/
theorem started_untold : ∃ h w session,
    clientNetwork.machine.Run (Network.start initial []) h w ∧
      w.base.pendingSessions = [session] ∧
      sessionFate session (fun _ => ⟨13000000, 13000000⟩) = .started ∧
      ∃ p ∈ session.players, p.matchMessage = matchFoundMessage 2 p.player.playerID ∧
        ∀ d ∈ w.peer, destination d = p.player.endpoint → toldMatch d ≠ some 2 := by
  obtain ⟨h, w, hr, hp⟩ := Machine.exists_run_of_exec (M := clientNetwork.machine)
    (s := Network.start initial [])
    (l := pairedAgain ++ [confirmMatch 2, .deliver 11, .reply [] 1, .reply [] 0])
    (P := fun _ w => ∃ session ∈ w.base.pendingSessions, w.base.pendingSessions = [session] ∧
      sessionFate session (fun _ => ⟨13000000, 13000000⟩) = .started ∧
        ∃ p ∈ session.players, Untold 2 w.peer p) (by decide +kernel)
  obtain ⟨session, -, hsession, hstarted, huntold⟩ := hp
  exact ⟨h, w, session, hr, hsession, hstarted, huntold⟩

end MatchmakingServer

end ServiceServer
