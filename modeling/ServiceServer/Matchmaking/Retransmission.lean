import ServiceServer.Matchmaking.Cancel

/-!
# The match-found message, first and again

A player is told about its match twice over: once by `createMatchSession`, with
the header and the type of a datagram, and then by `processMatchSessionsACKS`,
which hands the bare message to the socket.

* `follow` — where a session stands after a step, and `identity_step`: a session
  keeps its players, their messages and their match type for as long as it is
  pending.
* `resend_never_original` — no resend carries the bytes of the original, and none
  is read by `parseRawDatagram` as the original is.
-/

namespace ServiceServer

open Lib

/-- What stays of a session for as long as it is pending. -/
def MatchSession.identity (session : MatchSession) : List (ClientMatchInfo × Bytes × MatchType) :=
  session.players.map fun p => (p.player, p.matchMessage, p.matchType)

namespace MatchmakingServer

/-! ## Following a session -/

/-- Where the session at index `i` stands after a step; `none` once it is
removed. -/
def follow (s : MatchmakingServer) (l : Step) (i : Nat) : Option Nat :=
  match l with
  | .processMatchSessionsACKS now =>
    let kept (x : MatchSession × (Nat → ClockReading)) := keptSession x.1 x.2
    match (withReadings now s.pendingSessions)[i]? with
    | none => none
    | some x =>
      (kept x).map fun _ => (((withReadings now s.pendingSessions).take i).filterMap kept).length
  | _ => some i

/-- Where it stands after a run. -/
def followRun (h : List (Transition MatchmakingServer Step (List Datagram))) (i : Nat) :
    Option Nat :=
  h.foldl (fun at? t => at?.bind (t.pre.follow t.label)) (some i)

/-- An element that a filter keeps stands after the kept ones before it. -/
theorem getElem?_filterMap_take {α β : Type} (f : α → Option β) {l : List α} {i : Nat} {a : α}
    {b : β} (ha : l[i]? = some a) (hb : f a = some b) :
    (l.filterMap f)[((l.take i).filterMap f).length]? = some b := by
  obtain ⟨hi, rfl⟩ := List.getElem?_eq_some_iff.1 ha
  have hsplit : l.filterMap f
      = (l.take i).filterMap f ++ b :: (l.drop (i + 1)).filterMap f := by
    rw [← List.filterMap_cons_some hb, ← List.filterMap_append, ← List.drop_eq_getElem_cons hi,
      List.take_append_drop]
  rw [hsplit, List.getElem?_append_right le_rfl, Nat.sub_self, List.getElem?_cons_zero]

theorem getElem?_withReadings {α ρ : Type} (now : Nat → ρ) {l : List α} {i : Nat} {a : α}
    (ha : l[i]? = some a) : (withReadings now l)[i]? = some (a, now i) := by
  induction l generalizing now i with
  | nil => simp at ha
  | cons b l ih =>
    cases i with
    | zero => simpa [withReadings] using ha
    | succ i => simpa [withReadings] using ih (fun i => now (i + 1)) (by simpa using ha)

theorem identity_keptSession {session session' : MatchSession} {now : Nat → ClockReading}
    (h : keptSession session now = some session') : session'.identity = session.identity := by
  unfold keptSession at h
  split at h
  · cases h
    exact map_scanPlayers (fun p q hpq => by rw [hpq]) now session.players
  · cases h

theorem identity_ackSession (job : RawPacketJob) (session : MatchSession) :
    (ackSession job session).identity = session.identity := by
  have h : ∀ p, ((ackPlayer job p).player, (ackPlayer job p).matchMessage,
      (ackPlayer job p).matchType) = (p.player, p.matchMessage, p.matchType) := by
    intro p
    unfold ackPlayer; split <;> rfl
  simp [MatchSession.identity, ackSession, Function.comp_def, h]

/-- **A pending session keeps its identity**: no step changes whom it tells, or
what. -/
theorem identity_step {s s' : MatchmakingServer} {l : Step} {out : List Datagram}
    (h : s.step l = .ok (s', out)) {i j : Nat} {session : MatchSession}
    (hi : s.pendingSessions[i]? = some session) (hj : s.follow l i = some j) :
    ∃ session', s'.pendingSessions[j]? = some session' ∧
      session'.identity = session.identity := by
  cases effect_of_step h with
  | resent now =>
    simp only [follow, getElem?_withReadings now hi, Option.map_eq_some_iff] at hj
    obtain ⟨session', hkept, rfl⟩ := hj
    refine ⟨session', ?_, identity_keptSession hkept⟩
    rw [processMatchSessionsACKS_eq]
    exact getElem?_filterMap_take (fun x => keptSession x.1 x.2) (getElem?_withReadings now hi) hkept
  | @acked _ job htype =>
    cases hj
    exact ⟨ackSession job session, by simp [hi], identity_ackSession job session⟩
  | confirmed before c after htype hcs =>
    cases hj
    refine ⟨session, ?_, rfl⟩
    obtain ⟨hlt, -⟩ := List.getElem?_eq_some_iff.1 hi
    simpa [List.getElem?_append_left hlt] using hi
  | searched t => cases hj; exact ⟨session, by simpa using hi, rfl⟩
  | paired t now =>
    cases hj
    refine ⟨session, ?_, rfl⟩
    have hsame : (s.processMatchmaking t now).pendingSessions = s.pendingSessions :=
      processMatchmaking_induction (P := fun r => r.pendingSessions = s.pendingSessions)
        (fun r now hr _ => by simpa [pairOnce] using hr) rfl now
    rw [hsame, hi]
  | retried now =>
    cases hj
    refine ⟨session, ?_, rfl⟩
    rw [processMatchCreations_eq]
    simpa using hi
  | ignored => cases hj; exact ⟨session, hi, rfl⟩
  | cancelled => cases hj; exact ⟨session, hi, rfl⟩
  | rekeyed => cases hj; exact ⟨session, hi, rfl⟩

/-- The same over a run. -/
theorem identity_run {s s' : MatchmakingServer}
    {h : List (Transition MatchmakingServer Step (List Datagram))} (hr : machine.Run s h s')
    {i j : Nat} {session : MatchSession} (hi : s.pendingSessions[i]? = some session)
    (hj : followRun h i = some j) :
    ∃ session', s'.pendingSessions[j]? = some session' ∧
      session'.identity = session.identity := by
  induction hr generalizing j with
  | nil => cases hj; exact ⟨session, hi, rfl⟩
  | @snoc h r s' l out _ hs ih =>
    simp only [followRun, List.foldl_append, List.foldl_cons, List.foldl_nil,
      Option.bind_eq_some_iff] at hj
    obtain ⟨k, hk, hj⟩ := hj
    obtain ⟨session₁, h₁, hid₁⟩ := ih hk
    obtain ⟨session₂, h₂, hid₂⟩ := identity_step hs h₁ hj
    exact ⟨session₂, h₂, hid₂.trans hid₁⟩

/-! ## The two messages -/

theorem identity_sessionPlayers (data : StartMatchData) (now : Nat → Micros) :
    MatchSession.identity ⟨sessionPlayers data now data.players⟩
      = data.players.map fun p => (p, matchFoundMessage data.matchID p.playerID, data.type) := by
  have h : ∀ (now : Nat → Micros) (ps : List ClientMatchInfo),
      (sessionPlayers data now ps).map (fun p => (p.player, p.matchMessage, p.matchType))
        = ps.map fun p => (p, matchFoundMessage data.matchID p.playerID, data.type) := by
    intro now ps
    induction ps generalizing now with
    | nil => rfl
    | cons p ps ih => simp [sessionPlayers, ih]
  exact h now data.players

/-- **No retransmission carries the message of the original.**  Take any match,
the session `createMatchSession` builds from it, any run from there, and a later
pass over the sessions in which it is still pending.  Whatever that pass sends
for the session goes to one of its players and is the player's bare message: not
the bytes this player was first sent, and nothing `parseRawDatagram` reads as
the urgent match-found datagram with that message, as it does the original. -/
theorem resend_never_original {s₀ s : MatchmakingServer} {now₀ : Nat → Micros}
    {data : StartMatchData} {h : List (Transition MatchmakingServer Step (List Datagram))}
    (hr : machine.Run (s₀.createMatchSession now₀ data).1 h s) {i : Nat}
    (hi : followRun h s₀.pendingSessions.length = some i) {session : MatchSession}
    (hsession : s.pendingSessions[i]? = some session) (now : Nat → Nat → ClockReading)
    {d : Datagram} (hd : d ∈ (scanPlayers (now i) session.players).sent) :
    ∃ p ∈ data.players, ∃ original ∈ (s₀.createMatchSession now₀ data).2,
      destination d = p.endpoint ∧ original = matchFoundDatagram data.matchID p ∧
        d.data = matchFoundMessage data.matchID p.playerID ∧
        d.data ≠ original.data ∧
        (∀ ip port, parseRawDatagram original.data ip port
          = some ⟨PacketHeader.urgent.mask, .matchFound,
              matchFoundMessage data.matchID p.playerID, some ip, port⟩) ∧
        ∀ ip port, parseRawDatagram d.data ip port
          ≠ some ⟨PacketHeader.urgent.mask, .matchFound,
              matchFoundMessage data.matchID p.playerID, some ip, port⟩ := by
  have hnew : (s₀.createMatchSession now₀ data).1.pendingSessions[s₀.pendingSessions.length]?
      = some ⟨sessionPlayers data now₀ data.players⟩ := by
    simp [createMatchSession]
  obtain ⟨session', hsession', hid⟩ := identity_run hr hnew hi
  obtain rfl : session' = session := Option.some.inj (hsession'.symm.trans hsession)
  obtain ⟨q, hq, -, -, rfl⟩ := mem_sent_scanPlayers hd
  have hmem : (q.player, q.matchMessage, q.matchType) ∈ session'.identity :=
    List.mem_map.2 ⟨q, hq, rfl⟩
  rw [hid, identity_sessionPlayers] at hmem
  obtain ⟨p, hp, heq⟩ := List.mem_map.1 hmem
  simp only [Prod.mk.injEq] at heq
  obtain ⟨hplayer, hmsg, -⟩ := heq
  refine ⟨p, hp, matchFoundDatagram data.matchID p, List.mem_map_of_mem hp, ?_, rfl, hmsg.symm,
    ?_, fun ip port => parseRawDatagram_create (by decide) _ ip port, fun ip port hparse => ?_⟩
  · rw [hplayer]; rfl
  · -- the original is two bytes longer
    intro hdata
    have hlen := congrArg List.length hdata
    simp only [resendDatagram, matchFoundDatagram, sendDatagram, createRawDatagram, ← hmsg,
      List.length_cons] at hlen
    omega
  · have hlen := length_of_parseRawDatagram hparse
    simp only [resendDatagram, ← hmsg] at hlen
    omega

/-- One player is told at once and again two seconds later: its resend goes to it
and is not what it was sent first. -/
theorem resend_never_original_once :
    let data : StartMatchData := ⟨1, .normal, 1, [{ ip := ⟨10, 0, 0, 1⟩, port := 5000 }]⟩
    let created := initial.createMatchSession (fun _ => 0) data
    ∃ d ∈ (created.1.processMatchSessionsACKS fun _ _ => ⟨2000000, 2000000⟩).2,
      destination d = (⟨10, 0, 0, 1⟩, 5000) ∧ ∃ original ∈ created.2, d.data ≠ original.data := by
  intro data created
  let p : ClientMatchInfo := { ip := ⟨10, 0, 0, 1⟩, port := 5000 }
  let session : MatchSession := ⟨sessionPlayers data (fun _ => 0) data.players⟩
  let d : Datagram := ⟨matchFoundMessage 1 0, p.ip, p.port⟩
  let now : Nat → Nat → ClockReading := fun _ _ => ⟨2000000, 2000000⟩
  have hr : machine.Run created.1 [] created.1 := .nil
  have hi : followRun [] initial.pendingSessions.length = some 0 := rfl
  have hsession : created.1.pendingSessions[0]? = some session := rfl
  have hd : d ∈ (scanPlayers (now 0) session.players).sent := by decide +kernel
  obtain ⟨q, -, original, horiginal, -, -, -, hne, -⟩ :=
    resend_never_original hr hi hsession now hd
  exact ⟨d, by decide +kernel, rfl, original, horiginal, hne⟩

/-- Two players search, are paired and are told when the game server confirms
their match.  Two seconds later both are told again, with bytes neither was sent
before and in no datagram of type `MATCH_FOUND`. -/
theorem resend_not_original : ∃ s s₁ s₂ out sent, machine.Reachable initial s ∧
    s.step (.handle (fun _ => 0) (jobOf .matchUnique (decimal 1) (gameServerIP, gameServerPort)))
      = .ok (s₁, out) ∧
    s₁.step (.processMatchSessionsACKS fun _ _ => ⟨2000000, 2000000⟩) = .ok (s₂, sent) ∧
    (sent.map destination = out.map destination ∧ sent.length = 2) ∧
    ∀ d ∈ sent, (∀ original ∈ out, d.data ≠ original.data) ∧
      ∀ job ∈ parseRawDatagram d.data gameServerIP 0, job.type ≠ .matchFound := by
  let confirm : Step :=
    .handle (fun _ => 0) (jobOf .matchUnique (decimal 1) (gameServerIP, gameServerPort))
  obtain ⟨h, s, hr, hp⟩ := Machine.exists_run_of_exec (M := machine) (s := initial)
    (l := twoPaired)
    (P := fun _ s => Machine.okSat (s.step confirm) fun s₁ out =>
      let sent := (s₁.processMatchSessionsACKS fun _ _ => ⟨2000000, 2000000⟩).2
      (sent.map destination = out.map destination ∧ sent.length = 2) ∧
        ∀ d ∈ sent, (∀ original ∈ out, d.data ≠ original.data) ∧
          ∀ job ∈ parseRawDatagram d.data gameServerIP 0, job.type ≠ .matchFound)
    (by decide +kernel)
  obtain ⟨s₁, out, hstep, hp⟩ := Machine.exists_of_okSat hp
  exact ⟨s, s₁, _, out, _, ⟨h, hr⟩, hstep, rfl, hp⟩

end MatchmakingServer

end ServiceServer
