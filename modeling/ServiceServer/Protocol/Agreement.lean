import ServiceServer.Matchmaking.Ids
import ServiceServer.Matchmaking.Receive

/-!
# Agreement on a match

The service and the game server agree on who plays in a match, whatever the
network does in between.  The assumption is on the replies alone: a reply that is
handled carries the ID of a match that was asked for before.  A reply may answer
an old request, come twice, or come after the match was given a new ID.

* `AnswersRequest` — the assumption, for one transition and the ones before it.
* `sessions_step` — a step adds a session for each match it confirms, and no others.
* `agreement` — what players are told about a match is what the game server was
  asked for, under an ID that belongs to this match only.
-/

namespace ServiceServer

open Lib

namespace MatchmakingServer

/-- A step that handles a reply handles the ID of a match that was asked for. -/
def AnswersRequest (past : List (Transition MatchmakingServer Step (List Datagram)))
    (t : Transition MatchmakingServer Step (List Datagram)) : Prop :=
  match t.label with
  | .handle _ job =>
    IsReply job → ∃ u ∈ past, ∃ d ∈ u.out, ∃ m ∈ requestedID d, job.content = decimal m
  | _ => True

instance (past : List (Transition MatchmakingServer Step (List Datagram)))
    (t : Transition MatchmakingServer Step (List Datagram)) : Decidable (AnswersRequest past t) := by
  unfold AnswersRequest
  split <;> infer_instance

/-- What `CreateMatchSession` sends in a step. -/
def firstTold (l : Step) (out : List Datagram) : List Datagram :=
  match l with
  | .handle _ job => if job.type = .matchUnique then out else []
  | _ => []

/-- A readable ID names the creations that carry it. -/
theorem named_decimal {m : Nat} (hm : m ≤ 2147483647) (c : PendingMatchCreation) :
    named (decimal m) c = true ↔ c.matchData.matchID.toNat = m := by
  have hstoi : stoi (decimal m) = .ok (m : Int) := by
    rw [stoi_decimal, if_neg (by omega)]
  have hid : (UInt32.ofInt (m : Int)).toNat = m := by
    rw [UInt32.ofInt, UInt32.toNat_ofNat_of_lt' (by simp only [UInt32.size]; omega)]
    omega
  simp only [named, hstoi, decide_eq_true_eq, ← UInt32.toNat_inj, hid]

/-- **What a step confirms it makes a session of**, and tells the players. -/
theorem confirmedBy_step {s s' : MatchmakingServer} {l : Step} {out : List Datagram}
    (h : s.step l = .ok (s', out)) :
    firstTold l out = (confirmedBy s l).flatMap fun data =>
      data.players.map (matchFoundDatagram data.matchID) := by
  cases effect_of_step h with
  | confirmed before c after htype hcs hnamed hbefore =>
    simp [firstTold, confirmedBy, htype, namedCreation_eq hcs hnamed hbefore]
  | @ignored _ job _ _ _ hreply =>
    by_cases htype : job.type = .matchUnique
    · simp [firstTold, confirmedBy, htype, namedCreation_eq_none (hreply (.inl htype))]
    · simp [firstTold, confirmedBy, htype]
  | searched t htype => simp [firstTold, confirmedBy, htype]
  | cancelled htype => simp [firstTold, confirmedBy, htype]
  | acked htype => simp [firstTold, confirmedBy, htype]
  | rekeyed before c after htype => simp [firstTold, confirmedBy, htype]
  | paired => rfl
  | retried => rfl
  | resent => rfl

/-- A step confirms one match at most: that of the creation its reply names. -/
theorem confirmedBy_cases {s : MatchmakingServer} {l : Step} {data : StartMatchData}
    (hdata : data ∈ confirmedBy s l) :
    confirmedBy s l = [data] ∧ ∃ now job, l = .handle now job ∧ job.type = .matchUnique ∧
      ∃ c ∈ s.pendingMatchCreations, named job.content c = true ∧ c.matchData = data := by
  cases l with
  | handle now job =>
    by_cases htype : job.type = .matchUnique
    · cases hc : s.namedCreation job.content with
      | none => simp [confirmedBy, htype, hc] at hdata
      | some c =>
        have hconf : confirmedBy s (.handle now job) = [c.matchData] := by
          simp [confirmedBy, htype, hc]
        obtain rfl : data = c.matchData := by simpa [hconf] using hdata
        exact ⟨hconf, now, job, rfl, htype, c, List.mem_of_find?_eq_some hc,
          List.find?_some hc, rfl⟩
    · simp [confirmedBy, htype] at hdata
  | processMatchmaking => simp [confirmedBy] at hdata
  | processMatchCreations => simp [confirmedBy] at hdata
  | processMatchSessionsACKS => simp [confirmedBy] at hdata

/-- The match a step confirms gets one new session, the last one. -/
theorem session_of_confirmedBy {s s' : MatchmakingServer} {l : Step} {out : List Datagram}
    (h : s.step l = .ok (s', out)) {data : StartMatchData} (hdata : data ∈ confirmedBy s l) :
    ∃ now, s'.pendingSessions = s.pendingSessions ++ [⟨sessionPlayers data now data.players⟩] := by
  obtain ⟨-, now, job, rfl, htype, c, -, hnamed, rfl⟩ := confirmedBy_cases hdata
  cases effect_of_step h with
  | confirmed before b after _ hcs hnamed' hbefore =>
    have hb : b.matchData = c.matchData := by
      have hone := namedCreation_eq hcs hnamed' hbefore
      simpa [confirmedBy, htype, hone, eq_comm] using hdata
    exact ⟨now, by rw [hb]⟩
  | ignored _ _ _ hreply =>
    simp [confirmedBy, htype, namedCreation_eq_none (hreply (.inl htype))] at hdata
  | searched _ h' => rw [htype] at h'; cases h'
  | cancelled h' => rw [htype] at h'; cases h'
  | acked h' => rw [htype] at h'; cases h'
  | rekeyed _ _ _ h' => rw [htype] at h'; cases h'

/-- What the session of a match keeps for as long as it is pending. -/
def sessionIdentity (data : StartMatchData) : List (ClientMatchInfo × Bytes × MatchType) :=
  data.players.map fun p => (p, matchFoundMessage data.matchID p.playerID, data.type)

/-- **The sessions of a step**: some of those that were pending, and one for each
match it confirms. -/
theorem sessions_step {s s' : MatchmakingServer} {l : Step} {out : List Datagram}
    (h : s.step l = .ok (s', out)) :
    ∃ kept, kept.Sublist (s.pendingSessions.map (·.identity)) ∧
      s'.pendingSessions.map (·.identity) = kept ++ (confirmedBy s l).map sessionIdentity := by
  have hsame : s'.pendingSessions.map (·.identity) = s.pendingSessions.map (·.identity) →
      confirmedBy s l = [] → ∃ kept, kept.Sublist (s.pendingSessions.map (·.identity)) ∧
        s'.pendingSessions.map (·.identity) = kept ++ (confirmedBy s l).map sessionIdentity := by
    intro heq hnone
    exact ⟨_, List.Sublist.refl _, by rw [heq, hnone, List.map_nil, List.append_nil]⟩
  cases effect_of_step h with
  | @ignored _ job _ _ _ hreply =>
    refine hsame rfl ?_
    simp only [confirmedBy]
    split
    · rw [namedCreation_eq_none (hreply (.inl ‹_›))]
      rfl
    · rfl
  | confirmed before c after htype hcs hnamed hbefore =>
    refine ⟨_, List.Sublist.refl _, ?_⟩
    rw [List.map_append, List.map_singleton, identity_sessionPlayers]
    simp [confirmedBy, htype, namedCreation_eq hcs hnamed hbefore, sessionIdentity]
  | acked htype =>
    refine hsame ?_ (by simp [confirmedBy, htype])
    rw [List.map_map]
    exact List.map_congr_left fun session _ => identity_ackSession _ session
  | searched t htype => exact hsame (by simp) (by simp [confirmedBy, htype])
  | cancelled htype => exact hsame rfl (by simp [confirmedBy, htype])
  | rekeyed before c after htype => exact hsame rfl (by simp [confirmedBy, htype])
  | paired t now =>
    obtain ⟨new, -, -, hss, -⟩ := exists_formed s t now
    exact hsame (by rw [hss]) rfl
  | retried now => exact hsame (by simp [processMatchCreations_eq]) rfl
  | resent now =>
    refine ⟨(s.processMatchSessionsACKS now).1.pendingSessions.map (·.identity), ?_, by
      simp [confirmedBy]⟩
    rw [processMatchSessionsACKS_eq]
    have hsub := map_filterMap_sublist (f := fun x => keptSession x.1 x.2) (g := (·.identity))
      (k := fun x => x.1.identity) (fun x session hkept => identity_keptSession hkept)
      (withReadings now s.pendingSessions)
    have hall : (withReadings now s.pendingSessions).map (fun x => x.1.identity)
        = s.pendingSessions.map (·.identity) := by
      conv_rhs => rw [← map_fst_withReadings now s.pendingSessions, List.map_map]
      rfl
    simpa [hall] using hsub

/-- A match that is confirmed was asked for, as it is now. -/
theorem request_of_confirmedBy {h : List (Transition MatchmakingServer Step (List Datagram))}
    {t : Transition MatchmakingServer Step (List Datagram)} (hb : Book h t.pre)
    (hcount : (issued h).length ≤ 2147483647) (hanswers : AnswersRequest h t)
    {data : StartMatchData} (hdata : data ∈ confirmedBy t.pre t.label) :
    ∃ u ∈ h, data.request ∈ u.out := by
  obtain ⟨-, now, job, hl, htype, c, hc, hnamed, rfl⟩ := confirmedBy_cases hdata
  rw [AnswersRequest, hl] at hanswers
  obtain ⟨u, hu, d, hd, m, hm, hcontent⟩ := hanswers (.inl htype)
  obtain ⟨data', hdata', rfl⟩ := hb.requests u hu d hd m hm
  obtain rfl : data'.matchID.toNat = m :=
    Option.some.inj ((requestedID_request data').symm.trans hm)
  have hsmall := (hb.matchID_le (by omega) hdata').trans hcount
  rw [hcontent, named_decimal hsmall, UInt32.toNat_inj] at hnamed
  -- the ID was issued for one match only
  have heq := hb.eq_of_matchID (by omega) (hb.mem_issued hc) hdata' hnamed
  exact ⟨u, hu, heq ▸ hd⟩

/-- **Agreement.**  In a run with fewer than `2 ^ 31` IDs whose replies answer
requests:
* each match-found message that `CreateMatchSession` sends tells a player of a
  match its place in that match; the game server had been asked for exactly this
  match, every player listed in it is told at once and no one else is, the list is
  numbered from `0` and as long as it announces, and the step adds one session, of
  these players;
* all requests under one ID are the same datagram;
* no two sessions are created under one ID, and a step adds no others. -/
theorem agreement {h : List (Transition MatchmakingServer Step (List Datagram))}
    {s : MatchmakingServer} (hr : Run h s) (hanswers : Along AnswersRequest h)
    (hcount : (issued h).length < 2147483648) :
    (∀ h₁ t h₂, h = h₁ ++ t :: h₂ → ∀ d ∈ firstTold t.label t.out,
      ∃ data, confirmedBy t.pre t.label = [data] ∧
        (∃ p ∈ data.players, d = matchFoundDatagram data.matchID p) ∧
        (∃ u ∈ h₁, data.request ∈ u.out) ∧
        firstTold t.label t.out = data.players.map (matchFoundDatagram data.matchID) ∧
        data.Numbered ∧
        ∃ now, t.post.pendingSessions
          = t.pre.pendingSessions ++ [⟨sessionPlayers data now data.players⟩]) ∧
      (∀ t ∈ h, ∀ t' ∈ h, ∀ d ∈ t.out, ∀ d' ∈ t'.out, ∀ m,
        requestedID d = some m → requestedID d' = some m → d = d') ∧
      ((confirmed h).map (·.matchID)).Nodup ∧
      ∀ t ∈ h, ∃ kept, kept.Sublist (t.pre.pendingSessions.map (·.identity)) ∧
        t.post.pendingSessions.map (·.identity)
          = kept ++ (confirmedBy t.pre t.label).map sessionIdentity := by
  have hb := book_of_run hr
  refine ⟨?_, ?_, hb.confirmedIDs_nodup (by omega), fun t ht => sessions_step (hr.step_of_mem ht)⟩
  · rintro h₁ t h₂ rfl d hd
    obtain ⟨hr₁, hstep, -⟩ := hr.mem_split
    have hb₁ := book_of_run hr₁
    have hcount₁ : (issued h₁).length ≤ 2147483647 :=
      Nat.le_of_lt_succ ((length_issued_le h₁ _).trans_lt hcount)
    have htold := confirmedBy_step hstep
    rw [htold] at hd
    obtain ⟨data, hdata, hd⟩ := List.mem_flatMap.1 hd
    obtain ⟨p, hp, rfl⟩ := List.mem_map.1 hd
    obtain ⟨hone, _, _, -, -, c, hc, -, rfl⟩ := confirmedBy_cases hdata
    rw [hone, List.flatMap_singleton] at htold
    exact ⟨c.matchData, hone, ⟨p, hp, rfl⟩,
      request_of_confirmedBy hb₁ hcount₁ (hanswers h₁ t h₂ rfl) hdata, htold,
      (hb₁.tidy.creations c hc).2, session_of_confirmedBy hstep hdata⟩
  · intro t ht t' ht' d hd d' hd' m hm hm'
    obtain ⟨data, hdata, rfl⟩ := hb.requests t ht d hd m hm
    obtain ⟨data', hdata', rfl⟩ := hb.requests t' ht' d' hd' m hm'
    rw [requestedID_request, Option.some.injEq] at hm hm'
    rw [hb.eq_of_matchID (by omega) hdata hdata' (UInt32.toNat_inj.1 (hm.trans hm'.symm))]

/-- Two players are paired, the game server is asked for match 1, says that the ID
is used, is asked for match 2 and confirms it. -/
theorem agreement_rekeyed : ∃ h s, Run h s ∧ (confirmed h).length = 1 ∧
    (∀ data ∈ confirmed h, data.matchID = 2) ∧
    ∀ h₁ t h₂, h = h₁ ++ t :: h₂ → ∀ d ∈ firstTold t.label t.out,
      ∃ data, confirmedBy t.pre t.label = [data] ∧ ∃ u ∈ h₁, data.request ∈ u.out := by
  let reply (type : PacketType) (m : Nat) (now : Micros) : Step :=
    .handle (fun _ => now) (jobOf type (decimal m) (gameServerIP, gameServerPort))
  obtain ⟨h, s, hr, hp⟩ := Machine.exists_run_of_exec (M := machine) (s := initial)
    (l := twoPaired ++
      [.processMatchCreations fun _ => ⟨500000, 500000⟩, reply .matchUsed 1 600000,
      .processMatchCreations fun _ => ⟨1100000, 1100000⟩, reply .matchUnique 2 1200000])
    (P := fun h _ => Along AnswersRequest h ∧ (issued h).length < 2147483648 ∧
      (confirmed h).length = 1 ∧ ∀ data ∈ confirmed h, data.matchID = 2) (by decide +kernel)
  obtain ⟨hanswers, hcount, hone, htwo⟩ := hp
  refine ⟨h, s, hr, hone, htwo, ?_⟩
  intro h₁ t h₂ heq d hd
  obtain ⟨data, hdata, -, hasked, -⟩ := (agreement hr hanswers hcount).1 h₁ t h₂ heq d hd
  exact ⟨data, hdata, hasked⟩

end MatchmakingServer

end ServiceServer
