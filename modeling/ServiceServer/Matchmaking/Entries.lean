import ServiceServer.Lib.Ledger
import ServiceServer.Matchmaking.Passes
import Mathlib.Data.Multiset.Filter
import Mathlib.Tactic.Abel

/-!
# Where the search entries are

Every accepted `FIND_MATCH` pushes an **entry**: an endpoint that searches in a
mode.  Entries move from a queue to a pending creation to a pending session, and
may be pushed back.  Here they are counted.

* `entries` — the entries the service holds, over its four containers.
* `pushedEntries`, `cancelledEntries`, `startedEntries`, `droppedEntries` — what
  a step lets in, and the three ways out.
* `step_balance` — every step balances.
* `entries_balance` — so does every run: no entry is lost, cloned or moved to the
  other mode.
* `unique_iff_fresh` — no endpoint is held twice exactly as long as nobody
  searches that is already held.
-/

namespace ServiceServer

open Lib

/-- A search: who, and in which mode. -/
abbrev Entry := Endpoint × MatchType

/-- The entries of a list of players of one mode. -/
def entriesOf (t : MatchType) (ps : List ClientMatchInfo) : Multiset Entry :=
  (ps.map fun p => (p.endpoint, t) : List Entry)

/-- The entries in a pending creation. -/
def PendingMatchCreation.entries (c : PendingMatchCreation) : Multiset Entry :=
  entriesOf c.matchData.type c.matchData.players

/-- The entries of the players of a session. -/
def playerEntries (ps : List PendingMatch) : Multiset Entry :=
  (ps.map fun p => (p.player.endpoint, p.matchType) : List Entry)

/-- The entries in a pending session. -/
def MatchSession.entries (session : MatchSession) : Multiset Entry :=
  playerEntries session.players

namespace MatchmakingServer

/-! ## What the service holds -/

/-- The entries in the queue of their mode. -/
def queuedEntries (s : MatchmakingServer) : Multiset Entry :=
  entriesOf .normal s.normalQueue + entriesOf .ranked s.rankedQueue

/-- The entries in the pending creations. -/
def creationEntries (s : MatchmakingServer) : Multiset Entry :=
  (s.pendingMatchCreations.map PendingMatchCreation.entries).sum

/-- The entries in the pending sessions. -/
def sessionEntries (s : MatchmakingServer) : Multiset Entry :=
  (s.pendingSessions.map MatchSession.entries).sum

/-- All the entries the service holds. -/
def entries (s : MatchmakingServer) : Multiset Entry :=
  s.queuedEntries + s.creationEntries + s.sessionEntries

/-! ## What a step lets in and out -/

/-- The entry an accepted `FIND_MATCH` pushes. -/
def pushedEntries : Step → Multiset Entry
  | .handle _ job =>
    match job.type, job.sender with
    | .findMatch, some ip =>
      if job.content = MatchType.normal.name then {((ip, job.port), .normal)}
      else if job.content = MatchType.ranked.name then {((ip, job.port), .ranked)}
      else 0
    | _, _ => 0
  | _ => 0

/-- The entries that leave because a `CANCEL_SEARCH` from their own endpoint is
handled while they stand in a queue. -/
def cancelledEntries (s : MatchmakingServer) : Step → Multiset Entry
  | .handle _ job =>
    match job.type, job.sender with
    | .cancelSearch, some ip => s.queuedEntries.filter fun e => e.1 = (ip, job.port)
    | _, _ => 0
  | _ => 0

/-- The entries that leave because all the players of their session have
acknowledged. -/
def startedEntries (s : MatchmakingServer) : Step → Multiset Entry
  | .processMatchSessionsACKS now =>
    ((withReadings now s.pendingSessions).map fun x => if AllAcked x.1 then x.1.entries else 0).sum
  | _ => 0

/-- The entries that leave because their session is given up while they have not
acknowledged. -/
def droppedEntries (s : MatchmakingServer) : Step → Multiset Entry
  | .processMatchSessionsACKS now =>
    ((withReadings now s.pendingSessions).map fun x =>
      if GivesUp x.1 x.2 then
        playerEntries (x.1.players.filter fun p => !p.ackRecieved)
      else 0).sum
  | _ => 0

/-- All that leaves in a step. -/
def departedEntries (s : MatchmakingServer) (l : Step) : Multiset Entry :=
  s.cancelledEntries l + s.startedEntries l + s.droppedEntries l

/-! ## The containers, one move at a time -/

theorem queuedEntries_pushQueue (s : MatchmakingServer) (t : MatchType) (p : ClientMatchInfo) :
    (s.pushQueue t p).queuedEntries = s.queuedEntries + {(p.endpoint, t)} := by
  cases t with
  | normal =>
    simp only [queuedEntries, pushQueue, setQueue, queueOf, entriesOf, List.map_append,
      List.map_cons, List.map_nil, ← Multiset.coe_add, Multiset.coe_singleton]
    exact add_right_comm ..
  | ranked =>
    simp only [queuedEntries, pushQueue, setQueue, queueOf, entriesOf, List.map_append,
      List.map_cons, List.map_nil, ← Multiset.coe_add, Multiset.coe_singleton]
    exact (add_assoc ..).symm

theorem queuedEntries_pushAll (s : MatchmakingServer) (l : List (ClientMatchInfo × MatchType)) :
    (s.pushAll l).queuedEntries
      = s.queuedEntries + ((l.map fun x => (x.1.endpoint, x.2) : List Entry) : Multiset Entry) := by
  induction l generalizing s with
  | nil => simp
  | cons x l ih =>
    rw [show s.pushAll (x :: l) = (s.pushQueue x.2 x.1).pushAll l from rfl, ih,
      queuedEntries_pushQueue, add_assoc]
    rfl

/-- Pushing players adds their entries and nothing else. -/
theorem entries_pushAll (s : MatchmakingServer) (l : List (ClientMatchInfo × MatchType)) :
    (s.pushAll l).entries
      = s.entries + ((l.map fun x => (x.1.endpoint, x.2) : List Entry) : Multiset Entry) := by
  simp only [entries, queuedEntries_pushAll, creationEntries, sessionEntries,
    pushAll_pendingMatchCreations, pushAll_pendingSessions]
  abel

theorem entriesOf_append (t : MatchType) (ps qs : List ClientMatchInfo) :
    entriesOf t (ps ++ qs) = entriesOf t ps + entriesOf t qs := by
  simp [entriesOf]

/-- Renumbering players does not change whose entries they are. -/
theorem entriesOf_numbered (t : MatchType) (i : UInt32) (ps : List ClientMatchInfo) :
    entriesOf t (numbered i ps) = entriesOf t ps := by
  have h : ∀ qs : List ClientMatchInfo, entriesOf t qs
      = ((qs.map ClientMatchInfo.endpoint).map fun e => (e, t) : List Entry) := by
    intro qs
    rw [List.map_map]; rfl
  rw [h, h, map_endpoint_numbered]

theorem queuedEntries_setQueue (s : MatchmakingServer) (t : MatchType)
    (q : List ClientMatchInfo) :
    (s.setQueue t q).queuedEntries + entriesOf t (s.queueOf t)
      = s.queuedEntries + entriesOf t q := by
  cases t <;> simp only [queuedEntries, setQueue, queueOf] <;> abel

/-- **Pairing moves entries**, from the front of the queue into a creation. -/
theorem entries_pairOnce {s : MatchmakingServer} {t : MatchType}
    (hsize : s.playersPerMatch.val.toNat ≤ (s.queueOf t).length) (now : Micros) :
    (s.pairOnce t now).entries = s.entries := by
  set n := s.playersPerMatch.val.toNat with hn
  have htake : entriesOf t (s.queueOf t)
      = entriesOf t ((s.queueOf t).take n) + entriesOf t ((s.queueOf t).drop n) := by
    rw [← entriesOf_append, List.take_append_drop]
  have hqueue : (s.setQueue t ((s.queueOf t).drop n)).queuedEntries
      + entriesOf t ((s.queueOf t).take n) = s.queuedEntries := by
    have h := s.queuedEntries_setQueue t ((s.queueOf t).drop n)
    rw [htake, ← add_assoc] at h
    exact add_right_cancel h
  have hcreated : (s.formCreation t now (numbered 0 ((s.queueOf t).take n))).entries
      = entriesOf t ((s.queueOf t).take n) := entriesOf_numbered t 0 _
  have hpair : s.pairOnce t now =
      { s.setQueue t ((s.queueOf t).drop n) with
        lastMatchID := s.lastMatchID + 1
        pendingMatchCreations := s.pendingMatchCreations ++
          [s.formCreation t now (numbered 0 ((s.queueOf t).take n))] } := by
    rw [pairOnce, ← hn, takePlayers_eq hsize]
  rw [hpair]
  simp only [entries, creationEntries, sessionEntries, List.map_append, List.map_cons,
    List.map_nil, List.sum_append, List.sum_cons, List.sum_nil, hcreated, add_zero,
    setQueue_pendingSessions]
  rw [← hqueue]
  simp only [queuedEntries]
  abel

theorem entries_processMatchmaking (s : MatchmakingServer) (t : MatchType)
    (now : Nat → Micros) : (s.processMatchmaking t now).entries = s.entries :=
  processMatchmaking_induction (P := fun r => r.entries = s.entries)
    (fun _ now hr hsize => (entries_pairOnce hsize now).trans hr) rfl now

theorem entriesOf_filter (t : MatchType) (e : Endpoint) (ps : List ClientMatchInfo) :
    entriesOf t (ps.filter fun p => p.endpoint ≠ e)
      = (entriesOf t ps).filter fun x => x.1 ≠ e := by
  rw [entriesOf, entriesOf, Multiset.filter_coe, List.filter_map]
  rfl

/-- **A cancellation takes out exactly the sender's entries.** -/
theorem queuedEntries_cancel (s : MatchmakingServer) (e : Endpoint) :
    entriesOf .normal (s.normalQueue.filter fun p => p.endpoint ≠ e)
        + entriesOf .ranked (s.rankedQueue.filter fun p => p.endpoint ≠ e)
        + s.queuedEntries.filter (fun x => x.1 = e) = s.queuedEntries := by
  rw [entriesOf_filter, entriesOf_filter, ← Multiset.filter_add, add_comm]
  exact Multiset.filter_add_not (fun x : Entry => x.1 = e) s.queuedEntries

/-- Acknowledging does not change whose entries the players are. -/
theorem entries_ackSession (job : RawPacketJob) (session : MatchSession) :
    (ackSession job session).entries = session.entries := by
  have h : ∀ p, ((ackPlayer job p).player.endpoint, (ackPlayer job p).matchType)
      = (p.player.endpoint, p.matchType) := by
    intro p
    unfold ackPlayer; split <;> rfl
  simp [MatchSession.entries, playerEntries, ackSession, Function.comp_def, h]

/-- A new session holds the entries of the match it is built from. -/
theorem entries_sessionPlayers (data : StartMatchData) (now : Nat → Micros)
    (ps : List ClientMatchInfo) :
    playerEntries (sessionPlayers data now ps) = entriesOf data.type ps := by
  induction ps generalizing now with
  | nil => rfl
  | cons p ps ih =>
    have h := ih fun i => now (i + 1)
    simp only [playerEntries, entriesOf] at h
    simp only [playerEntries, entriesOf, sessionPlayers, List.map_cons, ← Multiset.cons_coe, h]

/-- A pass leaves the entries of a creation in it, or pushes them back. -/
theorem entries_keptCreation (c : PendingMatchCreation) (r : ClockReading) :
    (keptCreation c r).elim 0 PendingMatchCreation.entries
        + (((requeuedByCreation c r).map fun x => (x.1.endpoint, x.2) : List Entry)
            : Multiset Entry) = c.entries := by
  unfold keptCreation requeuedByCreation
  cases creationOutcome c r.atElapsed with
  | waiting => simp
  | givenUp => simp [PendingMatchCreation.entries, entriesOf, Function.comp_def]
  | retried => simp [PendingMatchCreation.entries]

/-- **A pass over the creations moves entries**, from a creation given up to the
queue of its type. -/
theorem entries_processMatchCreations (s : MatchmakingServer) (now : Nat → ClockReading) :
    (s.processMatchCreations now).1.entries = s.entries := by
  set l := withReadings now s.pendingMatchCreations with hl
  have hmoved : ((l.filterMap fun x => keptCreation x.1 x.2).map
        PendingMatchCreation.entries).sum
      + ((((l.flatMap fun x => requeuedByCreation x.1 x.2).map
          fun x => (x.1.endpoint, x.2) : List Entry)) : Multiset Entry) = s.creationEntries := by
    rw [List.map_flatMap, coe_flatMap, sum_map_filterMap, ← List.sum_map_add, creationEntries,
      ← map_fst_withReadings now s.pendingMatchCreations, List.map_map, ← hl]
    exact congrArg List.sum (List.map_congr_left fun x _ => entries_keptCreation x.1 x.2)
  rw [processMatchCreations_eq, ← hl]
  show (s.pushAll _).queuedEntries + _ + MatchmakingServer.sessionEntries (s.pushAll _) = _
  rw [queuedEntries_pushAll, sessionEntries, pushAll_pendingSessions, ← sessionEntries, entries,
    ← hmoved]
  simp only [creationEntries]
  abel

/-- The players of a session either have acknowledged or have not. -/
theorem playerEntries_filter (ps : List PendingMatch) :
    playerEntries (ps.filter fun p => p.ackRecieved)
      + playerEntries (ps.filter fun p => !p.ackRecieved) = playerEntries ps := by
  induction ps with
  | nil => rfl
  | cons p ps ih =>
    simp only [playerEntries] at ih
    cases hp : p.ackRecieved with
    | true => simp [playerEntries, hp, ← Multiset.cons_coe, ← ih]
    | false => simp [playerEntries, hp, ← Multiset.cons_coe, ← ih]

/-- A pass leaves the entries of a session in it, pushes them back, or lets them
go: all of them when it starts, the ones without an acknowledgement when it is
given up. -/
theorem entries_keptSession (session : MatchSession) (now : Nat → ClockReading) :
    (keptSession session now).elim 0 MatchSession.entries
        + (((requeuedBySession session now).map fun x => (x.1.endpoint, x.2) : List Entry)
            : Multiset Entry)
        + ((if AllAcked session then session.entries else 0)
          + if GivesUp session now then
              playerEntries (session.players.filter fun p => !p.ackRecieved)
            else 0) = session.entries := by
  unfold keptSession requeuedBySession
  rw [sessionFate_eq]
  by_cases hgive : GivesUp session now
  · have hacked : ¬ AllAcked session := fun hall => not_givesUp_of_allAcked hall hgive
    simpa [hgive, hacked, MatchSession.entries, playerEntries, Function.comp_def]
      using playerEntries_filter session.players
  · by_cases hacked : AllAcked session
    · simp [hgive, hacked]
    · have h : MatchSession.entries ⟨(scanPlayers now session.players).players⟩ = session.entries := by
        unfold MatchSession.entries playerEntries
        rw [map_scanPlayers (fun p q hpq => by rw [hpq])]
      simp [hgive, hacked, h]

/-- **A pass over the sessions** moves entries back to the queues and lets the
started and the dropped ones go. -/
theorem entries_processMatchSessionsACKS (s : MatchmakingServer)
    (now : Nat → Nat → ClockReading) :
    (s.processMatchSessionsACKS now).1.entries
        + (s.startedEntries (.processMatchSessionsACKS now)
          + s.droppedEntries (.processMatchSessionsACKS now)) = s.entries := by
  set l := withReadings now s.pendingSessions with hl
  have hmoved : ((l.filterMap fun x => keptSession x.1 x.2).map MatchSession.entries).sum
      + ((((l.flatMap fun x => requeuedBySession x.1 x.2).map
          fun x => (x.1.endpoint, x.2) : List Entry)) : Multiset Entry)
      + (s.startedEntries (.processMatchSessionsACKS now)
          + s.droppedEntries (.processMatchSessionsACKS now)) = s.sessionEntries := by
    rw [List.map_flatMap, coe_flatMap, sum_map_filterMap, ← List.sum_map_add, startedEntries,
      droppedEntries, ← hl, ← List.sum_map_add, ← List.sum_map_add, sessionEntries,
      ← map_fst_withReadings now s.pendingSessions, List.map_map, ← hl]
    exact congrArg List.sum (List.map_congr_left fun x _ => entries_keptSession x.1 x.2)
  rw [processMatchSessionsACKS_eq, ← hl]
  show (s.pushAll _).queuedEntries + MatchmakingServer.creationEntries (s.pushAll _) + _ + _ = _
  rw [queuedEntries_pushAll, creationEntries, pushAll_pendingMatchCreations, ← creationEntries,
    entries, ← hmoved]
  simp only [sessionEntries]
  abel

/-! ## The balance -/

/-- **Every step balances**: what is held afterwards and what departed is what
was held before and what was pushed. -/
theorem step_balance {s s' : MatchmakingServer} {l : Step} {out : List Datagram}
    (h : s.step l = .ok (s', out)) :
    s'.entries + s.departedEntries l = s.entries + pushedEntries l := by
  cases effect_of_step h with
  | @ignored now job hsearch hcancel hack hreply =>
    have hpush : pushedEntries (.handle now job) = 0 := by
      simp only [pushedEntries]
      split
      · rename_i htype _
        rw [if_neg (hsearch .normal htype), if_neg (hsearch .ranked htype)]
      · rfl
    have hcan : s.cancelledEntries (.handle now job) = 0 := by
      simp only [cancelledEntries]
      split
      · rename_i htype _
        exact absurd htype hcancel
      · rfl
    simp [departedEntries, startedEntries, droppedEntries, hpush, hcan]
  | @searched now job ip t htype hcontent hsender =>
    have hpush : pushedEntries (.handle now job) = {((ip, job.port), t)} := by
      cases t with
      | normal => simp [pushedEntries, htype, hsender, hcontent]
      | ranked =>
        have hne : MatchType.ranked.name ≠ MatchType.normal.name := by decide
        simp [pushedEntries, htype, hsender, hcontent, hne]
    have hcan : s.cancelledEntries (.handle now job) = 0 := by simp [cancelledEntries, htype]
    rw [hpush, show s.pushQueue t _ = s.pushAll [(_, t)] from rfl, entries_pushAll]
    simp [departedEntries, startedEntries, droppedEntries, hcan, ClientMatchInfo.endpoint]
  | @cancelled now job ip htype hsender =>
    have hpush : pushedEntries (.handle now job) = 0 := by simp [pushedEntries, htype]
    have hcan : s.cancelledEntries (.handle now job)
        = s.queuedEntries.filter fun e => e.1 = (ip, job.port) := by
      simp [cancelledEntries, htype, hsender]
    have hq := s.queuedEntries_cancel (ip, job.port)
    simp only [departedEntries, startedEntries, droppedEntries, hpush, hcan, add_zero]
    generalize s.queuedEntries.filter (fun e => e.1 = (ip, job.port)) = gone at hq ⊢
    rw [entries, entries, ← hq]
    simp only [queuedEntries, creationEntries, sessionEntries]
    abel
  | @acked now job htype =>
    have hsessions : ({ s with pendingSessions := s.pendingSessions.map (ackSession job) }
        : MatchmakingServer).sessionEntries = s.sessionEntries := by
      simp [sessionEntries, Function.comp_def, entries_ackSession]
    simp only [departedEntries, cancelledEntries, startedEntries, droppedEntries, pushedEntries,
      htype, add_zero, entries]
    rw [hsessions]
    rfl
  | @confirmed now job before c after htype hcs hnamed hbefore =>
    have hnew : MatchSession.entries ⟨sessionPlayers c.matchData now c.matchData.players⟩
        = c.entries := entries_sessionPlayers ..
    simp only [departedEntries, cancelledEntries, startedEntries, droppedEntries, pushedEntries,
      htype, add_zero, entries, queuedEntries, creationEntries, sessionEntries, hcs,
      List.map_append, List.map_cons, List.map_nil, List.sum_append, List.sum_cons, List.sum_nil,
      hnew]
    abel
  | @rekeyed now job before c after htype hcs hnamed hbefore =>
    simp only [departedEntries, cancelledEntries, startedEntries, droppedEntries, pushedEntries,
      htype, add_zero, entries, queuedEntries, creationEntries, sessionEntries, hcs,
      List.map_append, List.map_cons, List.sum_append, List.sum_cons]
    rfl
  | paired t now =>
    simpa [departedEntries, cancelledEntries, startedEntries, droppedEntries, pushedEntries]
      using entries_processMatchmaking s t now
  | retried now =>
    simpa [departedEntries, cancelledEntries, startedEntries, droppedEntries, pushedEntries]
      using entries_processMatchCreations s now
  | resent now =>
    simpa [departedEntries, cancelledEntries, pushedEntries]
      using entries_processMatchSessionsACKS s now

/-- **No search entry is lost, cloned or moved to the other mode.**  In every run,
the entries pushed so far are those in the queue of their mode, those in the
pending creations and in the pending sessions of their mode, and those that
departed: cancelled in a queue, started with their session, or dropped from a
session given up. -/
theorem entries_balance {h : List (Transition MatchmakingServer Step (List Datagram))}
    {s : MatchmakingServer} (hr : Run h s) :
    (h.map fun t => pushedEntries t.label).sum
      = s.queuedEntries + s.creationEntries + s.sessionEntries
        + ((h.map fun t => t.pre.cancelledEntries t.label).sum
          + (h.map fun t => t.pre.startedEntries t.label).sum
          + (h.map fun t => t.pre.droppedEntries t.label).sum) := by
  have hledger := hr.ledger entries (fun _ => pushedEntries) departedEntries
    fun t ht => step_balance (hr.step_of_mem ht)
  have hinit : initial.entries = 0 := rfl
  rw [hinit, zero_add] at hledger
  rw [hledger, entries, ← List.sum_map_add, ← List.sum_map_add]
  rfl

/-- Two players search, are paired, and one of them searches again. -/
theorem entries_balance_paired : ∃ h s, Run h s ∧ s.creationEntries ≠ 0 ∧
    (h.map fun t => pushedEntries t.label).sum
      = s.queuedEntries + s.creationEntries + s.sessionEntries
        + ((h.map fun t => t.pre.cancelledEntries t.label).sum
          + (h.map fun t => t.pre.startedEntries t.label).sum
          + (h.map fun t => t.pre.droppedEntries t.label).sum) := by
  obtain ⟨h, s, hr, hp⟩ := Machine.exists_run_of_exec (M := machine) (s := initial)
    (l := twoPaired ++
      [.handle (fun _ => 0) (jobOf .findMatch MatchType.ranked.name (⟨10, 0, 0, 1⟩, 5000))])
    (P := fun _ s => s.creationEntries ≠ 0) (by decide +kernel)
  exact ⟨h, s, hr, by simpa using hp, entries_balance hr⟩

/-! ## Uniqueness of endpoints -/

/-- The endpoints of all the entries held. -/
def endpoints (s : MatchmakingServer) : Multiset Endpoint := s.entries.map Prod.fst

theorem mem_entriesOf {t : MatchType} {ps : List ClientMatchInfo} {x : Entry} :
    x ∈ entriesOf t ps ↔ ∃ p ∈ ps, (p.endpoint, t) = x := by
  simp [entriesOf]

/-- An endpoint is held when a container holds a player there. -/
theorem mem_endpoints {s : MatchmakingServer} {e : Endpoint} :
    e ∈ s.endpoints ↔ (∃ t, ∃ p ∈ s.queueOf t, p.endpoint = e) ∨
      (∃ c ∈ s.pendingMatchCreations, ∃ p ∈ c.matchData.players, p.endpoint = e) ∨
      ∃ session ∈ s.pendingSessions, ∃ p ∈ session.players, p.player.endpoint = e := by
  have hqueued : (∃ x ∈ s.queuedEntries, x.1 = e) ↔ ∃ t, ∃ p ∈ s.queueOf t, p.endpoint = e := by
    constructor
    · rintro ⟨x, hx, rfl⟩
      rcases Multiset.mem_add.1 hx with h | h
      · obtain ⟨p, hp, rfl⟩ := mem_entriesOf.1 h
        exact ⟨.normal, p, hp, rfl⟩
      · obtain ⟨p, hp, rfl⟩ := mem_entriesOf.1 h
        exact ⟨.ranked, p, hp, rfl⟩
    · rintro ⟨t, p, hp, rfl⟩
      refine ⟨(p.endpoint, t), ?_, rfl⟩
      cases t
      · exact Multiset.mem_add.2 (.inl (mem_entriesOf.2 ⟨p, hp, rfl⟩))
      · exact Multiset.mem_add.2 (.inr (mem_entriesOf.2 ⟨p, hp, rfl⟩))
  have hcreation : (∃ x ∈ s.creationEntries, x.1 = e) ↔
      ∃ c ∈ s.pendingMatchCreations, ∃ p ∈ c.matchData.players, p.endpoint = e := by
    simp [creationEntries, mem_listSum, PendingMatchCreation.entries, mem_entriesOf]
  have hsession : (∃ x ∈ s.sessionEntries, x.1 = e) ↔
      ∃ session ∈ s.pendingSessions, ∃ p ∈ session.players, p.player.endpoint = e := by
    simp [sessionEntries, mem_listSum, MatchSession.entries, playerEntries]
  rw [← hqueued, ← hcreation, ← hsession, endpoints]
  simp only [Multiset.mem_map, entries, Multiset.mem_add, or_and_right, exists_or, or_assoc]

/-- Each endpoint occurs at most once over the four containers. -/
def UniqueEndpoints (s : MatchmakingServer) : Prop := s.endpoints.Nodup

instance (s : MatchmakingServer) : Decidable s.UniqueEndpoints :=
  inferInstanceAs (Decidable s.endpoints.Nodup)

/-- Nobody is let in by the step who is already held. -/
def Fresh (s : MatchmakingServer) (l : Step) : Prop :=
  ∀ x ∈ pushedEntries l, x.1 ∉ s.endpoints

instance (s : MatchmakingServer) (l : Step) : Decidable (s.Fresh l) :=
  inferInstanceAs (Decidable (∀ x ∈ pushedEntries l, x.1 ∉ s.endpoints))

/-- A step lets in at most one entry, and then nothing leaves in it. -/
theorem pushedEntries_cases (s : MatchmakingServer) (l : Step) :
    pushedEntries l = 0 ∨ ∃ x, pushedEntries l = {x} ∧ s.departedEntries l = 0 := by
  cases l with
  | handle now job =>
    by_cases htype : job.type = .findMatch
    · have hdep : s.departedEntries (.handle now job) = 0 := by
        simp [departedEntries, cancelledEntries, startedEntries, droppedEntries, htype]
      cases hsender : job.sender with
      | none => exact .inl (by simp [pushedEntries, hsender])
      | some ip =>
        by_cases hn : job.content = MatchType.normal.name
        · exact .inr ⟨_, by simp [pushedEntries, htype, hsender, hn]; rfl, hdep⟩
        · by_cases hr : job.content = MatchType.ranked.name
          · exact .inr ⟨((ip, job.port), .ranked), by
              simp only [pushedEntries, htype, hsender, if_neg hn, if_pos hr], hdep⟩
          · exact .inl (by simp only [pushedEntries, htype, hsender, if_neg hn, if_neg hr])
    · refine .inl ?_
      simp only [pushedEntries]
      split
      · rename_i h _
        exact absurd h htype
      · rfl
  | _ => exact .inl rfl

/-- **A step keeps the endpoints unique exactly when it lets in nobody who is
already held.** -/
theorem step_unique {s s' : MatchmakingServer} {l : Step} {out : List Datagram}
    (hu : s.UniqueEndpoints) (h : s.step l = .ok (s', out)) :
    s'.UniqueEndpoints ↔ s.Fresh l := by
  have hbal : s'.endpoints + (s.departedEntries l).map Prod.fst
      = s.endpoints + (pushedEntries l).map Prod.fst := by
    rw [endpoints, endpoints, ← Multiset.map_add, ← Multiset.map_add, step_balance h]
  obtain hnone | ⟨x, hx, hdep⟩ := pushedEntries_cases s l
  · -- nothing comes in: what is held is part of what was held
    rw [hnone, Multiset.map_zero, add_zero] at hbal
    have hle : s'.endpoints ≤ s.endpoints := hbal ▸ Multiset.le_add_right ..
    exact iff_of_true (Multiset.nodup_of_le hle hu) (by simp [Fresh, hnone])
  · rw [hx, hdep, Multiset.map_zero, add_zero, Multiset.map_singleton] at hbal
    rw [UniqueEndpoints, hbal, add_comm, Multiset.singleton_add, Multiset.nodup_cons]
    simp only [Fresh, hx, Multiset.mem_singleton, forall_eq]
    exact and_iff_left hu

/-- A match formed of a state with unique endpoints has distinct players. -/
theorem UniqueEndpoints.creation {s : MatchmakingServer} (hu : s.UniqueEndpoints)
    {c : PendingMatchCreation} (hc : c ∈ s.pendingMatchCreations) :
    (c.matchData.players.map ClientMatchInfo.endpoint).Nodup := by
  have hle : c.entries ≤ s.entries := by
    obtain ⟨before, after, hcs⟩ := List.append_of_mem hc
    refine le_trans ?_ (le_trans (Multiset.le_add_left s.creationEntries s.queuedEntries)
      (Multiset.le_add_right _ s.sessionEntries))
    simp only [creationEntries, hcs, List.map_append, List.map_cons, List.sum_append,
      List.sum_cons]
    exact le_trans (Multiset.le_add_right _ _) (Multiset.le_add_left _ _)
  have h := Multiset.nodup_of_le (Multiset.map_le_map hle) hu
  simpa [PendingMatchCreation.entries, entriesOf, Function.comp_def] using h

/-- **Endpoints stay unique exactly as long as every accepted search comes from
an endpoint that stands nowhere**: in such runs, and only in them, each endpoint
occurs at most once over the queues, the creations and the sessions of every
state reached; and no match formed then has the same endpoint twice. -/
theorem unique_iff_fresh {h : List (Transition MatchmakingServer Step (List Datagram))}
    {s : MatchmakingServer} (hr : Run h s) :
    ((∀ t ∈ h, t.post.UniqueEndpoints) ↔ ∀ t ∈ h, t.pre.Fresh t.label) ∧
      ((∀ t ∈ h, t.pre.Fresh t.label) → s.UniqueEndpoints ∧
        ∀ c ∈ s.pendingMatchCreations,
          (c.matchData.players.map ClientMatchInfo.endpoint).Nodup) := by
  suffices key : ((∀ t ∈ h, t.post.UniqueEndpoints) ↔ ∀ t ∈ h, t.pre.Fresh t.label) ∧
      ((∀ t ∈ h, t.pre.Fresh t.label) → s.UniqueEndpoints) from
    ⟨key.1, fun hf => ⟨key.2 hf, fun _ hc => (key.2 hf).creation hc⟩⟩
  induction hr with
  | nil => exact ⟨by simp, fun _ => by decide⟩
  | @snoc h s s' l out _ hs ih =>
    obtain ⟨hiff, huniq⟩ := ih
    simp only [List.forall_mem_append, List.forall_mem_singleton]
    refine ⟨?_, ?_⟩
    · constructor
      · rintro ⟨hposts, hpost⟩
        have hfresh := hiff.1 hposts
        exact ⟨hfresh, (step_unique (huniq hfresh) hs).1 hpost⟩
      · rintro ⟨hfresh, hlast⟩
        exact ⟨hiff.2 hfresh, (step_unique (huniq hfresh) hs).2 hlast⟩
    · rintro ⟨hfresh, hlast⟩
      exact (step_unique (huniq hfresh) hs).2 hlast

/-- One endpoint searches twice and is matched against itself. -/
theorem resent_search_matched_twice :
    (¬ ∀ h s, Run h s → s.UniqueEndpoints) ∧
      ¬ ∀ h s, Run h s → ∀ c ∈ s.pendingMatchCreations,
        (c.matchData.players.map ClientMatchInfo.endpoint).Nodup := by
  obtain ⟨h, s, hr, hp⟩ := Machine.exists_run_of_exec (M := machine) (s := initial)
    (l := [searchOf 1, searchOf 1, .processMatchmaking .normal fun _ => 0])
    (P := fun _ s => ¬ s.UniqueEndpoints ∧ ¬ ∀ c ∈ s.pendingMatchCreations,
        (c.matchData.players.map ClientMatchInfo.endpoint).Nodup) (by decide +kernel)
  exact ⟨fun hall => hp.1 (hall h s hr), fun hall => hp.2 (hall h s hr)⟩

/-- Two endpoints that stand nowhere search, and are matched. -/
theorem unique_iff_fresh_paired : ∃ h s, Run h s ∧ s.pendingMatchCreations ≠ [] ∧
    (∀ t ∈ h, t.post.UniqueEndpoints) := by
  obtain ⟨h, s, hr, hp⟩ := Machine.exists_run_of_exec (M := machine) (s := initial)
    (l := twoPaired)
    (P := fun h s => s.pendingMatchCreations ≠ [] ∧ ∀ t ∈ h, t.pre.Fresh t.label)
    (by decide +kernel)
  exact ⟨h, s, hr, hp.1, (unique_iff_fresh hr).1.2 hp.2⟩

end MatchmakingServer

end ServiceServer
