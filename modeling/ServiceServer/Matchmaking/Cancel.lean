import ServiceServer.Matchmaking.Entries

/-!
# What a confirmed cancel promises

The `CANCEL_SEARCH` handler always answers `OK`, and takes the sender out of the
two queues.  It does not look at the creations and the sessions.

* `told` — who is sent a match-found message in a step, first or again.
* `told_subset_endpoints` — only endpoints the service holds are.
* `cancel_final` — a cancel that finds the sender in no creation and no session is
  final: until it searches again it is in no queue and is told of no match.
* `cancel_undone` — a cancel that finds it in a creation is not.
-/

namespace ServiceServer

open Lib

namespace MatchmakingServer

/-! ## Who is told of a match -/

/-- Where a datagram goes. -/
def destination (d : Datagram) : Endpoint := (d.ip, d.port)

/-- The endpoints a step sends a match-found message to: the first one, when a
`MATCH_UNIQUE` creates the session, or a resend. -/
def told (l : Step) (out : List Datagram) : List Endpoint :=
  match l with
  | .handle _ job => if job.type = .matchUnique then out.map destination else []
  | .processMatchSessionsACKS _ => out.map destination
  | _ => []

/-- A scan resends only to players that have not acknowledged. -/
theorem mem_sent_scanPlayers {now : Nat → ClockReading} {ps : List PendingMatch} {d : Datagram}
    (hd : d ∈ (scanPlayers now ps).sent) :
    ∃ p ∈ ps, p.ackRecieved = false ∧ p.retries < maxRetries ∧ d = resendDatagram p := by
  induction ps generalizing now with
  | nil => simp [scanPlayers] at hd
  | cons p ps ih =>
    have hrest : d ∈ (scanPlayers (fun i => now (i + 1)) ps).sent →
        ∃ q ∈ p :: ps, q.ackRecieved = false ∧ q.retries < maxRetries ∧
          d = resendDatagram q := by
      intro h
      obtain ⟨q, hq, hrest⟩ := ih h
      exact ⟨q, List.mem_cons_of_mem _ hq, hrest⟩
    simp only [scanPlayers] at hd
    cases hp : p.ackRecieved with
    | true => exact hrest (by simpa [hp] using hd)
    | false =>
      simp only [hp, Bool.false_eq_true, if_false] at hd
      by_cases hover : resendInterval < p.timer.getElapsedTime (now 0).atElapsed
      · rw [if_pos hover] at hd
        by_cases hret : maxRetries ≤ p.retries
        · simp [hret] at hd
        · rw [if_neg hret] at hd
          rcases List.mem_cons.1 hd with rfl | h
          · exact ⟨p, by simp, hp, not_le.1 hret, rfl⟩
          · exact hrest h
      · rw [if_neg hover] at hd
        exact hrest hd

/-- **Only an endpoint the service holds is told of a match.** -/
theorem told_subset_endpoints {s s' : MatchmakingServer} {l : Step} {out : List Datagram}
    (h : s.step l = .ok (s', out)) {e : Endpoint} (he : e ∈ told l out) : e ∈ s.endpoints := by
  cases effect_of_step h with
  | @confirmed now job before c after htype hcs hnamed hbefore =>
    simp only [told, htype, if_true, List.map_map, List.mem_map] at he
    obtain ⟨p, hp, rfl⟩ := he
    exact mem_endpoints.2 (.inr (.inl ⟨c, by simp [hcs], p, hp, rfl⟩))
  | resent now =>
    simp only [told, processMatchSessionsACKS_eq, List.mem_map, List.mem_flatMap] at he
    obtain ⟨d, ⟨x, hx, hd⟩, rfl⟩ := he
    obtain ⟨p, hp, -, -, rfl⟩ := mem_sent_scanPlayers hd
    exact mem_endpoints.2 (.inr (.inr ⟨x.1, mem_of_mem_withReadings hx, p, hp, rfl⟩))
  | ignored => simp [told] at he
  | searched t htype => simp [told, htype] at he
  | cancelled htype => simp [told, htype] at he
  | acked htype => simp [told, htype] at he
  | rekeyed before c after htype => simp [told, htype] at he
  | paired => simp [told] at he
  | retried => simp [told] at he

/-! ## Cancelling -/

/-- A job of this type from this endpoint is handled. -/
def HandledFrom (type : PacketType) (e : Endpoint) : Step → Prop
  | .handle _ job => job.type = type ∧ job.sender = some e.1 ∧ job.port = e.2
  | _ => False

instance (type : PacketType) (e : Endpoint) : DecidablePred (HandledFrom type e)
  | .handle _ _ => inferInstanceAs (Decidable (_ ∧ _ ∧ _))
  | .processMatchmaking .. => isFalse id
  | .processMatchCreations _ => isFalse id
  | .processMatchSessionsACKS _ => isFalse id

/-- Who comes in has searched. -/
theorem handledFrom_of_mem_pushedEntries {l : Step} {x : Entry} (hx : x ∈ pushedEntries l) :
    HandledFrom .findMatch x.1 l := by
  cases l with
  | handle now job =>
    simp only [pushedEntries] at hx
    split at hx
    · rename_i ip htype hsender
      have he : x.1 = (ip, job.port) := by
        split at hx
        · rw [Multiset.mem_singleton.1 hx]
        · split at hx
          · rw [Multiset.mem_singleton.1 hx]
          · simp at hx
      rw [he]
      exact ⟨htype, hsender, rfl⟩
    · simp at hx
  | _ => simp [pushedEntries] at hx

/-- Whoever is held nowhere and does not search stays out. -/
theorem not_mem_endpoints_step {s s' : MatchmakingServer} {l : Step} {out : List Datagram}
    {e : Endpoint} (hs : e ∉ s.endpoints) (hl : ¬ HandledFrom .findMatch e l)
    (h : s.step l = .ok (s', out)) : e ∉ s'.endpoints := by
  intro he
  have hmem : e ∈ s.endpoints + (pushedEntries l).map Prod.fst := by
    rw [endpoints, ← Multiset.map_add, ← step_balance h, Multiset.map_add]
    exact Multiset.mem_add.2 (.inl he)
  rcases Multiset.mem_add.1 hmem with h | h
  · exact hs h
  · obtain ⟨x, hx, rfl⟩ := Multiset.mem_map.1 h
    exact hl (handledFrom_of_mem_pushedEntries hx)

/-- Until it searches, an endpoint that is held nowhere stays out and is told of
no match. -/
theorem not_told_run {s s' : MatchmakingServer}
    {h : List (Transition MatchmakingServer Step (List Datagram))} {e : Endpoint}
    (hs : e ∉ s.endpoints) (hr : machine.Run s h s')
    (hsearch : ∀ t ∈ h, ¬ HandledFrom .findMatch e t.label) :
    e ∉ s'.endpoints ∧ ∀ t ∈ h, e ∉ told t.label t.out := by
  obtain ⟨hout, hpre⟩ := hr.invariant_of_mem (P := fun r => e ∉ r.endpoints)
    (R := fun _ l => ¬ HandledFrom .findMatch e l) hs (fun _ _ _ _ => not_mem_endpoints_step)
    hsearch
  refine ⟨hout, ?_⟩
  intro t ht htold
  exact hpre t ht (told_subset_endpoints (hr.step_of_mem ht) htold)

/-- `e` stands in neither queue. -/
def OutOfQueues (s : MatchmakingServer) (e : Endpoint) : Prop :=
  (∀ p ∈ s.normalQueue, p.endpoint ≠ e) ∧ ∀ p ∈ s.rankedQueue, p.endpoint ≠ e

instance (s : MatchmakingServer) (e : Endpoint) : Decidable (s.OutOfQueues e) :=
  inferInstanceAs (Decidable (_ ∧ _))

theorem outOfQueues_iff {s : MatchmakingServer} {e : Endpoint} :
    s.OutOfQueues e ↔ ∀ t, ∀ p ∈ s.queueOf t, p.endpoint ≠ e := by
  constructor
  · rintro ⟨hn, hr⟩ (_ | _)
    · exact hn
    · exact hr
  · exact fun h => ⟨h .normal, h .ranked⟩

/-- `e` is a player of no pending creation and of no pending session. -/
def OutOfMatches (s : MatchmakingServer) (e : Endpoint) : Prop :=
  (∀ c ∈ s.pendingMatchCreations, ∀ p ∈ c.matchData.players, p.endpoint ≠ e) ∧
    ∀ session ∈ s.pendingSessions, ∀ p ∈ session.players, p.player.endpoint ≠ e

theorem not_mem_endpoints {s : MatchmakingServer} {e : Endpoint} :
    e ∉ s.endpoints ↔ s.OutOfQueues e ∧ s.OutOfMatches e := by
  rw [mem_endpoints, outOfQueues_iff]
  simp only [OutOfMatches, not_or, not_exists, not_and, ne_eq]

/-- What a handled `CANCEL_SEARCH` leaves: `OK` is sent, the queues are rid of the
sender, and nothing else is touched. -/
theorem cancel_step {s s' : MatchmakingServer} {now : Nat → Micros} {job : RawPacketJob}
    {out : List Datagram} {e : Endpoint} (htype : job.type = .cancelSearch)
    (hsender : job.sender = some e.1) (hport : job.port = e.2)
    (h : s.step (.handle now job) = .ok (s', out)) :
    s'.OutOfQueues e ∧ s'.pendingMatchCreations = s.pendingMatchCreations ∧
      s'.pendingSessions = s.pendingSessions ∧ out = [sendDatagram .urgent .ok [] e.1 e.2] := by
  cases effect_of_step h with
  | @cancelled _ _ ip _ hip =>
    obtain rfl : ip = e.1 := Option.some.inj (hip.symm.trans hsender)
    refine ⟨⟨?_, ?_⟩, rfl, rfl, by rw [hport]⟩
    · intro p hp
      simpa [hport] using (List.mem_filter.1 hp).2
    · intro p hp
      simpa [hport] using (List.mem_filter.1 hp).2
  | ignored _ hcancel => exact absurd htype hcancel
  | searched _ h' => rw [htype] at h'; cases h'
  | acked h' => rw [htype] at h'; cases h'
  | confirmed _ _ _ h' => rw [htype] at h'; cases h'
  | rekeyed _ _ _ h' => rw [htype] at h'; cases h'

/-! ## Giving a creation up -/

/-- A pass that finds a creation overdue with its attempts used up puts its
players back into a queue. -/
theorem queued_of_givenUp {s : MatchmakingServer} {now : Nat → ClockReading}
    {x : PendingMatchCreation × ClockReading} (hx : x ∈ withReadings now s.pendingMatchCreations)
    (hout : creationOutcome x.1 x.2.atElapsed = .givenUp) {p : ClientMatchInfo}
    (hp : p ∈ x.1.matchData.players) :
    p ∈ (s.processMatchCreations now).1.queueOf x.1.matchData.type := by
  have hpush : (p, x.1.matchData.type) ∈ requeuedByCreation x.1 x.2 := by
    simp only [requeuedByCreation, hout]
    exact List.mem_map_of_mem hp
  have hqueue := queueOf_pushAll s
    ((withReadings now s.pendingMatchCreations).flatMap fun x => requeuedByCreation x.1 x.2)
    x.1.matchData.type
  have hmem : p ∈ (s.pushAll ((withReadings now s.pendingMatchCreations).flatMap fun x =>
      requeuedByCreation x.1 x.2)).queueOf x.1.matchData.type := by
    rw [hqueue]
    refine List.mem_append_right _ (List.mem_map.2 ⟨(p, x.1.matchData.type), ?_, rfl⟩)
    exact List.mem_filter.2 ⟨List.mem_flatMap.2 ⟨x, hx, hpush⟩, by simp⟩
  rw [processMatchCreations_eq]
  cases htype : x.1.matchData.type <;> rw [htype] at hmem <;> exact hmem

/-- Some element of a list is read at each of its elements. -/
theorem exists_mem_withReadings {α ρ : Type} (now : Nat → ρ) {l : List α} {a : α} (ha : a ∈ l) :
    ∃ i, (a, now i) ∈ withReadings now l := by
  induction l generalizing now with
  | nil => simp at ha
  | cons b l ih =>
    rcases List.mem_cons.1 ha with rfl | ha
    · exact ⟨0, by simp [withReadings]⟩
    · obtain ⟨i, hi⟩ := ih (fun i => now (i + 1)) ha
      exact ⟨i + 1, List.mem_cons_of_mem _ hi⟩

/-- A pass half a second after a timer was started. -/
def lateReading (c : Clock) : ClockReading := ⟨c.startedAt + 500000, c.startedAt + 500000⟩

theorem asMilliseconds_lateReading (c : Clock) :
    asMilliseconds (c.getElapsedTime (lateReading c).atElapsed) = 500 := by
  have helapsed : c.getElapsedTime (lateReading c).atElapsed = 500000 := by
    simp [lateReading, Clock.getElapsedTime]
  rw [helapsed]
  decide

/-- **A creation that is never confirmed is given up**: enough passes, each long
after the last, put its players back into a queue. -/
theorem exists_run_requeued {s : MatchmakingServer} {c : PendingMatchCreation}
    (hc : c ∈ s.pendingMatchCreations) {p : ClientMatchInfo} (hp : p ∈ c.matchData.players) :
    ∃ h s', machine.Run s h s' ∧ (∀ t ∈ h, ∃ now, t.label = .processMatchCreations now) ∧
      ¬ s'.OutOfQueues p.endpoint := by
  -- by induction on the attempts that are left
  induction hn : (5 - c.attempts).toNat using Nat.strong_induction_on generalizing s c with
  | _ n ih =>
    let late := lateReading c.timer
    obtain ⟨i, hx⟩ := exists_mem_withReadings (fun _ => late) hc
    have hover : ¬ asMilliseconds (c.timer.getElapsedTime late.atElapsed) < 500 := by
      rw [asMilliseconds_lateReading]
      decide
    have hstep : machine.step s (.processMatchCreations fun _ => late)
        = .ok (s.processMatchCreations fun _ => late) := rfl
    have hone := Machine.Run.single hstep
    by_cases hatt : 5 ≤ c.attempts
    · have hout : creationOutcome c late.atElapsed = .givenUp := by
        simp [creationOutcome, hover, hatt]
      refine ⟨_, _, hone, by simp, ?_⟩
      intro hnot
      exact outOfQueues_iff.1 hnot _ _ (queued_of_givenUp hx hout hp) rfl
    · have hout : creationOutcome c late.atElapsed = .retried := by
        simp [creationOutcome, hover, hatt]
      let c' : PendingMatchCreation :=
        { c with timer := ⟨late.atRestart⟩, attempts := c.attempts + 1 }
      have hc' : c' ∈ (s.processMatchCreations fun _ => late).1.pendingMatchCreations := by
        rw [processMatchCreations_eq]
        exact List.mem_filterMap.2 ⟨_, hx, by simp [keptCreation, hout, c']⟩
      have hless : (5 - c'.attempts).toNat < n := by
        have : c'.attempts = c.attempts + 1 := rfl
        omega
      obtain ⟨h, s', hr, hlabels, hqueued⟩ := ih _ hless hc' hp rfl
      refine ⟨_, s', hone.append hr, ?_, hqueued⟩
      simp only [List.forall_mem_append, List.forall_mem_singleton]
      exact ⟨⟨_, rfl⟩, hlabels⟩

/-! ## When a cancel is final -/

/-- However the run goes on, `e` is in no queue until it searches. -/
def NeverQueued (s : MatchmakingServer) (e : Endpoint) : Prop :=
  ∀ h s', machine.Run s h s' → (∀ t ∈ h, ¬ HandledFrom .findMatch e t.label) → s'.OutOfQueues e

/-- However the run goes on, `e` is sent no match-found message until it
searches. -/
def NeverTold (s : MatchmakingServer) (e : Endpoint) : Prop :=
  ∀ h s', machine.Run s h s' → (∀ t ∈ h, ¬ HandledFrom .findMatch e t.label) →
    ∀ t ∈ h, e ∉ told t.label t.out

/-- **A cancel is final for a player that is in no match yet.**  Handling a
`CANCEL_SEARCH` always leaves its sender in neither queue.  If the sender stands
in no pending creation and in no pending session at that moment, then, until a
later `FIND_MATCH` from it is handled, it stays in neither queue and is sent no
match-found message.  If it stands in a pending creation, some continuation puts
it back into a queue. -/
theorem cancel_final {s s₁ : MatchmakingServer} {now : Nat → Micros} {job : RawPacketJob}
    {out : List Datagram} {e : Endpoint} (htype : job.type = .cancelSearch)
    (hsender : job.sender = some e.1) (hport : job.port = e.2)
    (hcancel : s.step (.handle now job) = .ok (s₁, out)) :
    s₁.OutOfQueues e ∧ (s.OutOfMatches e → s₁.NeverQueued e ∧ s₁.NeverTold e) ∧
      ((∃ c ∈ s.pendingMatchCreations, ∃ p ∈ c.matchData.players, p.endpoint = e) →
        ¬ s₁.NeverQueued e) := by
  obtain ⟨hqueues, hcs, hss, -⟩ := cancel_step htype hsender hport hcancel
  refine ⟨hqueues, fun hmatches => ?_, ?_⟩
  · have hout : e ∉ s₁.endpoints := by
      rw [not_mem_endpoints, OutOfMatches, hcs, hss]
      exact ⟨hqueues, hmatches⟩
    refine ⟨fun h s₂ hr hsearch => ?_, fun h s₂ hr hsearch => (not_told_run hout hr hsearch).2⟩
    exact (not_mem_endpoints.1 (not_told_run hout hr hsearch).1).1
  · rintro ⟨c, hc, p, hp, rfl⟩ hnever
    obtain ⟨h, s₂, hr, hlabels, hqueued⟩ := exists_run_requeued (s := s₁) (hcs ▸ hc) hp
    refine hqueued (hnever h s₂ hr ?_)
    intro t ht
    obtain ⟨now, hl⟩ := hlabels t ht
    simp [hl, HandledFrom]

/-- A player that waits alone cancels, and stays out whatever happens next. -/
theorem cancel_final_alone : ∃ s s₁ out, machine.Reachable initial s ∧
    s.step (.handle (fun _ => 0) (jobOf .cancelSearch [] (⟨10, 0, 0, 1⟩, 5000))) = .ok (s₁, out) ∧
    s₁.NeverQueued (⟨10, 0, 0, 1⟩, 5000) ∧ s₁.NeverTold (⟨10, 0, 0, 1⟩, 5000) := by
  let e : Endpoint := (⟨10, 0, 0, 1⟩, 5000)
  let s : MatchmakingServer := { normalQueue := [{ ip := e.1, port := e.2 }] }
  have hsearch : machine.step initial
      (.handle (fun _ => 0) (jobOf .findMatch MatchType.normal.name e))
      = .ok (s, [sendDatagram .urgent .searchAck [] e.1 e.2]) := rfl
  have hcancel : s.step (.handle (fun _ => 0) (jobOf .cancelSearch [] e))
      = .ok (initial, [sendDatagram .urgent .ok [] e.1 e.2]) := by decide
  refine ⟨s, _, _, ⟨_, .snoc .nil hsearch⟩, hcancel, ?_⟩
  exact (cancel_final (e := e) rfl rfl rfl hcancel).2.1 ⟨by simp [s], by simp [s]⟩

theorem not_neverQueued_of_exec {s : MatchmakingServer} {e : Endpoint} {is : List Step}
    (hx : machine.execSat s is (fun h s' =>
      (∀ t ∈ h, ¬ HandledFrom .findMatch e t.label) ∧ ¬ s'.OutOfQueues e) = true) :
    ¬ s.NeverQueued e := by
  intro hnever
  obtain ⟨h, s', hr, hp⟩ := Machine.exists_run_of_exec hx
  exact hp.2 (hnever h s' hr hp.1)

theorem not_neverTold_of_exec {s : MatchmakingServer} {e : Endpoint} {is : List Step}
    (hx : machine.execSat s is (fun h _ =>
      (∀ t ∈ h, ¬ HandledFrom .findMatch e t.label) ∧ ∃ t ∈ h, e ∈ told t.label t.out) = true) :
    ¬ s.NeverTold e := by
  intro hnever
  obtain ⟨h, s', hr, hp⟩ := Machine.exists_run_of_exec hx
  obtain ⟨t, ht, he⟩ := hp.2
  exact hnever h s' hr hp.1 t ht he

/-- Two players search and are paired, and one of them cancels: it is told of the
match when the game server confirms it, and is back in the queue when the game
server stays silent.  A player that cancels after the confirmation is told
again. -/
theorem cancel_undone :
    (∃ s s₁ out, machine.Reachable initial s ∧
      s.step (.handle (fun _ => 0) (jobOf .cancelSearch [] (⟨10, 0, 0, 1⟩, 5000)))
        = .ok (s₁, out) ∧
      ¬ s₁.NeverQueued (⟨10, 0, 0, 1⟩, 5000) ∧ ¬ s₁.NeverTold (⟨10, 0, 0, 1⟩, 5000)) ∧
    ∃ s s₁ out, machine.Reachable initial s ∧ s.pendingMatchCreations = [] ∧
      s.step (.handle (fun _ => 0) (jobOf .cancelSearch [] (⟨10, 0, 0, 1⟩, 5000)))
        = .ok (s₁, out) ∧
      ¬ s₁.NeverTold (⟨10, 0, 0, 1⟩, 5000) := by
  let e : Endpoint := (⟨10, 0, 0, 1⟩, 5000)
  let cancel : Step := .handle (fun _ => 0) (jobOf .cancelSearch [] e)
  let confirm : Step := .handle (fun _ => 0) (jobOf .matchUnique (decimal 1) (gameServerIP, 61000))
  let queuedIn (s : MatchmakingServer) (is : List Step) : Bool :=
    machine.execSat s is fun h s' =>
      (∀ t ∈ h, ¬ HandledFrom .findMatch e t.label) ∧ ¬ s'.OutOfQueues e
  let toldIn (s : MatchmakingServer) (is : List Step) : Bool :=
    machine.execSat s is fun h _ =>
      (∀ t ∈ h, ¬ HandledFrom .findMatch e t.label) ∧ ∃ t ∈ h, e ∈ told t.label t.out
  constructor
  · obtain ⟨h, s, hr, hp⟩ := Machine.exists_run_of_exec (M := machine) (s := initial)
      (l := twoPaired)
      (P := fun _ s => Machine.okSat (s.step cancel) fun s₁ _ =>
        queuedIn s₁ silence ∧ toldIn s₁ [confirm]) (by decide +kernel)
    obtain ⟨s₁, out, hstep, hqueued, htold⟩ := Machine.exists_of_okSat hp
    exact ⟨s, s₁, out, ⟨h, hr⟩, hstep, not_neverQueued_of_exec hqueued,
      not_neverTold_of_exec htold⟩
  · obtain ⟨h, s, hr, hp⟩ := Machine.exists_run_of_exec (M := machine) (s := initial)
      (l := twoPaired ++ [confirm])
      (P := fun _ s => Machine.okSat (s.step cancel) fun s₁ _ =>
        s.pendingMatchCreations = [] ∧
          toldIn s₁ [.processMatchSessionsACKS fun _ _ => ⟨2000000, 2000000⟩]) (by decide +kernel)
    obtain ⟨s₁, out, hstep, hnone, htold⟩ := Machine.exists_of_okSat hp
    exact ⟨s, s₁, out, ⟨h, hr⟩, hnone, hstep, not_neverTold_of_exec htold⟩

end MatchmakingServer

end ServiceServer
