import ServiceServer.Matchmaking.Passes
import ServiceServer.Threads.Calls

/-!
# Threads that do not interrupt each other

A thread that goes from its loop back to its loop with no call of the other
thread in between does, call by call, what the function it enters does in one
step.  So the runs of indivisible steps are among the runs of calls.

* `processMatchmaking_leads`, `processMatchCreations_leads` — the main thread.
* `dispatch_leads` — the dispatcher's thread, and `dispatch_thrown` when a handler
  throws.
* `threads_leads` — a run of steps, as a run of calls.
-/

namespace ServiceServer

open Lib

namespace MatchmakingServer

theorem main_next {s s' : MatchmakingServer} {p p' : MainPoint} {o : List Datagram}
    (now : ClockReading) (h : s.mainNext now p = .ok (s', p', o)) :
    mainThread.machine.Leads (s, p) o (s', p') :=
  .single (i := .next now) (Program.machine_step.2 h)

theorem dispatcher_next {s s' : MatchmakingServer} {p p' : DispatcherPoint} {o : List Datagram}
    (now : Nat → Micros) (h : s.dispatcherNext now p = .ok (s', p', o)) :
    dispatcherThread.machine.Leads (s, p) o (s', p') :=
  .single (i := .next now) (Program.machine_step.2 h)

/-! ## Pairing -/

/-- The inner loop, while `k + 1` players are missing. -/
theorem takePlayers_leads {t : MatchType} (k : Nat) (s : MatchmakingServer)
    (players : List ClientMatchInfo)
    (hmissing : players.length + (k + 1) = s.playersPerMatch.val.toNat)
    (hlen : k + 1 ≤ (s.queueOf t).length) :
    mainThread.machine.Leads (s, .pairFront t players) []
      (s.setQueue t (takePlayers (k + 1) (UInt32.ofNat players.length) (s.queueOf t)).2,
        .pairPush t
          (players ++ (takePlayers (k + 1) (UInt32.ofNat players.length) (s.queueOf t)).1)) := by
  induction k generalizing s players with
  | zero =>
    cases hqueue : s.queueOf t with
    | nil => simp [hqueue] at hlen
    | cons p queue =>
      have hfront : s.mainNext ⟨0, 0⟩ (.pairFront t players)
          = .ok (s, .pairPop t players p, []) := by simp [mainNext, hqueue]
      apply (main_next _ hfront).after
      apply main_next ⟨0, 0⟩
      simp [mainNext, hqueue, takePlayers, ← hmissing]
  | succ k ih =>
    cases hqueue : s.queueOf t with
    | nil => simp [hqueue] at hlen
    | cons p queue =>
      let info : ClientMatchInfo := { p with playerID := UInt32.ofNat players.length }
      have hfront : s.mainNext ⟨0, 0⟩ (.pairFront t players)
          = .ok (s, .pairPop t players p, []) := by simp [mainNext, hqueue]
      have hpop : s.mainNext ⟨0, 0⟩ (.pairPop t players p)
          = .ok (s.setQueue t queue, .pairFront t (players ++ [info]), []) := by
        have hmore : players.length + 1 < s.playersPerMatch.val.toNat := by omega
        simp [mainNext, hqueue, info, hmore]
      have hrest := ih (s.setQueue t queue) (players ++ [info])
        (by rw [List.length_append, List.length_singleton, setQueue_playersPerMatch]; omega)
        (by rw [hqueue] at hlen; simpa using hlen)
      have hid : UInt32.ofNat (players ++ [info]).length = UInt32.ofNat players.length + 1 := by
        rw [List.length_append, List.length_singleton, UInt32.ofNat_add]
        rfl
      rw [queueOf_setQueue, hid, setQueue_setQueue, List.append_assoc] at hrest
      exact ((main_next _ hfront).after (main_next _ hpop)).after hrest

/-- A round of the outer loop, once the queue was found long enough. -/
theorem pairOnce_leads (s : MatchmakingServer) (t : MatchType) (now : Micros)
    (hlen : s.playersPerMatch.val.toNat ≤ (s.queueOf t).length) :
    mainThread.machine.Leads (s, .pairSize t) [] (s.pairOnce t now, .pairSize t) := by
  obtain ⟨k, hk⟩ : ∃ k, s.playersPerMatch.val.toNat = k + 1 := by
    apply Nat.exists_eq_succ_of_ne_zero
    have hpos : 0 < s.playersPerMatch.val.toNat := s.playersPerMatch.property
    omega
  have hsize : s.mainNext ⟨0, 0⟩ (.pairSize t) = .ok (s, .pairFront t [], []) := by
    simp [mainNext, hlen]
  have htake := takePlayers_leads (t := t) k s [] (by simp [hk]) (hk ▸ hlen)
  apply ((main_next _ hsize).after htake).after
  apply main_next ⟨now, now⟩
  simp [mainNext, pairOnce, formCreation, hk]

/-- `ProcessMatchmaking`, when the other thread waits. -/
theorem processMatchmaking_leads (s : MatchmakingServer) (t : MatchType) (now : Nat → Micros) :
    mainThread.machine.Leads (s, .idle) [] (s.processMatchmaking t now, .idle) := by
  have henter : mainThread.machine.Leads (s, .idle) [] (s, .pairSize t) :=
    .single (i := .processMatchmaking t) (Program.machine_step.2 rfl)
  have hstop : ∀ s : MatchmakingServer, ¬ s.playersPerMatch.val.toNat ≤ (s.queueOf t).length →
      mainThread.machine.Leads (s, .pairSize t) [] (s, .idle) := by
    intro s hshort
    apply main_next ⟨0, 0⟩
    simp [mainNext, hshort]
  apply henter.after
  rw [processMatchmaking]
  -- by induction on the bound on the rounds, which the queue stays under
  suffices hloop : ∀ rounds (s : MatchmakingServer) now, (s.queueOf t).length ≤ rounds →
      mainThread.machine.Leads (s, .pairSize t) [] (pairLoop t rounds now s, .idle) from
    hloop _ s now le_rfl
  intro rounds
  induction rounds with
  | zero =>
    intro s now hrounds
    apply hstop
    have hpos : 0 < s.playersPerMatch.val.toNat := s.playersPerMatch.property
    omega
  | succ rounds ih =>
    intro s now hrounds
    rw [pairLoop]
    by_cases hlen : s.playersPerMatch.val.toNat ≤ (s.queueOf t).length
    · rw [if_pos hlen]
      apply (pairOnce_leads s t (now 0) hlen).after
      apply ih
      have hrest : (s.pairOnce t (now 0)).queueOf t
          = (takePlayers s.playersPerMatch.val.toNat 0 (s.queueOf t)).2 := by cases t <;> rfl
      have hpos : 0 < s.playersPerMatch.val.toNat := s.playersPerMatch.property
      rw [hrest, takePlayers_eq hlen, List.length_drop]
      omega
    · rw [if_neg hlen]
      exact hstop s hlen

/-! ## Retrying creations -/

/-- The players of a creation that is given up are pushed, from the `k`-th on. -/
theorem giveUp_leads {i : Nat} {c : PendingMatchCreation} (rest : List ClientMatchInfo) (k : Nat)
    (s : MatchmakingServer) (hc : s.pendingMatchCreations[i]? = some c)
    (hrest : c.matchData.players.drop k = rest) :
    mainThread.machine.Leads (s, .giveUp i k) []
      ({ s.pushAll (rest.map fun p => (p, c.matchData.type)) with
          pendingMatchCreations := s.pendingMatchCreations.eraseIdx i }, .creationAt i) := by
  induction rest generalizing s k with
  | nil =>
    apply main_next ⟨0, 0⟩
    have hnone : c.matchData.players[k]? = none :=
      List.getElem?_eq_none (List.drop_eq_nil_iff.1 hrest)
    simp [mainNext, hc, hnone]
  | cons p rest ih =>
    have hp : c.matchData.players[k]? = some p := by
      rw [← List.head?_drop, hrest, List.head?_cons]
    have hpush : s.mainNext ⟨0, 0⟩ (.giveUp i k)
        = .ok (s.pushQueue c.matchData.type p, .giveUp i (k + 1), []) := by
      simp [mainNext, hc, hp]
    have hnext := ih (k + 1) (s.pushQueue c.matchData.type p) (by simpa using hc)
      (by rw [← List.tail_drop, hrest, List.tail_cons])
    rw [pushQueue_pendingMatchCreations] at hnext
    exact (main_next _ hpush).after hnext

/-- The loop, at the first of the creations it has not looked at. -/
theorem creationsLoop_leads (now : Nat → ClockReading) (cs : List PendingMatchCreation)
    (s : MatchmakingServer) :
    mainThread.machine.Leads
      ({ s with pendingMatchCreations := s.pendingMatchCreations ++ cs },
        .creationAt s.pendingMatchCreations.length)
      (creationsLoop now cs s).2 ((creationsLoop now cs s).1, .idle) := by
  induction cs generalizing now s with
  | nil =>
    apply main_next (now 0)
    simp [mainNext, creationsLoop]
  | cons c cs ih =>
    have hc : (s.pendingMatchCreations ++ c :: cs)[s.pendingMatchCreations.length]? = some c := by
      simp
    rw [creationsLoop]
    cases hout : creationOutcome c (now 0).atElapsed with
    | waiting =>
      have hkeep := ih (fun i => now (i + 1))
        { s with pendingMatchCreations := s.pendingMatchCreations ++ [c] }
      simp only [List.append_assoc, List.singleton_append, List.length_append,
        List.length_singleton] at hkeep
      refine Machine.Leads.after ?_ hkeep
      apply main_next (now 0)
      simp [mainNext, hout]
    | givenUp =>
      have hgive := giveUp_leads c.matchData.players 0
        { s with pendingMatchCreations := s.pendingMatchCreations ++ c :: cs } hc rfl
      rw [pushAll_withCreations] at hgive
      have hkeep := ih (fun i => now (i + 1))
        (s.pushAll (c.matchData.players.map fun p => (p, c.matchData.type)))
      rw [pushAll_pendingMatchCreations] at hkeep
      simp only [List.eraseIdx_append_of_length_le le_rfl, Nat.sub_self, List.eraseIdx_cons_zero]
        at hgive
      rw [foldl_pushQueue]
      refine Machine.Leads.after (.after ?_ hgive) hkeep
      apply main_next (now 0)
      simp [mainNext, hout]
    | retried =>
      have hkeep := ih (fun i => now (i + 1))
        { s with pendingMatchCreations := s.pendingMatchCreations ++
            [{ c with timer := ⟨(now 0).atRestart⟩, attempts := c.attempts + 1 }] }
      simp only [List.append_assoc, List.singleton_append, List.length_append,
        List.length_singleton] at hkeep
      refine Machine.Leads.trans (o := [createMatchDatagram c]) ?_ hkeep
      apply main_next (now 0)
      simp [mainNext, hout]

/-- `ProcessMatchCreations`, when the other thread waits. -/
theorem processMatchCreations_leads (s : MatchmakingServer) (now : Nat → ClockReading) :
    mainThread.machine.Leads (s, .idle) (s.processMatchCreations now).2
      ((s.processMatchCreations now).1, .idle) := by
  have henter : mainThread.machine.Leads (s, .idle) [] (s, .creationAt 0) :=
    .single (i := .processMatchCreations) (Program.machine_step.2 rfl)
  exact henter.after (creationsLoop_leads now s.pendingMatchCreations
    { s with pendingMatchCreations := [] })

/-! ## The handlers -/

/-- Draining a queue and putting back what stays. -/
theorem removeFromQueue_leads (e : Endpoint) (t : MatchType) (temp : List ClientMatchInfo)
    (s : MatchmakingServer) :
    dispatcherThread.machine.Leads (s, .cancelEmpty e t temp) []
      (s.setQueue t [], .cancelAssign e t (temp ++ removeFromQueue e (s.queueOf t))) := by
  generalize hqueue : s.queueOf t = queue
  induction queue generalizing s temp with
  | nil =>
    have hset : s.setQueue t [] = s := by
      rw [← hqueue]
      cases t <;> rfl
    rw [hset]
    apply dispatcher_next fun _ => 0
    simp [dispatcherNext, hqueue, removeFromQueue]
  | cons p queue ih =>
    have hempty : s.dispatcherNext (fun _ => 0) (.cancelEmpty e t temp)
        = .ok (s, .cancelFront e t temp, []) := by simp [dispatcherNext, hqueue]
    have hfront : s.dispatcherNext (fun _ => 0) (.cancelFront e t temp)
        = .ok (s, .cancelPop e t temp p, []) := by simp [dispatcherNext, hqueue]
    apply ((dispatcher_next _ hempty).after (dispatcher_next _ hfront)).after
    by_cases hp : p.ip = e.1 ∧ p.port = e.2
    · have hrest := ih temp (s.setQueue t queue) (by simp)
      rw [setQueue_setQueue] at hrest
      rw [removeFromQueue, if_pos hp]
      refine Machine.Leads.after ?_ hrest
      apply dispatcher_next fun _ => 0
      simp [dispatcherNext, hqueue, hp]
    · have hrest := ih (temp ++ [p]) (s.setQueue t queue) (by simp)
      rw [setQueue_setQueue, List.append_assoc] at hrest
      rw [removeFromQueue, if_neg hp]
      refine Machine.Leads.after ?_ hrest
      apply dispatcher_next fun _ => 0
      simp [dispatcherNext, hqueue, hp]

theorem dispatcher_take {s : MatchmakingServer} {job : RawPacketJob} {p : DispatcherPoint}
    (h : enterHandler job = .ok p) : dispatcherThread.machine.Leads (s, .idle) [] (s, p) := by
  have hcall : s.dispatcherCall .idle (.take job) = .ok (s, p, []) := by
    rw [dispatcherCall, if_pos rfl, h]
    rfl
  exact .single (i := .take job) (Program.machine_step.2 hcall)

theorem findMatch_leads {s s' : MatchmakingServer} {job : RawPacketJob} {out : List Datagram}
    (htype : job.type = .findMatch) (h : s.findMatchHandler job = .ok (s', out)) :
    dispatcherThread.machine.Leads (s, .idle) out (s', .idle) := by
  have hsearch : ∀ t : MatchType, s.enqueueSearch t job = .ok (s', out) →
      (∀ ip, job.sender = some ip →
        enterHandler job = .ok (.findPush t { ip := ip, port := job.port })) →
      dispatcherThread.machine.Leads (s, .idle) out (s', .idle) := by
    intro t h henter
    unfold enqueueSearch at h
    cases hsender : job.sender with
    | none => simp [hsender, value] at h
    | some ip =>
      simp only [hsender, value, Except.ok.injEq, Prod.mk.injEq] at h
      obtain ⟨rfl, rfl⟩ := h
      apply (dispatcher_take (henter ip hsender)).after
      exact dispatcher_next (fun _ => 0) rfl
  unfold findMatchHandler at h
  by_cases hnormal : job.content = MatchType.normal.name
  · rw [if_pos hnormal] at h
    apply hsearch .normal h
    intro ip hsender
    simp [enterHandler, htype, hsender, value, hnormal]
  · rw [if_neg hnormal] at h
    by_cases hranked : job.content = MatchType.ranked.name
    · rw [if_pos hranked] at h
      apply hsearch .ranked h
      intro ip hsender
      have hne : MatchType.ranked.name ≠ MatchType.normal.name := by decide
      simp [enterHandler, htype, hsender, value, hranked, hne]
    · rw [if_neg hranked] at h
      cases h
      have henter : enterHandler job = .ok .idle := by
        simp [enterHandler, htype, hnormal, hranked]
      exact dispatcher_take henter

theorem cancelSearch_leads {s s' : MatchmakingServer} {job : RawPacketJob} {out : List Datagram}
    (htype : job.type = .cancelSearch) (h : s.cancelSearchHandler job = .ok (s', out)) :
    dispatcherThread.machine.Leads (s, .idle) out (s', .idle) := by
  unfold cancelSearchHandler at h
  cases hsender : job.sender with
  | none => simp [hsender, value] at h
  | some ip =>
    simp only [hsender, value, Except.ok.injEq, Prod.mk.injEq] at h
    obtain ⟨rfl, rfl⟩ := h
    let e : Endpoint := (ip, job.port)
    let s₁ := s.setQueue .normal (removeFromQueue e s.normalQueue)
    have henter : enterHandler job = .ok (.cancelEmpty e .normal []) := by
      simp [enterHandler, htype, hsender, value, e]
    have hnormal := removeFromQueue_leads e .normal [] s
    have hranked := removeFromQueue_leads e .ranked [] s₁
    have hassign : (s.setQueue .normal []).dispatcherNext (fun _ => 0)
        (.cancelAssign e .normal ([] ++ removeFromQueue e (s.queueOf .normal)))
          = .ok (s₁, .cancelEmpty e .ranked [], []) := rfl
    apply (((dispatcher_take henter).after hnormal).after (dispatcher_next _ hassign)).after
    apply hranked.after
    exact dispatcher_next (fun _ => 0) rfl

/-- The loop both reply handlers run, over the points `walk j`, while it passes
creations that are not named. -/
theorem searchLoop_leads {content : Bytes} {walk : Nat → DispatcherPoint} {s : MatchmakingServer}
    {r : Option (List PendingMatchCreation × PendingMatchCreation × List PendingMatchCreation)}
    (h : searchLoop content s.pendingMatchCreations = .ok r)
    (hpass : ∀ j c id, s.pendingMatchCreations[j]? = some c → stoi content = .ok id →
      c.matchData.matchID ≠ UInt32.ofInt id →
        s.dispatcherNext (fun _ => 0) (walk j) = .ok (s, walk (j + 1), []))
    {before rest : List PendingMatchCreation} (hcs : s.pendingMatchCreations = before ++ rest)
    (hbefore : ∀ c ∈ before, named content c = false) :
    dispatcherThread.machine.Leads (s, walk 0) [] (s, walk before.length) := by
  suffices hwalk : ∀ n, n ≤ before.length →
      dispatcherThread.machine.Leads (s, walk 0) [] (s, walk n) from hwalk _ le_rfl
  intro n
  induction n with
  | zero =>
    intro _
    exact .refl _
  | succ n ih =>
    intro hn
    apply (ih (by omega)).after
    have hc : s.pendingMatchCreations[n]? = some before[n] := by
      rw [hcs, List.getElem?_append_left hn, List.getElem?_eq_getElem hn]
    cases hid : stoi content with
    | error e =>
      have hnone : s.pendingMatchCreations ≠ [] := by
        intro hnil
        simp [hnil] at hc
      rw [searchLoop_error_iff.2 ⟨hnone, hid⟩] at h
      cases h
    | ok id =>
      apply dispatcher_next
      apply hpass n _ id hc hid
      simpa [named, hid] using hbefore before[n] (List.getElem_mem hn)

theorem matchUnique_leads {s s' : MatchmakingServer} {now : Nat → Micros} {job : RawPacketJob}
    {out : List Datagram} (htype : job.type = .matchUnique)
    (h : s.matchUniqueHandler now job = .ok (s', out)) :
    dispatcherThread.machine.Leads (s, .idle) out (s', .idle) := by
  have henter : enterHandler job = .ok (.uniqueAt job.content 0) := by simp [enterHandler, htype]
  have hpass : ∀ j c id, s.pendingMatchCreations[j]? = some c → stoi job.content = .ok id →
      c.matchData.matchID ≠ UInt32.ofInt id → s.dispatcherNext (fun _ => 0) (.uniqueAt job.content j)
        = .ok (s, .uniqueAt job.content (j + 1), []) := by
    intro j c id hc hid hne
    simp [dispatcherNext, hc, hid, hne]
  apply (dispatcher_take henter).after
  unfold matchUniqueHandler at h
  cases hr : searchLoop job.content s.pendingMatchCreations with
  | error e => simp [hr] at h
  | ok r =>
    obtain ⟨rfl, hnone⟩ | ⟨before, c, after, rfl, hcs, hnamed, hbefore⟩ := searchLoop_ok hr
    · simp only [hr, Except.ok.injEq, Prod.mk.injEq] at h
      obtain ⟨rfl, rfl⟩ := h
      apply (searchLoop_leads hr hpass (List.append_nil _).symm hnone).after
      apply dispatcher_next fun _ => 0
      simp [dispatcherNext]
    · simp only [hr, createMatchSession, Except.ok.injEq, Prod.mk.injEq] at h
      obtain ⟨rfl, rfl⟩ := h
      obtain ⟨id, hid, hmatch⟩ := ok_of_named hnamed
      have hc : s.pendingMatchCreations[before.length]? = some c := by simp [hcs]
      have hfound : s.dispatcherNext (fun _ => 0) (.uniqueAt job.content before.length)
          = .ok (s, .uniqueCreate before.length, []) := by simp [dispatcherNext, hc, hid, hmatch]
      have hcreate : s.dispatcherNext now (.uniqueCreate before.length)
          = .ok ((s.createMatchSession now c.matchData).1, .uniqueErase before.length c,
            (s.createMatchSession now c.matchData).2) := by simp [dispatcherNext, hc]
      have herase : (s.createMatchSession now c.matchData).1.dispatcherNext (fun _ => 0)
          (.uniqueErase before.length c)
          = .ok ({ (s.createMatchSession now c.matchData).1 with
              pendingMatchCreations := before ++ after }, .idle, []) := by
        simp [dispatcherNext, createMatchSession, hcs, List.eraseIdx_append_of_length_le]
      apply (searchLoop_leads hr hpass hcs hbefore).after
      apply (dispatcher_next _ hfound).after
      have hleads := (dispatcher_next _ hcreate).trans (dispatcher_next _ herase)
      rwa [List.append_nil] at hleads

theorem matchUsed_leads {s s' : MatchmakingServer} {now : Nat → Micros} {job : RawPacketJob}
    {out : List Datagram} (htype : job.type = .matchUsed)
    (h : s.matchUsedHandler now job = .ok (s', out)) :
    dispatcherThread.machine.Leads (s, .idle) out (s', .idle) := by
  have henter : enterHandler job = .ok (.usedAt job.content 0) := by simp [enterHandler, htype]
  have hpass : ∀ j c id, s.pendingMatchCreations[j]? = some c → stoi job.content = .ok id →
      c.matchData.matchID ≠ UInt32.ofInt id → s.dispatcherNext (fun _ => 0) (.usedAt job.content j)
        = .ok (s, .usedAt job.content (j + 1), []) := by
    intro j c id hc hid hne
    simp [dispatcherNext, hc, hid, hne]
  apply (dispatcher_take henter).after
  unfold matchUsedHandler at h
  cases hr : searchLoop job.content s.pendingMatchCreations with
  | error e => simp [hr] at h
  | ok r =>
    obtain ⟨rfl, hnone⟩ | ⟨before, c, after, rfl, hcs, hnamed, hbefore⟩ := searchLoop_ok hr
    · simp only [hr, Except.ok.injEq, Prod.mk.injEq] at h
      obtain ⟨rfl, rfl⟩ := h
      apply (searchLoop_leads hr hpass (List.append_nil _).symm hnone).after
      apply dispatcher_next fun _ => 0
      simp [dispatcherNext]
    · simp only [hr, Except.ok.injEq, Prod.mk.injEq] at h
      obtain ⟨rfl, rfl⟩ := h
      obtain ⟨id, hid, hmatch⟩ := ok_of_named hnamed
      apply (searchLoop_leads hr hpass hcs hbefore).after
      apply dispatcher_next now
      simp [dispatcherNext, hcs, hid, hmatch]

/-- **A handler, when the other thread waits.** -/
theorem dispatch_leads {s s' : MatchmakingServer} {now : Nat → Micros} {job : RawPacketJob}
    {out : List Datagram} (hack : job.type ≠ .ackMatchFound)
    (h : s.dispatch now job = .ok (s', out)) :
    dispatcherThread.machine.Leads (s, .idle) out (s', .idle) := by
  simp only [dispatch] at h
  cases htype : job.type
  case findMatch => exact findMatch_leads htype (by simpa [subcribeActionHandlers, htype] using h)
  case cancelSearch =>
    exact cancelSearch_leads htype (by simpa [subcribeActionHandlers, htype] using h)
  case ackMatchFound => exact absurd htype hack
  case matchUnique =>
    exact matchUnique_leads htype (by simpa [subcribeActionHandlers, htype] using h)
  case matchUsed => exact matchUsed_leads htype (by simpa [subcribeActionHandlers, htype] using h)
  all_goals
    simp only [htype, subcribeActionHandlers, Except.ok.injEq, Prod.mk.injEq] at h
    obtain ⟨rfl, rfl⟩ := h
    have henter : enterHandler job = .ok .idle := by simp [enterHandler, htype]
    exact dispatcher_take henter

/-- A handler that throws does so in one of its calls. -/
theorem dispatch_thrown {s : MatchmakingServer} {now : Nat → Micros} {job : RawPacketJob}
    {ip : IpAddress} (hsender : job.sender = some ip) {e : Exception}
    (h : s.dispatch now job = .error e) :
    ∃ p, dispatcherThread.machine.Leads (s, .idle) [] (s, p) ∧
      s.dispatcherNext now p = .error (.thrown e) := by
  obtain ⟨hreply, hne, hid⟩ := (handle_error_iff hsender).1 h
  obtain ⟨c, cs, hcs⟩ := List.exists_cons_of_ne_nil hne
  rcases hreply with htype | htype
  · have henter : enterHandler job = .ok (.uniqueAt job.content 0) := by simp [enterHandler, htype]
    exact ⟨_, dispatcher_take henter, by simp [dispatcherNext, hcs, hid]⟩
  · have henter : enterHandler job = .ok (.usedAt job.content 0) := by simp [enterHandler, htype]
    exact ⟨_, dispatcher_take henter, by simp [dispatcherNext, hcs, hid]⟩

/-! ## Both threads -/

/-- Is this step made of the calls of the two threads? -/
def InThreads : Step → Prop
  | .handle _ job => job.type ≠ .ackMatchFound
  | .processMatchSessionsACKS _ => False
  | _ => True

/-- **A run of steps is a run of calls**: each step is one thread's calls in one
go, and sends what they send. -/
theorem threads_leads {h : List (Transition MatchmakingServer Step (List Datagram))}
    {s : MatchmakingServer} (hr : Run h s) (hin : ∀ t ∈ h, InThreads t.label) :
    threads.Leads threadsInitial (h.flatMap (·.out)) ⟨s, .idle, .idle⟩ := by
  induction hr with
  | nil => exact .refl _
  | @snoc h s s' l out hr hs ih =>
    rw [List.forall_mem_append, List.forall_mem_singleton] at hin
    obtain ⟨hpast, hlast⟩ := hin
    rw [List.flatMap_append, List.flatMap_singleton]
    apply (ih hpast).trans
    have hstep : s.step l = .ok (s', out) := hs
    cases l with
    | handle now job => exact Interleaving.leads_second MainPoint.idle (dispatch_leads hlast hstep)
    | processMatchmaking t now =>
      cases effect_of_step hstep
      exact Interleaving.leads_first DispatcherPoint.idle (processMatchmaking_leads s t now)
    | processMatchCreations now =>
      cases effect_of_step hstep
      exact Interleaving.leads_first DispatcherPoint.idle (processMatchCreations_leads s now)
    | processMatchSessionsACKS now => exact absurd hlast id

end MatchmakingServer

end ServiceServer
