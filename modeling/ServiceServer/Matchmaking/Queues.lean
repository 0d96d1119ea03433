import ServiceServer.Lib.Ledger
import ServiceServer.Matchmaking.Cancel
import ServiceServer.Matchmaking.Pairing
import ServiceServer.Matchmaking.Sessions
import ServiceServer.Protocol.Requests
import ServiceServer.Protocol.Serialization

/-!
# First come, first served

A client joins the queue of a type by its search, and again when its match could not be
created or its session was given up; it leaves by being matched or by cancelling.  The
passes and the handlers walk the queues in different ways, but over a run each queue is
one line in which nobody overtakes.

* `joined`, `matched` — who joins a queue in a step, and who is taken from it.
* `line_step` — what a step does to the line of the clients that do not cancel.
* `first_come_first_served` — over any run, those who stay are matched in the order in
  which they joined, and wait in it.
-/

namespace ServiceServer

open Lib

namespace MatchmakingServer

/-- Who waits in the queue of a type, the first one first. -/
def line (s : MatchmakingServer) (t : MatchType) : List Endpoint :=
  (s.queueOf t).map ClientMatchInfo.endpoint

/-- Who joins the queue of a type in a step, in order. -/
def joined (s : MatchmakingServer) (t : MatchType) : Step → List Endpoint
  | .handle _ job =>
    if job.type = .findMatch ∧ job.content = t.name then
      job.sender.toList.map fun ip => (ip, job.port)
    else []
  | .processMatchmaking .. => []
  | .processMatchCreations now =>
    ((withReadings now s.pendingMatchCreations).flatMap (creationReturned t)).map
      ClientMatchInfo.endpoint
  | .processMatchSessionsACKS now =>
    ((withReadings now s.pendingSessions).flatMap (returnedTo t)).map ClientMatchInfo.endpoint

/-- Who is matched from the queue of a type in a step: the players of the matches it forms. -/
def matched (s : MatchmakingServer) (t : MatchType) : Step → List Endpoint
  | .processMatchmaking u now =>
    if u = t then
      (issuedBy s (.processMatchmaking u now)).flatMap fun data =>
        data.players.map ClientMatchInfo.endpoint
    else []
  | .handle .. => []
  | .processMatchCreations _ => []
  | .processMatchSessionsACKS _ => []

/-! ## One step -/

/-- A pairing pass takes from the front of the line what it puts into matches. -/
theorem line_processMatchmaking (s : MatchmakingServer) (t : MatchType) (now : Nat → Micros) :
    s.line t = matched s t (.processMatchmaking t now) ++ (s.processMatchmaking t now).line t := by
  -- the invariant of the rounds: what was taken is in the matches formed so far
  obtain ⟨new, hcs, hline⟩ : ∃ new,
      (s.processMatchmaking t now).pendingMatchCreations = s.pendingMatchCreations ++ new ∧
      s.line t = (new.flatMap fun c => c.matchData.players.map ClientMatchInfo.endpoint) ++
        (s.processMatchmaking t now).line t := by
    refine processMatchmaking_induction (t := t) (P := fun r => ∃ new,
      r.pendingMatchCreations = s.pendingMatchCreations ++ new ∧
        s.line t = (new.flatMap fun c => c.matchData.players.map ClientMatchInfo.endpoint) ++
          r.line t) ?_ ⟨[], by simp, by simp⟩ now
    rintro r now ⟨new, hcs, hline⟩ hlen
    refine ⟨new ++ [r.formCreation t now (takePlayers r.playersPerMatch.val.toNat 0
      (r.queueOf t)).1], by simp [pairOnce, hcs], ?_⟩
    have htaken : ((r.formCreation t now (takePlayers r.playersPerMatch.val.toNat 0
        (r.queueOf t)).1).matchData.players.map ClientMatchInfo.endpoint)
          = ((r.queueOf t).take r.playersPerMatch.val.toNat).map ClientMatchInfo.endpoint := by
      rw [takePlayers_eq hlen]
      exact map_endpoint_numbered 0 _
    have hrest : (r.pairOnce t now).line t
        = ((r.queueOf t).drop r.playersPerMatch.val.toNat).map ClientMatchInfo.endpoint := by
      rw [line, queueOf_pairOnce hlen]
    rw [List.flatMap_append, List.flatMap_singleton, htaken, hrest, List.append_assoc,
      ← List.map_append, List.take_append_drop]
    exact hline
  rw [matched, if_pos rfl, issuedBy, hcs, List.drop_left, List.flatMap_map]
  exact hline

/-- A pass over one queue leaves the other alone. -/
theorem line_processMatchmaking_ne (s : MatchmakingServer) {t u : MatchType} (h : u ≠ t)
    (now : Nat → Micros) : (s.processMatchmaking u now).line t = s.line t := by
  refine processMatchmaking_induction (t := u) (P := fun r => r.line t = s.line t) ?_ rfl now
  intro r now hr hlen
  rw [← hr, line, pairOnce_eq hlen fun _ => now]
  cases t with
  | normal =>
    cases u with
    | normal => exact absurd rfl h
    | ranked => rfl
  | ranked =>
    cases u with
    | normal => rfl
    | ranked => exact absurd rfl h

/-- Who searches joins the line of the type it searches for. -/
theorem line_searched {s : MatchmakingServer} {now : Nat → Micros} {job : RawPacketJob}
    {ip : IpAddress} {t u : MatchType} (htype : job.type = .findMatch) (hcontent : job.content = u.name)
    (hsender : job.sender = some ip) :
    (s.pushQueue u { ip := ip, port := job.port }).line t
      = s.line t ++ joined s t (.handle now job) := by
  by_cases hu : u = t
  · subst hu
    have hjoined : joined s u (.handle now job) = [(ip, job.port)] := by
      rw [joined, if_pos ⟨htype, hcontent⟩, hsender]
      rfl
    rw [hjoined, line, pushQueue, queueOf_setQueue, List.map_append]
    rfl
  · have hname : job.content ≠ t.name := fun h =>
      hu (name_injective (hcontent.symm.trans h))
    have hjoined : joined s t (.handle now job) = [] := by
      rw [joined, if_neg fun h => hname h.2]
    rw [hjoined, List.append_nil, line, pushQueue, queueOf_setQueue_ne s (fun h => hu h.symm)]
    rfl

/-- A cancel takes nobody out of the line but its sender. -/
theorem filter_line_cancelled {s : MatchmakingServer} {P : Endpoint → Bool} {e : Endpoint}
    (he : P e = false) (t : MatchType) :
    (((s.queueOf t).filter fun p => p.endpoint ≠ e).map ClientMatchInfo.endpoint).filter P
      = (s.line t).filter P := by
  rw [line, List.filter_map, List.filter_map, List.filter_filter]
  congr 1
  refine List.filter_congr fun p _ => ?_
  by_cases hp : p.endpoint = e
  · simp [hp, he]
  · simp [hp]

/-- **One step of the line.**  Among clients that do not cancel in it, those who join come
behind those who wait, and those who are matched come from the front. -/
theorem line_step {s s' : MatchmakingServer} {l : Step} {out : List Datagram}
    {P : Endpoint → Bool} (hstay : ∀ e, P e = true → ¬ HandledFrom .cancelSearch e l)
    (h : s.step l = .ok (s', out)) (t : MatchType) :
    (s.line t).filter P ++ (joined s t l).filter P
      = (matched s t l).filter P ++ (s'.line t).filter P := by
  -- a step that moves nobody
  have hquiet : ∀ {s' : MatchmakingServer}, joined s t l = [] → matched s t l = [] →
      (s'.line t).filter P = (s.line t).filter P →
      (s.line t).filter P ++ (joined s t l).filter P
        = (matched s t l).filter P ++ (s'.line t).filter P := by
    intro s' hjoined hmatched hline
    rw [hjoined, hmatched, hline, List.filter_nil, List.append_nil, List.nil_append]
  cases effect_of_step h with
  | ignored hsearch => exact hquiet (if_neg fun hj => hsearch t hj.1 hj.2) rfl rfl
  | searched u htype hcontent hsender =>
    rw [line_searched htype hcontent hsender, matched, List.filter_append]
    rfl
  | @cancelled now job ip htype hsender =>
    have hleaves : P (ip, job.port) = false := by
      cases hp : P (ip, job.port) with
      | false => rfl
      | true => exact absurd ⟨htype, hsender, rfl⟩ (hstay _ hp)
    refine hquiet (if_neg (by simp [htype])) rfl (Eq.trans ?_ (filter_line_cancelled hleaves t))
    cases t <;> rfl
  | acked htype =>
    refine hquiet (if_neg (by simp [htype])) rfl ?_
    cases t <;> rfl
  | confirmed before c after htype =>
    refine hquiet (if_neg (by simp [htype])) rfl ?_
    cases t <;> rfl
  | rekeyed before c after htype =>
    refine hquiet (if_neg (by simp [htype])) rfl ?_
    cases t <;> rfl
  | paired u now =>
    rw [joined, List.filter_nil, List.append_nil]
    by_cases hu : u = t
    · subst hu
      rw [← List.filter_append, ← line_processMatchmaking]
    · rw [matched, if_neg hu, line_processMatchmaking_ne s hu, List.filter_nil, List.nil_append]
  | retried now =>
    rw [joined, matched, ← List.filter_append, line, line, (creationsPass s now).returned t,
      List.map_append]
    rfl
  | resent now =>
    rw [joined, matched, ← List.filter_append, line, line, queueOf_processMatchSessionsACKS,
      List.map_append]
    rfl

/-! ## Runs -/

/-- A run of the handlers and passes. -/
abbrev History := List (Transition MatchmakingServer Step (List Datagram))

/-- The client does not cancel in a run. -/
def stays (h : History) (e : Endpoint) : Bool :=
  h.all fun t => ! decide (HandledFrom .cancelSearch e t.label)

/-- **First come, first served.**  Take any run and, for either queue, the clients that do
not cancel in it.  Those of them who waited at the start, and behind them those who joined
since, by a search or because their match came to nothing, are those who were matched
since and then those who wait, in this order. -/
theorem first_come_first_served {s s' : MatchmakingServer} {h : History}
    (hr : machine.Run s h s') (t : MatchType) :
    ((s.line t) ++ h.flatMap fun r => joined r.pre t r.label).filter (stays h)
      = ((h.flatMap fun r => matched r.pre t r.label) ++ s'.line t).filter (stays h) := by
  have hstay : ∀ r ∈ h, ∀ e, stays h e = true → ¬ HandledFrom .cancelSearch e r.label := by
    intro r hrh e he hcancel
    have hnot := List.all_eq_true.1 he r hrh
    simp [hcancel] at hnot
  have hfifo := hr.fifo (fun s => (s.line t).filter (stays h))
    (fun r => (joined r.pre t r.label).filter (stays h))
    (fun r => (matched r.pre t r.label).filter (stays h))
    fun r hrh => line_step (hstay r hrh) (hr.step_of_mem hrh) t
  rw [List.filter_append, List.filter_append, List.filter_flatMap, List.filter_flatMap]
  exact hfifo

/-- Three players search, the second one cancels and the fourth one comes: the first and
the third are matched, and the fourth waits. -/
theorem first_come_first_served_cancelled : ∃ h s, Run h s ∧
    s.line .normal = [(⟨10, 0, 0, 4⟩, 5000)] ∧
    ((h.flatMap fun r => matched r.pre .normal r.label) ++ s.line .normal).filter (stays h)
      = [(⟨10, 0, 0, 1⟩, 5000), (⟨10, 0, 0, 3⟩, 5000), (⟨10, 0, 0, 4⟩, 5000)] := by
  obtain ⟨h, s, hr, hline, hjoined⟩ := Machine.exists_run_of_exec (M := machine) (s := initial)
    (l := [searchOf 1, searchOf 2, searchOf 3,
      .handle (fun _ => 0) (jobOf .cancelSearch [] (⟨10, 0, 0, 2⟩, 5000)), searchOf 4,
      .processMatchmaking .normal fun _ => 0])
    (P := fun h s => s.line .normal = [(⟨10, 0, 0, 4⟩, 5000)] ∧
      (initial.line .normal ++ h.flatMap fun r => joined r.pre .normal r.label).filter (stays h)
        = [(⟨10, 0, 0, 1⟩, 5000), (⟨10, 0, 0, 3⟩, 5000), (⟨10, 0, 0, 4⟩, 5000)])
    (by decide +kernel)
  exact ⟨h, s, hr, hline, (first_come_first_served hr .normal).symm.trans hjoined⟩

end MatchmakingServer

end ServiceServer
