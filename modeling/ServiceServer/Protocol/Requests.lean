import ServiceServer.Matchmaking.Pairing
import ServiceServer.Protocol.GameServer

/-!
# How often a match is asked for

A pass over the creations asks the game server for each match again that it has not
confirmed for a while, and gives a creation up once it was asked for five times.  A
`MATCH_USED` starts the count of the creation it names again.

* `creationsPass` — what a pass does to every creation, in order; `creationRequest` is
  what it asks the game server, byte by byte.
* `Watched` — a creation on its way, with what was sent for it and what the clock
  showed; `sent_eq_requestSent` — a pass sends what is counted there, and nothing else.
* `creations_retried` — left alone, a creation is asked for five times at most, always
  with the same datagram, and not more often than every half a second.
* `requests_le_five_iff` — a `MATCH_USED` before the first request does no harm, and any
  later one lets a creation be asked for more than five times.
-/

namespace ServiceServer

open Lib

namespace MatchmakingServer

/-! ## One pass -/

/-- What a timer shows, in milliseconds. -/
def timerMs (c : PendingMatchCreation) (r : ClockReading) : Int :=
  asMilliseconds (c.timer.getElapsedTime r.atElapsed)

/-- What a pass leaves of a creation. -/
def creationLeft (x : PendingMatchCreation × ClockReading) : Option PendingMatchCreation :=
  if timerMs x.1 x.2 < 500 then some x.1
  else if 5 ≤ x.1.attempts then none
  else some { x.1 with attempts := x.1.attempts + 1, timer := ⟨x.2.atRestart⟩ }

/-- The players it returns to the queue of a type. -/
def creationReturned (t : MatchType) (x : PendingMatchCreation × ClockReading) :
    List ClientMatchInfo :=
  if 500 ≤ timerMs x.1 x.2 ∧ 5 ≤ x.1.attempts ∧ x.1.matchData.type = t then x.1.matchData.players
  else []

/-- The request for a match, byte by byte: the header, the type and the serialized match,
for the game server. -/
def creationRequest (c : PendingMatchCreation) : Datagram :=
  ⟨PacketHeader.urgent.mask :: PacketType.createMatch.toByte :: c.serialized, gameServerIP,
    gameServerPort⟩

/-- What it sends for it. -/
def creationSent (x : PendingMatchCreation × ClockReading) : List Datagram :=
  if 500 ≤ timerMs x.1 x.2 ∧ x.1.attempts < 5 then [creationRequest x.1] else []

/-- The game server reads the serialized match back from it. -/
theorem parseRawDatagram_creationRequest (c : PendingMatchCreation) (ip : IpAddress)
    (port : UInt16) :
    parseRawDatagram (creationRequest c).data ip port
      = some ⟨PacketHeader.urgent.mask, .createMatch, c.serialized, some ip, port⟩ :=
  parseRawDatagram_create (by decide) c.serialized ip port

theorem creationOutcome_waiting_iff {c : PendingMatchCreation} {r : ClockReading} :
    creationOutcome c r.atElapsed = .waiting ↔ timerMs c r < 500 := by
  unfold creationOutcome timerMs
  split_ifs <;> simp_all

theorem creationOutcome_givenUp_iff {c : PendingMatchCreation} {r : ClockReading} :
    creationOutcome c r.atElapsed = .givenUp ↔ 500 ≤ timerMs c r ∧ 5 ≤ c.attempts := by
  unfold creationOutcome timerMs
  split_ifs <;> simp_all

theorem creationOutcome_retried_iff {c : PendingMatchCreation} {r : ClockReading} :
    creationOutcome c r.atElapsed = .retried ↔ 500 ≤ timerMs c r ∧ c.attempts < 5 := by
  unfold creationOutcome timerMs
  split_ifs <;> simp_all

theorem keptCreation_eq (c : PendingMatchCreation) (r : ClockReading) :
    keptCreation c r = creationLeft (c, r) := by
  unfold keptCreation creationLeft creationOutcome timerMs
  split_ifs <;> rfl

theorem sentForCreation_eq (c : PendingMatchCreation) (r : ClockReading) :
    sentForCreation c r = creationSent (c, r) := by
  unfold sentForCreation creationSent
  cases hout : creationOutcome c r.atElapsed with
  | waiting =>
    have hless := creationOutcome_waiting_iff.1 hout
    rw [if_neg fun h => absurd h.1 (not_le.2 hless)]
  | givenUp =>
    have hup := creationOutcome_givenUp_iff.1 hout
    rw [if_neg fun h => absurd h.2 (not_lt.2 hup.2)]
  | retried =>
    have hretry := creationOutcome_retried_iff.1 hout
    rw [if_pos hretry]
    rfl

theorem creationReturned_eq (t : MatchType) (x : PendingMatchCreation × ClockReading) :
    ((requeuedByCreation x.1 x.2).filter fun p => p.2 = t).map Prod.fst = creationReturned t x := by
  unfold requeuedByCreation creationReturned
  cases hout : creationOutcome x.1 x.2.atElapsed with
  | waiting =>
    have hless := creationOutcome_waiting_iff.1 hout
    rw [if_neg fun h => absurd h.1 (not_le.2 hless)]
    rfl
  | retried =>
    have hretry := creationOutcome_retried_iff.1 hout
    rw [if_neg fun h => absurd h.2.1 (not_le.2 hretry.2)]
    rfl
  | givenUp =>
    have hup := creationOutcome_givenUp_iff.1 hout
    by_cases ht : x.1.matchData.type = t
    · rw [if_pos ⟨hup.1, hup.2, ht⟩]
      simp [List.filter_map, Function.comp_def, ht]
    · rw [if_neg fun h => ht h.2.2]
      simp [List.filter_map, Function.comp_def, ht]

/-- What a pass over the creations does.  It handles every creation present at entry
once, in order, each with the readings taken for it, and nothing else. -/
structure CreationsPass (s : MatchmakingServer) (now : Nat → ClockReading) : Prop where
  left : (s.processMatchCreations now).1.pendingMatchCreations
    = (withReadings now s.pendingMatchCreations).filterMap creationLeft
  returned : ∀ t, (s.processMatchCreations now).1.queueOf t
    = s.queueOf t ++ (withReadings now s.pendingMatchCreations).flatMap (creationReturned t)
  sent : (s.processMatchCreations now).2
    = (withReadings now s.pendingMatchCreations).flatMap creationSent
  pendingSessions : (s.processMatchCreations now).1.pendingSessions = s.pendingSessions
  lastMatchID : (s.processMatchCreations now).1.lastMatchID = s.lastMatchID
  playersPerMatch : (s.processMatchCreations now).1.playersPerMatch = s.playersPerMatch

theorem creationsPass (s : MatchmakingServer) (now : Nat → ClockReading) : CreationsPass s now := by
  refine ⟨?_, ?_, ?_, ?_, ?_, ?_⟩
  · rw [processMatchCreations_eq]
    exact List.filterMap_congr fun x _ => keptCreation_eq x.1 x.2
  · intro t
    have hqueue := queueOf_pushAll s ((withReadings now s.pendingMatchCreations).flatMap fun x =>
      requeuedByCreation x.1 x.2) t
    have hreturned : ((((withReadings now s.pendingMatchCreations).flatMap fun x =>
        requeuedByCreation x.1 x.2).filter fun p => p.2 = t).map Prod.fst)
          = (withReadings now s.pendingMatchCreations).flatMap (creationReturned t) := by
      rw [List.filter_flatMap, List.map_flatMap]
      exact List.flatMap_congr fun x _ => creationReturned_eq t x
    rw [hreturned] at hqueue
    rw [processMatchCreations_eq, ← hqueue]
    cases t <;> rfl
  · rw [processMatchCreations_eq]
    exact List.flatMap_congr fun x _ => sentForCreation_eq x.1 x.2
  · rw [processMatchCreations_eq]
    simp
  · rw [processMatchCreations_eq]
    simp
  · rw [processMatchCreations_eq]
    simp

/-- What is shown of a time that is not negative: its whole milliseconds, for as long as
they fit an `int`. -/
theorem asMilliseconds_eq {t : Int} (h₀ : 0 ≤ t) (h : t < 2147483648000) :
    asMilliseconds t = t / 1000 := by
  have hdiv : t.tdiv 1000 = t / 1000 := Int.tdiv_eq_ediv_of_nonneg h₀
  have hlow : 0 ≤ t / 1000 := Int.ediv_nonneg h₀ (by decide)
  have hhigh : t / 1000 < 2147483648 := Int.ediv_lt_of_lt_mul (by decide) h
  rw [asMilliseconds, hdiv]
  exact Int.bmod_eq_of_le (by omega) (by omega)

/-- Then half a second is seen as soon as it has passed. -/
theorem asMilliseconds_lt_iff {t : Int} (h₀ : 0 ≤ t) (h : t < 2147483648000) :
    asMilliseconds t < 500 ↔ t < 500000 := by
  rw [asMilliseconds_eq h₀ h]
  exact Int.ediv_lt_iff_lt_mul (by decide)

/-- No more is ever shown than has passed. -/
theorem le_of_asMilliseconds {t ms : Int} (h₀ : 0 ≤ t) (h : ms ≤ asMilliseconds t) :
    ms * 1000 ≤ t := by
  have hdiv : t.tdiv 1000 = t / 1000 := Int.tdiv_eq_ediv_of_nonneg h₀
  have hlow : 0 ≤ t / 1000 := Int.ediv_nonneg h₀ (by decide)
  have hle : (t / 1000).bmod 4294967296 ≤ t / 1000 := by
    rw [Int.bmod_def]
    split_ifs <;> omega
  rw [asMilliseconds, hdiv] at h
  exact (Int.le_ediv_iff_mul_le (by decide)).1 (h.trans hle)

/-! ## Watching a creation -/

/-- What a step sends for the creation at a position, with the readings it took there. -/
def requestSent (s : MatchmakingServer) (l : Step) (i : Nat) : List (ClockReading × Datagram) :=
  match l with
  | .processMatchCreations now =>
    match s.pendingMatchCreations[i]? with
    | none => []
    | some c => (creationSent (c, now i)).map fun d => (now i, d)
  | _ => []

/-- What is done for the elements of a list, place by place. -/
theorem flatMap_withReadings {α β ρ : Type} (now : Nat → ρ) (l : List α) (f : α × ρ → List β) :
    (withReadings now l).flatMap f
      = (List.range l.length).flatMap fun i => (l[i]?.map fun a => f (a, now i)).getD [] := by
  induction l generalizing now with
  | nil => rfl
  | cons a l ih =>
    rw [withReadings, List.flatMap_cons, ih, List.length_cons, List.range_succ_eq_map,
      List.flatMap_cons, List.flatMap_map]
    rfl

/-- **A pass sends the requests of all positions, in order, and nothing else.** -/
theorem sent_eq_requestSent (s : MatchmakingServer) (now : Nat → ClockReading) :
    (s.processMatchCreations now).2 = (List.range s.pendingMatchCreations.length).flatMap fun i =>
      (requestSent s (.processMatchCreations now) i).map Prod.snd := by
  rw [(creationsPass s now).sent, flatMap_withReadings]
  refine List.flatMap_congr fun i _ => ?_
  unfold requestSent
  cases s.pendingMatchCreations[i]? with
  | none => rfl
  | some c => simp

/-- The readings a pass takes for the creation at a position: its timer is read, and
restarted if the match is asked for. -/
def readingsTaken (s : MatchmakingServer) (l : Step) (i : Nat) : List Micros :=
  match l with
  | .processMatchCreations now =>
    (now i).atElapsed :: (requestSent s l i).map fun x => x.1.atRestart
  | _ => []

/-- Does a reply confirm the creation at this position? -/
def confirms (s : MatchmakingServer) (l : Step) (i : Nat) : Bool :=
  match l with
  | .handle .. => (followCreation s l i).isNone
  | _ => false

/-- Does a step give the creation at this position a new ID when it was already asked for
under the old one? -/
def rekeysLate (s : MatchmakingServer) (l : Step) (i : Nat) : Bool :=
  rekeys s l i && s.pendingMatchCreations[i]?.any fun c => decide (0 < c.attempts)

/-- A pending creation on its way, with what was sent for it. -/
structure Watched where
  /-- Where it stands; `none` once it is removed. -/
  position : Option Nat
  /-- Was it removed by a reply that confirmed it? -/
  confirmed : Bool := false
  /-- What was sent for it, each with the readings around it. -/
  requests : List (ClockReading × Datagram) := []
  /-- What the clock showed when it was formed, and in the passes since. -/
  readings : List Micros
  /-- How often it was given a new ID after it had been asked for under the old one. -/
  lateRekeys : Nat := 0

namespace Watched

/-- What becomes of it in a step. -/
def step (w : Watched) (s : MatchmakingServer) (l : Step) : Watched :=
  match w.position with
  | none => w
  | some i =>
    { position := followCreation s l i
      confirmed := confirms s l i
      requests := w.requests ++ requestSent s l i
      readings := w.readings ++ readingsTaken s l i
      lateRekeys := if rekeysLate s l i then w.lateRekeys + 1 else w.lateRekeys }

/-- What becomes of it in a run. -/
def run (w : Watched) (h : List (Transition MatchmakingServer Step (List Datagram))) : Watched :=
  h.foldl (fun w t => w.step t.pre t.label) w

/-- A creation that was just formed. -/
def start (i : Nat) (c : PendingMatchCreation) : Watched :=
  { position := some i, readings := [c.timer.startedAt] }

theorem run_append (w : Watched) (h h' : List (Transition MatchmakingServer Step (List Datagram))) :
    w.run (h ++ h') = (w.run h).run h' :=
  List.foldl_append

theorem run_concat (w : Watched) (h : List (Transition MatchmakingServer Step (List Datagram)))
    (t : Transition MatchmakingServer Step (List Datagram)) :
    w.run (h ++ [t]) = (w.run h).step t.pre t.label :=
  run_append w h [t]

theorem step_of_gone {w : Watched} (h : w.position = none) (s : MatchmakingServer) (l : Step) :
    w.step s l = w := by
  rw [step, h]

/-- What a step may show of a watched creation, one case for each fate. -/
inductive Seen (w : Watched) (s' : MatchmakingServer) (l : Step) (i : Nat)
    (c : PendingMatchCreation) : Watched → Prop
  | kept (j : Nat) (taken : List Micros) (hc : s'.pendingMatchCreations[j]? = some c)
      (hwaits : ∀ now, l = .processMatchCreations now → timerMs c (now i) < 500) :
      Seen w s' l i c
        { w with position := some j, confirmed := false, readings := w.readings ++ taken }
  | retried (r : ClockReading) (j : Nat) (hlate : 500 ≤ timerMs c r) (hleft : c.attempts < 5)
      (hc : s'.pendingMatchCreations[j]?
        = some { c with timer := ⟨r.atRestart⟩, attempts := c.attempts + 1 }) :
      Seen w s' l i c
        { w with
          position := some j
          confirmed := false
          requests := w.requests ++ [(r, creationRequest c)]
          readings := w.readings ++ [r.atElapsed, r.atRestart] }
  | givenUp (r : ClockReading) (hused : 5 ≤ c.attempts) :
      Seen w s' l i c
        { w with position := none, confirmed := false, readings := w.readings ++ [r.atElapsed] }
  | rekeyed (now : Nat → Micros) (job : RawPacketJob) (matchID : UInt32) (restarted : Micros)
      (hl : l = .handle now job) (hreply : IsReply job)
      (hnamed : named job.content c = true)
      (hc : s'.pendingMatchCreations[i]? = some (rekey c matchID restarted)) :
      Seen w s' l i c
        { w with
          position := some i
          confirmed := false
          lateRekeys := if 0 < c.attempts then w.lateRekeys + 1 else w.lateRekeys }
  | confirmed (now : Nat → Micros) (job : RawPacketJob) (hl : l = .handle now job)
      (hreply : IsReply job) (hnamed : named job.content c = true) :
      Seen w s' l i c { w with position := none, confirmed := true }

/-- What a creation that is not asked for in a pass shows there. -/
theorem requestSent_eq_nil {s : MatchmakingServer} {now : Nat → ClockReading} {i : Nat}
    {c : PendingMatchCreation} (hc : s.pendingMatchCreations[i]? = some c)
    (hout : creationOutcome c (now i).atElapsed ≠ .retried) :
    requestSent s (.processMatchCreations now) i = [] := by
  have hnot : ¬ (500 ≤ timerMs c (now i) ∧ c.attempts < 5) :=
    fun h => hout (creationOutcome_retried_iff.2 h)
  simp only [requestSent, hc, creationSent]
  rw [if_neg hnot]
  rfl

/-- **What is seen of it in a step.** -/
theorem seen_step {w : Watched} {s s' : MatchmakingServer} {l : Step} {out : List Datagram}
    (h : s.step l = .ok (s', out)) {i : Nat} {c : PendingMatchCreation}
    (hpos : w.position = some i) (hc : s.pendingMatchCreations[i]? = some c) :
    Seen w s' l i c (w.step s l) := by
  rw [step, hpos]
  cases creation_fate h hc with
  | kept j hj hc' hrekeys hwaits =>
    have hrekeysLate : rekeysLate s l i = false := by rw [rekeysLate, hrekeys, Bool.false_and]
    have hsent : requestSent s l i = [] := by
      cases l with
      | processMatchCreations now =>
        refine requestSent_eq_nil hc ?_
        rw [hwaits now rfl]
        decide
      | handle => rfl
      | processMatchmaking => rfl
      | processMatchSessionsACKS => rfl
    have hconfirms : confirms s l i = false := by
      cases l with
      | handle => rw [confirms, hj]; rfl
      | processMatchCreations => rfl
      | processMatchmaking => rfl
      | processMatchSessionsACKS => rfl
    simp only [hj, hrekeysLate, hsent, hconfirms, List.append_nil, Bool.false_eq_true, if_false]
    exact .kept j _ hc' fun now hl => creationOutcome_waiting_iff.1 (hwaits now hl)
  | retried now j hl hout hj hc' =>
    subst hl
    obtain ⟨hlate, hleft⟩ := creationOutcome_retried_iff.1 hout
    have hsent : requestSent s (.processMatchCreations now) i
        = [(now i, creationRequest c)] := by
      simp only [requestSent, hc, creationSent]
      rw [if_pos ⟨hlate, hleft⟩]
      rfl
    simp only [hj, hsent, readingsTaken, rekeysLate, rekeys, confirms, Bool.false_and,
      Bool.false_eq_true, if_false, List.map_cons, List.map_nil]
    exact .retried (now i) j hlate hleft hc'
  | givenUp now hl hout hj =>
    subst hl
    have hsent : requestSent s (.processMatchCreations now) i = [] := by
      refine requestSent_eq_nil hc ?_
      rw [hout]
      decide
    simp only [hj, hsent, readingsTaken, rekeysLate, rekeys, confirms, Bool.false_and,
      Bool.false_eq_true, if_false, List.map_nil, List.append_nil]
    exact .givenUp (now i) (creationOutcome_givenUp_iff.1 hout).2
  | rekeyed now job hl htype hnamed hj hrekeys hc' =>
    subst hl
    have hconfirms : confirms s (.handle now job) i = false := by rw [confirms, hj]; rfl
    have hrekeysLate : rekeysLate s (.handle now job) i = decide (0 < c.attempts) := by
      rw [rekeysLate, hrekeys, hc]
      rfl
    simp only [hj, hconfirms, hrekeysLate, requestSent, readingsTaken, List.append_nil,
      decide_eq_true_eq]
    exact .rekeyed now job _ _ rfl (.inr htype) hnamed hc'
  | confirmed now job hl htype hnamed hj =>
    subst hl
    have hconfirms : confirms s (.handle now job) i = true := by rw [confirms, hj]; rfl
    have hrekeysLate : rekeysLate s (.handle now job) i = false := by
      simp [rekeysLate, rekeys, htype]
    simp only [hj, hconfirms, hrekeysLate, requestSent, readingsTaken, List.append_nil,
      Bool.false_eq_true, if_false]
    exact .confirmed now job rfl (.inl htype) hnamed

theorem exists_readings (w : Watched) (s : MatchmakingServer) (l : Step) :
    ∃ taken, (w.step s l).readings = w.readings ++ taken := by
  unfold step
  split
  · exact ⟨[], (List.append_nil _).symm⟩
  · exact ⟨_, rfl⟩

end Watched

/-- What the pairing pass forms holds its own match, serialized. -/
theorem serialized_of_formed {s : MatchmakingServer} {t : MatchType} {now : Nat → Micros} {i : Nat}
    {c : PendingMatchCreation} (hi : s.pendingMatchCreations.length ≤ i)
    (hc : (s.processMatchmaking t now).pendingMatchCreations[i]? = some c) :
    c.serialized = serializeMatch c.matchData := by
  obtain ⟨new, hcs, -, -, -, -, hnew⟩ := exists_formed s t now
  rw [hcs, List.getElem?_append_right hi] at hc
  exact (hnew c (List.mem_of_getElem? hc)).1

/-- What the pairing pass forms was never asked for. -/
theorem attempts_of_formed {s : MatchmakingServer} {t : MatchType} {now : Nat → Micros} {i : Nat}
    {c : PendingMatchCreation} (hi : s.pendingMatchCreations.length ≤ i)
    (hc : (s.processMatchmaking t now).pendingMatchCreations[i]? = some c) : c.attempts = 0 := by
  have hformed : (s.processMatchmaking t now).pendingMatchCreations
      = s.pendingMatchCreations ++ (List.range ((s.queueOf t).length
          / s.playersPerMatch.val.toNat)).map (s.groupCreation t now) := by
    rw [processMatchmaking, pairLoop_eq (Nat.div_le_self ..)]
    rfl
  rw [hformed, List.getElem?_append_right hi] at hc
  obtain ⟨k, -, rfl⟩ := List.mem_map.1 (List.mem_of_getElem? hc)
  rfl

/-! ## Left alone -/

/-- What holds of a creation that no reply has named. -/
structure Watched.Alone (w : Watched) (s : MatchmakingServer) (c : PendingMatchCreation) :
    Prop where
  /-- While it is kept, nothing of it has changed but the timer and the count of its
  requests. -/
  stands : ∀ i, w.position = some i → ∃ startedAt ∈ w.readings,
    s.pendingMatchCreations[i]?
      = some { c with timer := ⟨startedAt⟩, attempts := w.requests.length } ∧
    ∀ x ∈ w.requests, x.1.atRestart ≤ startedAt
  atMost : w.requests.length ≤ 5
  /-- It is removed after the fifth request only, and not because it is confirmed. -/
  gone : w.position = none → w.requests.length = 5
  unconfirmed : w.confirmed = false
  same : ∀ x ∈ w.requests, x.2 = creationRequest c
  /-- A request is sent between its two readings. -/
  apart : w.requests.Pairwise fun x y => x.1.atRestart + 500000 ≤ y.1.atElapsed

theorem alone_start {s : MatchmakingServer} {i : Nat} {c : PendingMatchCreation}
    (hc : s.pendingMatchCreations[i]? = some c) (hattempts : c.attempts = 0) :
    (Watched.start i c).Alone s c := by
  refine ⟨?_, Nat.zero_le _, fun h => ?_, rfl, ?_, .nil⟩
  · intro j hj
    cases hj
    refine ⟨c.timer.startedAt, List.mem_singleton_self _, ?_, ?_⟩
    · have hnone : (((Watched.start i c).requests.length : Nat) : Int) = c.attempts :=
        hattempts.symm
      rw [hc, hnone]
    · simp [Watched.start]
  · cases h
  · simp [Watched.start]

/-- **A step leaves it so**, when it handles no reply that names the creation and the
clock does not go back. -/
theorem alone_step {w : Watched} {s s' : MatchmakingServer} {c : PendingMatchCreation} {l : Step}
    {out : List Datagram} (hw : w.Alone s c) (h : s.step l = .ok (s', out))
    (hreplies : ∀ now job, l = .handle now job → IsReply job → named job.content c = false)
    (hclock : (w.step s l).readings.Pairwise (· ≤ ·)) : (w.step s l).Alone s' c := by
  cases hpos : w.position with
  | none =>
    rw [Watched.step_of_gone hpos]
    refine ⟨fun i hi => ?_, hw.atMost, hw.gone, hw.unconfirmed, hw.same, hw.apart⟩
    rw [hpos] at hi
    cases hi
  | some i =>
    obtain ⟨startedAt, hstarted, hc, hbefore⟩ := hw.stands i hpos
    have hseen := Watched.seen_step h hpos hc
    generalize w.step s l = w' at hseen hclock ⊢
    cases hseen with
    | kept j taken hc' hwaits =>
      refine ⟨fun k hk => ?_, hw.atMost, fun hk => ?_, rfl, hw.same, hw.apart⟩
      · cases hk
        exact ⟨startedAt, List.mem_append_left _ hstarted, hc', hbefore⟩
      · cases hk
    | retried r j hlate hleft hc' =>
      obtain ⟨-, htaken, hcross⟩ := List.pairwise_append.1 hclock
      have hread : startedAt ≤ r.atElapsed := hcross _ hstarted _ List.mem_cons_self
      have hsent : r.atElapsed ≤ r.atRestart := by simpa using htaken
      have hapart : startedAt + 500000 ≤ r.atElapsed := by
        have hshown : 500000 ≤ r.atElapsed - startedAt :=
          le_of_asMilliseconds (Int.sub_nonneg_of_le hread) hlate
        exact Int.add_le_of_le_sub_left hshown
      refine ⟨fun k hk => ?_, ?_, fun hk => ?_, rfl, ?_, ?_⟩
      · cases hk
        refine ⟨r.atRestart, by simp, ?_, ?_⟩
        · simpa using hc'
        · rw [List.forall_mem_append, List.forall_mem_singleton]
          exact ⟨fun x hx => (hbefore x hx).trans (hread.trans hsent), le_rfl⟩
      · have hcount : (w.requests.length : Int) < 5 := hleft
        rw [List.length_append, List.length_singleton]
        omega
      · cases hk
      · rw [List.forall_mem_append, List.forall_mem_singleton]
        exact ⟨hw.same, rfl⟩
      · refine List.pairwise_append.2 ⟨hw.apart, List.pairwise_singleton .., ?_⟩
        intro x hx y hy
        obtain rfl := List.mem_singleton.1 hy
        exact (Int.add_le_add_right (hbefore x hx) 500000).trans hapart
    | givenUp r hused =>
      have hcount : (5 : Int) ≤ w.requests.length := hused
      have hmost := hw.atMost
      refine ⟨fun k hk => ?_, hw.atMost, fun _ => ?_, rfl, hw.same, hw.apart⟩
      · cases hk
      · show w.requests.length = 5
        omega
    | rekeyed now job matchID restarted hl hreply hnamed hc' =>
      have hnamed' : named job.content c = true := hnamed
      rw [hreplies now job hl hreply] at hnamed'
      cases hnamed'
    | confirmed now job hl hreply hnamed =>
      have hnamed' : named job.content c = true := hnamed
      rw [hreplies now job hl hreply] at hnamed'
      cases hnamed'

theorem alone_run {w : Watched} {s s' : MatchmakingServer} {c : PendingMatchCreation}
    {h : List (Transition MatchmakingServer Step (List Datagram))} (hw : w.Alone s c)
    (hr : machine.Run s h s')
    (hreplies : ∀ t ∈ h, ∀ now job, t.label = .handle now job → IsReply job →
      named job.content c = false)
    (hclock : (w.run h).readings.Pairwise (· ≤ ·)) : (w.run h).Alone s' c := by
  induction hr with
  | nil => exact hw
  | @snoc h s s' l out _ hs ih =>
    rw [List.forall_mem_append, List.forall_mem_singleton] at hreplies
    rw [Watched.run_concat] at hclock ⊢
    obtain ⟨taken, htaken⟩ := Watched.exists_readings (w.run h) s l
    have hbefore : (w.run h).readings.Pairwise (· ≤ ·) := by
      rw [htaken] at hclock
      exact (List.pairwise_append.1 hclock).1
    exact alone_step (ih hreplies.1 hbefore) hs hreplies.2 hclock

/-- **Creations are retried five times at most.**  A pass handles each creation present
at entry once, what it sends for one is read as its serialized match, and half a second is
seen on a timer once it has passed.  From the pass that forms it, and for as long as no
reply names it, a creation is asked for at most five times, with the same datagram of its
match and at least half a second between two of them; only its timer and the count of its
requests change, and it is given up after the fifth. -/
theorem creations_retried :
    (∀ s now, CreationsPass s now) ∧
    (∀ c ip port, parseRawDatagram (creationRequest c).data ip port
      = some ⟨PacketHeader.urgent.mask, .createMatch, c.serialized, some ip, port⟩) ∧
    (∀ t : Micros, 0 ≤ t → t < 2147483648000 → (asMilliseconds t < 500 ↔ t < 500000)) ∧
    ∀ {s s' : MatchmakingServer} {t : MatchType} {now : Nat → Micros}
      {h : List (Transition MatchmakingServer Step (List Datagram))} {i : Nat}
      {c : PendingMatchCreation}, s.pendingMatchCreations.length ≤ i →
      (s.processMatchmaking t now).pendingMatchCreations[i]? = some c →
      machine.Run (s.processMatchmaking t now) h s' →
      (∀ u ∈ h, ∀ now job, u.label = .handle now job → IsReply job →
        named job.content c = false) →
      ((Watched.start i c).run h).readings.Pairwise (· ≤ ·) →
      c.serialized = serializeMatch c.matchData ∧ ((Watched.start i c).run h).Alone s' c := by
  refine ⟨creationsPass, parseRawDatagram_creationRequest, fun t => asMilliseconds_lt_iff, ?_⟩
  intro s s' t now h i c hi hc hr hreplies hclock
  exact ⟨serialized_of_formed hi hc,
    alone_run (alone_start hc (attempts_of_formed hi hc)) hr hreplies hclock⟩

instance (l : Step) : Decidable (HandlesReply l) :=
  match l with
  | .handle _ job => inferInstanceAs (Decidable (IsReply job))
  | .processMatchmaking .. => .isFalse id
  | .processMatchCreations _ => .isFalse id
  | .processMatchSessionsACKS _ => .isFalse id

/-- Two players search and are paired, and the listed steps follow. -/
theorem exists_run_of_pair {l : List Step}
    {P : PendingMatchCreation → List (Transition MatchmakingServer Step (List Datagram)) → Prop}
    [∀ c h, Decidable (P c h)]
    (hx : machine.execSat initial [searchOf 1, searchOf 2] (fun _ s =>
      s.pendingMatchCreations = [] ∧
        ∃ c ∈ (s.processMatchmaking .normal fun _ => 0).pendingMatchCreations[0]?,
          machine.execSat (s.processMatchmaking .normal fun _ => 0) l fun h _ => P c h) = true) :
    ∃ s c h s', machine.Reachable initial s ∧ s.pendingMatchCreations = [] ∧
      (s.processMatchmaking .normal fun _ => 0).pendingMatchCreations[0]? = some c ∧
      machine.Run (s.processMatchmaking .normal fun _ => 0) h s' ∧ P c h := by
  obtain ⟨h₁, s, hr₁, hnone, c, hc, hp⟩ := Machine.exists_run_of_exec hx
  obtain ⟨h, s', hr, hp⟩ := Machine.exists_run_of_exec hp
  exact ⟨s, c, h, s', ⟨h₁, hr₁⟩, hnone, hc, hr, hp⟩

/-- Two players search and are paired, and the game server stays silent: their match is
asked for five times and given up. -/
theorem creations_retried_silence : ∃ s c h s', machine.Reachable initial s ∧
    (s.processMatchmaking .normal fun _ => 0).pendingMatchCreations[0]? = some c ∧
    machine.Run (s.processMatchmaking .normal fun _ => 0) h s' ∧
    ((Watched.start 0 c).run h).position = none ∧ ((Watched.start 0 c).run h).Alone s' c := by
  obtain ⟨s, c, h, s', hs, hnone, hc, hr, hsilent, hclock, hgone⟩ := exists_run_of_pair
    (l := silence)
    (P := fun c h => (∀ u ∈ h, ¬ HandlesReply u.label) ∧
      ((Watched.start 0 c).run h).readings.Pairwise (· ≤ ·) ∧
      ((Watched.start 0 c).run h).position = none) (by decide +kernel)
  refine ⟨s, c, h, s', hs, hc, hr, hgone, ?_⟩
  refine (creations_retried.2.2.2 (by simp [hnone]) hc hr ?_ hclock).2
  intro u hu now job hl hreply
  refine absurd ?_ (hsilent u hu)
  rw [hl]
  exact hreply

/-! ## When replies name it -/

/-- How the requests of a creation are counted, whatever replies name it. -/
structure Watched.Counted (w : Watched) (s : MatchmakingServer) : Prop where
  /-- Between two late re-keyings it is asked for at least once, and at most five times. -/
  stands : ∀ i, w.position = some i → ∃ c, s.pendingMatchCreations[i]? = some c ∧
    0 ≤ c.attempts ∧ c.attempts ≤ 5 ∧ c.attempts + w.lateRekeys ≤ w.requests.length ∧
    (w.requests.length : Int) ≤ c.attempts + 5 * w.lateRekeys
  atMost : w.requests.length ≤ 5 * (w.lateRekeys + 1)
  givenUp : w.position = none → w.confirmed = false → 5 + w.lateRekeys ≤ w.requests.length

theorem counted_start {s : MatchmakingServer} {i : Nat} {c : PendingMatchCreation}
    (hc : s.pendingMatchCreations[i]? = some c) (hattempts : c.attempts = 0) :
    (Watched.start i c).Counted s := by
  refine ⟨fun j hj => ?_, Nat.zero_le _, fun h => by cases h⟩
  cases hj
  exact ⟨c, hc, by simp [Watched.start, hattempts]⟩

theorem counted_step {w : Watched} {s s' : MatchmakingServer} {l : Step} {out : List Datagram}
    (hw : w.Counted s) (h : s.step l = .ok (s', out)) : (w.step s l).Counted s' := by
  cases hpos : w.position with
  | none =>
    rw [Watched.step_of_gone hpos]
    refine ⟨fun i hi => ?_, hw.atMost, hw.givenUp⟩
    rw [hpos] at hi
    cases hi
  | some i =>
    obtain ⟨c, hc, hnonneg, hfive, hlow, hhigh⟩ := hw.stands i hpos
    have hmost := hw.atMost
    have hseen := Watched.seen_step h hpos hc
    generalize w.step s l = w' at hseen ⊢
    cases hseen with
    | kept j taken hc' hwaits =>
      refine ⟨fun k hk => ?_, hw.atMost, fun hk => by cases hk⟩
      cases hk
      exact ⟨c, hc', hnonneg, hfive, hlow, hhigh⟩
    | retried r j hlate hleft hc' =>
      refine ⟨fun k hk => ?_, ?_, fun hk => by cases hk⟩
      · cases hk
        refine ⟨_, hc', ?_⟩
        simp only [List.length_append, List.length_singleton, Nat.cast_add, Nat.cast_one]
        omega
      · simp only [List.length_append, List.length_singleton]
        omega
    | givenUp r hused =>
      refine ⟨fun k hk => ?_, hw.atMost, fun _ _ => ?_⟩
      · cases hk
      · show 5 + w.lateRekeys ≤ w.requests.length
        omega
    | rekeyed now job matchID restarted hl hreply hnamed hc' =>
      refine ⟨fun k hk => ?_, ?_, fun hk => by cases hk⟩
      · cases hk
        refine ⟨_, hc', ?_⟩
        simp only [rekey]
        split_ifs <;> omega
      · simp only []
        split_ifs <;> omega
    | confirmed now job hl hreply hnamed =>
      refine ⟨fun k hk => ?_, hw.atMost, fun _ hno => ?_⟩
      · cases hk
      · cases hno

theorem counted_run {w : Watched} {s s' : MatchmakingServer}
    {h : List (Transition MatchmakingServer Step (List Datagram))} (hw : w.Counted s)
    (hr : machine.Run s h s') : (w.run h).Counted s' := by
  induction hr with
  | nil => exact hw
  | snoc _ hs ih =>
    rw [Watched.run_concat]
    exact counted_step ih hs

/-- The game server stays silent until nothing is left of the attempts. -/
theorem exists_run_silent {w : Watched} {s : MatchmakingServer} (hw : w.Counted s)
    (hopen : w.confirmed = false) : ∃ h s', machine.Run s h s' ∧
      (∀ t ∈ h, ¬ HandlesReply t.label) ∧ 5 + w.lateRekeys ≤ (w.run h).requests.length := by
  cases hpos : w.position with
  | none => exact ⟨[], s, .nil, by simp, hw.givenUp hpos hopen⟩
  | some i =>
    obtain ⟨c, hc, hnonneg, hfive, hlow, hhigh⟩ := hw.stands i hpos
    -- by induction on the attempts that are left
    induction hn : (5 - c.attempts).toNat generalizing w s i c with
    | zero =>
      refine ⟨[], s, .nil, by simp, ?_⟩
      show 5 + w.lateRekeys ≤ w.requests.length
      omega
    | succ n ih =>
      let late := lateReading c.timer
      have hshown : timerMs c late = 500 := asMilliseconds_lateReading c.timer
      have hstep : s.step (.processMatchCreations fun _ => late)
          = .ok (s.processMatchCreations fun _ => late) := rfl
      have hone := Machine.Run.single (M := machine) (s := s)
        (i := .processMatchCreations fun _ => late) hstep
      have hcounted := counted_step hw hstep
      have hrun : ∀ h, (w.step s (.processMatchCreations fun _ => late)).run h
          = w.run (⟨s, .processMatchCreations fun _ => late,
              (s.processMatchCreations fun _ => late).2,
              (s.processMatchCreations fun _ => late).1⟩ :: h) := fun _ => rfl
      have hseen := Watched.seen_step hstep hpos hc
      generalize w.step s _ = w' at hseen hcounted hrun
      cases hseen with
      | kept j taken hc' hwaits =>
        have hless := hwaits _ rfl
        omega
      | retried r j hlate hleft hc' =>
        obtain ⟨c', hc'', hbounds⟩ := hcounted.stands j rfl
        obtain rfl := Option.some.inj (hc'.symm.trans hc'')
        obtain ⟨h, s', hr, hsilent, hcount⟩ := ih hcounted rfl j rfl _ hc'' hbounds.1 hbounds.2.1
          hbounds.2.2.1 hbounds.2.2.2 (by simp only []; omega)
        refine ⟨_, s', hone.append hr, ?_, ?_⟩
        · rw [List.forall_mem_append, List.forall_mem_singleton]
          exact ⟨id, hsilent⟩
        · rw [hrun] at hcount
          exact hcount
      | givenUp r hused => omega
      | rekeyed now job matchID restarted hl hreply hnamed hc' => cases hl
      | confirmed now job hl hreply hnamed => cases hl

/-- While the game server is silent, no creation is given a new ID. -/
theorem lateRekeys_of_silent {w : Watched} {s s' : MatchmakingServer}
    {h : List (Transition MatchmakingServer Step (List Datagram))} (hr : machine.Run s h s')
    (hsilent : ∀ u ∈ h, ¬ HandlesReply u.label) : (w.run h).lateRekeys = w.lateRekeys := by
  induction hr with
  | nil => rfl
  | @snoc h s _ l _ _ _ ih =>
    rw [List.forall_mem_append, List.forall_mem_singleton] at hsilent
    rw [Watched.run_concat, ← ih hsilent.1]
    have hrekeys : ∀ i, rekeysLate s l i = false := by
      intro i
      cases l with
      | handle now job =>
        have htype : job.type ≠ .matchUsed := fun htype => hsilent.2 (.inr htype)
        simp [rekeysLate, rekeys, htype]
      | processMatchmaking => rfl
      | processMatchCreations => rfl
      | processMatchSessionsACKS => rfl
    unfold Watched.step
    split
    · rfl
    · simp only [hrekeys, Bool.false_eq_true, if_false]

/-- **A creation is asked for five times at most, exactly if no `MATCH_USED` names it
after it was asked for.**  It is watched from the pass that forms it and was not
confirmed.  If it was never given a new ID once it had been asked for, it is asked for at
most five times until the game server speaks again; if it was, and the game server stays
silent from here on, it is asked for more often. -/
theorem requests_le_five_iff {s s' : MatchmakingServer} {t : MatchType} {now : Nat → Micros}
    {h : List (Transition MatchmakingServer Step (List Datagram))} {i : Nat}
    {c : PendingMatchCreation} (hi : s.pendingMatchCreations.length ≤ i)
    (hc : (s.processMatchmaking t now).pendingMatchCreations[i]? = some c)
    (hr : machine.Run (s.processMatchmaking t now) h s')
    (hopen : ((Watched.start i c).run h).confirmed = false) :
    (∀ h' s'', machine.Run s' h' s'' → (∀ u ∈ h', ¬ HandlesReply u.label) →
      ((Watched.start i c).run (h ++ h')).requests.length ≤ 5) ↔
    ((Watched.start i c).run h).lateRekeys = 0 := by
  have hcounted := counted_run (counted_start hc (attempts_of_formed hi hc)) hr
  constructor
  · intro hbound
    obtain ⟨h', s'', hr', hsilent, hcount⟩ := exists_run_silent hcounted hopen
    have hfive := hbound h' s'' hr' hsilent
    rw [Watched.run_append] at hfive
    omega
  · intro hnone h' s'' hr' hsilent
    have hmost := (counted_run hcounted hr').atMost
    rw [lateRekeys_of_silent hr' hsilent, hnone] at hmost
    rw [Watched.run_append]
    exact hmost

/-- Two players search and are paired, and the game server stays silent: their match is
asked for five times at most. -/
theorem requests_le_five_iff_silence : ∃ s c h s', machine.Reachable initial s ∧
    (s.processMatchmaking .normal fun _ => 0).pendingMatchCreations[0]? = some c ∧
    machine.Run (s.processMatchmaking .normal fun _ => 0) h s' ∧
    ∀ h' s'', machine.Run s' h' s'' → (∀ u ∈ h', ¬ HandlesReply u.label) →
      ((Watched.start 0 c).run (h ++ h')).requests.length ≤ 5 := by
  obtain ⟨s, c, h, s', hs, hnone, hc, hr, hopen, hlate⟩ := exists_run_of_pair (l := silence)
    (P := fun c h => ((Watched.start 0 c).run h).confirmed = false ∧
      ((Watched.start 0 c).run h).lateRekeys = 0) (by decide +kernel)
  exact ⟨s, c, h, s', hs, hc, hr, (requests_le_five_iff (by simp [hnone]) hc hr hopen).2 hlate⟩

/-- Six times, the match is asked for after half a second and the game server answers that
its ID is used. -/
def rejectedSixTimes : List Step := (List.range 6).flatMap fun k : Nat =>
  [.processMatchCreations fun _ => ⟨500000 * (k + 1), 500000 * (k + 1)⟩,
    .handle (fun _ => 500000 * (k + 1)) (replyJob .matchUsed (k + 1))]

/-- **A game server that keeps rejecting IDs is asked more than five times**: every
rejection starts the count again, and the players are still not back in their queue. -/
theorem asked_six_times : ∃ s c h s', machine.Reachable initial s ∧
    (s.processMatchmaking .normal fun _ => 0).pendingMatchCreations[0]? = some c ∧
    machine.Run (s.processMatchmaking .normal fun _ => 0) h s' ∧
    ((Watched.start 0 c).run h).confirmed = false ∧
    ((Watched.start 0 c).run h).position = some 0 ∧
    ((Watched.start 0 c).run h).requests.length = 6 := by
  obtain ⟨s, c, h, s', hs, -, hc, hr, hopen, hpos, hcount⟩ := exists_run_of_pair
    (l := rejectedSixTimes)
    (P := fun c h => ((Watched.start 0 c).run h).confirmed = false ∧
      ((Watched.start 0 c).run h).position = some 0 ∧
      ((Watched.start 0 c).run h).requests.length = 6) (by decide +kernel)
  exact ⟨s, c, h, s', hs, hc, hr, hopen, hpos, hcount⟩

end MatchmakingServer

end ServiceServer
