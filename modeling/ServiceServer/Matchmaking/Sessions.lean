import ServiceServer.Matchmaking.Ids
import Mathlib.Data.List.Infix
import Mathlib.Data.List.TakeWhile

/-!
# Acknowledgements

A pass over the sessions tells players again that have not acknowledged for a while,
removes the sessions in which all have, and gives up those in which a player has been
told often enough.

* `acks_pass` — what a pass does to every session, in order; `sessionSent` — and what it
  sends for it.
* `Comes`, `comes_of_step` — where a pending session comes from.
* `unresponsive_dropped_iff` — only unresponsive players are dropped as long as no
  player of a session lags behind another.
-/

namespace ServiceServer

open Lib

namespace MatchmakingServer

/-! ## One pass, session by session -/

/-- What a pass makes of a player of a session it keeps. -/
def resentPlayer (x : PendingMatch × ClockReading) : PendingMatch :=
  if Overdue x.1 x.2 then
    { x.1 with timer := ⟨x.2.atRestart⟩, retries := x.1.retries + 1 }
  else x.1

/-- What it sends to a player that it does not find exhausted: the bytes of its message, and
nothing before them. -/
def resentTo (x : PendingMatch × ClockReading) : List Datagram :=
  if Overdue x.1 x.2 then [⟨x.1.matchMessage, x.1.player.ip, x.1.player.port⟩] else []

/-- What it sends for a session: it stops at the first player that is exhausted. -/
def sessionSent (x : MatchSession × (Nat → ClockReading)) : List Datagram :=
  ((withReadings x.2 x.1.players).takeWhile fun y => ¬ Exhausted y.1 y.2).flatMap resentTo

/-- What it leaves of a session. -/
def sessionLeft (x : MatchSession × (Nat → ClockReading)) : Option MatchSession :=
  if AllAcked x.1 ∨ GivesUp x.1 x.2 then none
  else some ⟨(withReadings x.2 x.1.players).map resentPlayer⟩

/-- The players of a session it returns to a queue. -/
def returnedTo (t : MatchType) (x : MatchSession × (Nat → ClockReading)) : List ClientMatchInfo :=
  if GivesUp x.1 x.2 then
    (x.1.players.filter fun p => p.ackRecieved && p.matchType = t).map (·.player)
  else []

/-! ## The scan of a session -/

/-- **What a scan sends.** -/
theorem sent_scanPlayers (now : Nat → ClockReading) (ps : List PendingMatch) :
    (scanPlayers now ps).sent = sessionSent (⟨ps⟩, now) := by
  induction ps generalizing now with
  | nil => rfl
  | cons p ps ih =>
    have hrest := ih fun i => now (i + 1)
    unfold sessionSent at hrest ⊢
    simp only [withReadings, scanPlayers]
    cases hack : p.ackRecieved with
    | true =>
      have hnot : ¬ Overdue p (now 0) := by simp [Overdue, hack]
      simp [Exhausted, resentTo, hnot, hrest]
    | false =>
      by_cases hlate : resendInterval < p.timer.getElapsedTime (now 0).atElapsed
      · have hover : Overdue p (now 0) := ⟨hack, hlate⟩
        by_cases hmax : maxRetries ≤ p.retries
        · have hexhausted : Exhausted p (now 0) := ⟨hover, hmax⟩
          simp [hlate, hmax, hexhausted]
        · have hleft : ¬ Exhausted p (now 0) := fun he => hmax he.2
          simp [resentTo, resendDatagram, hover, hlate, hmax, hleft, hrest]
      · have hnot : ¬ Overdue p (now 0) := fun hover => hlate hover.2
        simp [Exhausted, resentTo, hnot, hlate, hrest]

/-- To a session that is not given up, all that is due is sent. -/
theorem sessionSent_eq {x : MatchSession × (Nat → ClockReading)} (h : ¬ GivesUp x.1 x.2) :
    sessionSent x = (withReadings x.2 x.1.players).flatMap resentTo := by
  have hnone : ∀ y ∈ withReadings x.2 x.1.players, decide (¬ Exhausted y.1 y.2) = true :=
    fun y hy => decide_eq_true fun he => h ⟨y, hy, he⟩
  rw [sessionSent, List.takeWhile_eq_self_iff.2 hnone]

/-- Nothing else is ever sent for a session. -/
theorem sessionSent_prefix_resent (x : MatchSession × (Nat → ClockReading)) :
    sessionSent x <+: (withReadings x.2 x.1.players).flatMap resentTo :=
  (List.takeWhile_prefix _).flatMap resentTo

/-- **A scan that finds nobody exhausted** counts a retry for each overdue player. -/
theorem players_scanPlayers {now : Nat → ClockReading} {ps : List PendingMatch}
    (h : ∀ x ∈ withReadings now ps, ¬ Exhausted x.1 x.2) :
    (scanPlayers now ps).players = (withReadings now ps).map resentPlayer := by
  induction ps generalizing now with
  | nil => rfl
  | cons p ps ih =>
    rw [withReadings, List.forall_mem_cons] at h
    obtain ⟨hp, hrest⟩ := h
    have hplayers := ih hrest
    simp only [withReadings, List.map_cons, scanPlayers]
    cases hack : p.ackRecieved with
    | true =>
      have hnot : ¬ Overdue p (now 0) := by simp [Overdue, hack]
      simp [resentPlayer, hnot, hplayers]
    | false =>
      by_cases hlate : resendInterval < p.timer.getElapsedTime (now 0).atElapsed
      · have hover : Overdue p (now 0) := ⟨hack, hlate⟩
        have hleft : ¬ maxRetries ≤ p.retries := fun hmax => hp ⟨hover, hmax⟩
        simp [resentPlayer, hover, hack, hlate, hleft, hplayers]
      · have hnot : ¬ Overdue p (now 0) := fun hover => hlate hover.2
        simp [resentPlayer, hnot, hlate, hplayers]

theorem keptSession_eq (session : MatchSession) (now : Nat → ClockReading) :
    keptSession session now = sessionLeft (session, now) := by
  unfold keptSession
  rw [sessionFate_eq]
  by_cases hgive : GivesUp session now
  · simp [sessionLeft, hgive]
  · by_cases hacked : AllAcked session
    · simp [sessionLeft, hgive, hacked]
    · have hnone : ∀ x ∈ withReadings now session.players, ¬ Exhausted x.1 x.2 := fun x hx he =>
        hgive ⟨x, hx, he⟩
      simp [sessionLeft, hgive, hacked, players_scanPlayers hnone]

theorem requeuedBySession_eq (session : MatchSession) (now : Nat → ClockReading) :
    requeuedBySession session now =
      if GivesUp session now then
        (session.players.filter fun p => p.ackRecieved).map fun p => (p.player, p.matchType)
      else [] := by
  unfold requeuedBySession
  rw [sessionFate_eq]
  by_cases hgive : GivesUp session now
  · simp [hgive]
  · by_cases hacked : AllAcked session
    · simp [hgive, hacked]
    · simp [hgive, hacked]

/-- The players a session returns to the queue of a type. -/
theorem returnedTo_eq (t : MatchType) (x : MatchSession × (Nat → ClockReading)) :
    ((requeuedBySession x.1 x.2).filter fun p => p.2 = t).map Prod.fst = returnedTo t x := by
  rw [requeuedBySession_eq, returnedTo]
  split_ifs
  · simp [List.filter_map, Function.comp_def, List.filter_filter, Bool.and_comm]
  · rfl

/-! ## One pass -/

/-- Each queue grows by the players that the sessions given up return to it. -/
theorem queueOf_processMatchSessionsACKS (s : MatchmakingServer)
    (now : Nat → Nat → ClockReading) (t : MatchType) :
    (s.processMatchSessionsACKS now).1.queueOf t
      = s.queueOf t ++ (withReadings now s.pendingSessions).flatMap (returnedTo t) := by
  have hqueue := queueOf_pushAll s ((withReadings now s.pendingSessions).flatMap fun x =>
    requeuedBySession x.1 x.2) t
  have hreturned : ((((withReadings now s.pendingSessions).flatMap fun x =>
      requeuedBySession x.1 x.2).filter fun p => p.2 = t).map Prod.fst)
        = (withReadings now s.pendingSessions).flatMap (returnedTo t) := by
    rw [List.filter_flatMap, List.map_flatMap]
    exact List.flatMap_congr fun x _ => returnedTo_eq t x
  rw [hreturned] at hqueue
  rw [processMatchSessionsACKS_eq, ← hqueue]
  cases t <;> rfl

/-- **What a pass does to the sessions**: those in which all have acknowledged and those
it gives up are removed, and every other one is kept in its place. -/
theorem pendingSessions_processMatchSessionsACKS (s : MatchmakingServer)
    (now : Nat → Nat → ClockReading) :
    (s.processMatchSessionsACKS now).1.pendingSessions
      = (withReadings now s.pendingSessions).filterMap sessionLeft := by
  rw [processMatchSessionsACKS_eq]
  exact List.filterMap_congr fun x _ => keptSession_eq x.1 x.2

/-- **What a pass sends**, session by session. -/
theorem sent_processMatchSessionsACKS (s : MatchmakingServer) (now : Nat → Nat → ClockReading) :
    (s.processMatchSessionsACKS now).2
      = (withReadings now s.pendingSessions).flatMap sessionSent := by
  rw [processMatchSessionsACKS_eq]
  exact List.flatMap_congr fun x _ => sent_scanPlayers x.2 x.1.players

/-! ## Where a pending session comes from -/

/-- The sessions that can be pending after a step. -/
inductive Comes (s : MatchmakingServer) : Step → MatchSession → Prop
  | same {l : Step} {session : MatchSession} (h : session ∈ s.pendingSessions) : Comes s l session
  | acked {now : Nat → Micros} {job : RawPacketJob} {session : MatchSession}
      (h : session ∈ s.pendingSessions) : Comes s (.handle now job) (ackSession job session)
  | created {now : Nat → Micros} {job : RawPacketJob} {data : StartMatchData}
      (h : data ∈ confirmedBy s (.handle now job)) :
      Comes s (.handle now job) ⟨sessionPlayers data now data.players⟩
  | resent {now : Nat → Nat → ClockReading} {x : MatchSession × (Nat → ClockReading)}
      (hx : x ∈ withReadings now s.pendingSessions) (hacked : ¬ AllAcked x.1)
      (hgive : ¬ GivesUp x.1 x.2) :
      Comes s (.processMatchSessionsACKS now) ⟨(withReadings x.2 x.1.players).map resentPlayer⟩

theorem comes_of_step {s s' : MatchmakingServer} {l : Step} {out : List Datagram}
    (h : s.step l = .ok (s', out)) {session : MatchSession} (hs : session ∈ s'.pendingSessions) :
    Comes s l session := by
  cases effect_of_step h with
  | ignored => exact .same hs
  | searched t => exact .same (by simpa using hs)
  | cancelled => exact .same hs
  | acked =>
    obtain ⟨session, hold, rfl⟩ := List.mem_map.1 hs
    exact .acked hold
  | confirmed before c after htype hcs hnamed hbefore =>
    rcases List.mem_append.1 hs with hold | hnew
    · exact .same hold
    · rw [List.mem_singleton.1 hnew]
      exact .created (by simp [confirmedBy, htype, namedCreation_eq hcs hnamed hbefore])
  | rekeyed => exact .same hs
  | paired t now =>
    obtain ⟨-, -, -, hss, -⟩ := exists_formed s t now
    exact .same (hss ▸ hs)
  | retried now =>
    rw [processMatchCreations_eq] at hs
    exact .same (by simpa using hs)
  | resent now =>
    rw [pendingSessions_processMatchSessionsACKS] at hs
    obtain ⟨x, hx, hleft⟩ := List.mem_filterMap.1 hs
    unfold sessionLeft at hleft
    split_ifs at hleft with hremoved
    rw [not_or] at hremoved
    cases hleft
    exact .resent hx hremoved.1 hremoved.2

/-- A rule for what holds of all the players of the pending sessions: it holds of new
ones, and neither an acknowledgement nor a resend takes it away. -/
theorem forall_players_run {P : PendingMatch → Prop}
    (hnew : ∀ (data : StartMatchData) (now : Nat → Micros),
      ∀ p ∈ sessionPlayers data now data.players, P p)
    (hack : ∀ p, P p → P { p with ackRecieved := true })
    (hresend : ∀ p r, P p → Overdue p r → ¬ Exhausted p r →
      P { p with timer := ⟨r.atRestart⟩, retries := p.retries + 1 })
    {s : MatchmakingServer} (hr : machine.Reachable initial s) :
    ∀ session ∈ s.pendingSessions, ∀ p ∈ session.players, P p := by
  obtain ⟨h, hr⟩ := hr
  refine hr.invariant (P := fun s => ∀ session ∈ s.pendingSessions, ∀ p ∈ session.players, P p)
    (by simp [initial]) ?_
  intro s l s' out hs hstep session hsession p hp
  cases comes_of_step hstep hsession with
  | same hold => exact hs _ hold p hp
  | acked hold =>
    obtain ⟨q, hq, rfl⟩ := List.mem_map.1 hp
    unfold ackPlayer
    split_ifs
    · exact hack q (hs _ hold q hq)
    · exact hs _ hold q hq
  | created => exact hnew _ _ p hp
  | @resent now x hx hacked hgive =>
    obtain ⟨y, hy, rfl⟩ := List.mem_map.1 hp
    have hold := hs x.1 (mem_of_mem_withReadings hx) y.1 (mem_of_mem_withReadings hy)
    unfold resentPlayer
    split_ifs with hover
    · exact hresend y.1 y.2 hold hover fun he => hgive ⟨y, hy, he⟩
    · exact hold

theorem retries_sessionPlayers {data : StartMatchData} {now : Nat → Micros}
    {ps : List ClientMatchInfo} {p : PendingMatch} (hp : p ∈ sessionPlayers data now ps) :
    p.retries = 0 := by
  induction ps generalizing now with
  | nil => simp [sessionPlayers] at hp
  | cons q ps ih =>
    rcases List.mem_cons.1 hp with rfl | hp
    · rfl
    · exact ih hp

/-- **Retries stay within bounds.** -/
theorem retries_bounds {s : MatchmakingServer} (hr : machine.Reachable initial s) :
    ∀ session ∈ s.pendingSessions, ∀ p ∈ session.players,
      0 ≤ p.retries ∧ p.retries ≤ maxRetries := by
  refine forall_players_run (P := fun p => 0 ≤ p.retries ∧ p.retries ≤ maxRetries) ?_ ?_ ?_ hr
  · intro data now p hp
    rw [retries_sessionPlayers hp]
    decide
  · exact fun p hp => hp
  · intro p r hp hover hexhausted
    have hless : p.retries < maxRetries := by
      by_contra hmax
      exact hexhausted ⟨hover, not_lt.1 hmax⟩
    show 0 ≤ p.retries + 1 ∧ p.retries + 1 ≤ maxRetries
    omega

/-- **A pass treats every session once.**  Take the sessions present at entry, in order,
each with the readings taken for its players:
* one in which all have acknowledged is removed and returns nobody; one in which a
  player is exhausted is removed and returns those that have acknowledged, in order, to
  the queue of their match type; every other one is kept, in order, and of its players
  just the overdue ones are told once, with one retry more and a restarted timer;
* what is sent are the messages of the overdue players, session by session, each to its
  player; of a session that is given up only those before the first exhausted player;
* nothing else changes.

In every state the service can reach, retries are between `0` and the maximum. -/
theorem acks_pass (s : MatchmakingServer) (now : Nat → Nat → ClockReading) :
    let sessions := withReadings now s.pendingSessions
    let s' := (s.processMatchSessionsACKS now).1
    s'.pendingSessions = sessions.filterMap sessionLeft ∧
      (∀ t, s'.queueOf t = s.queueOf t ++ sessions.flatMap (returnedTo t)) ∧
      (∀ x ∈ sessions, AllAcked x.1 → ¬ GivesUp x.1 x.2) ∧
      ((s.processMatchSessionsACKS now).2 = sessions.flatMap sessionSent ∧
        ∀ x ∈ sessions, (¬ GivesUp x.1 x.2 →
            sessionSent x = (withReadings x.2 x.1.players).flatMap resentTo) ∧
          sessionSent x <+: (withReadings x.2 x.1.players).flatMap resentTo) ∧
      (s'.pendingMatchCreations = s.pendingMatchCreations ∧ s'.lastMatchID = s.lastMatchID ∧
        s'.playersPerMatch = s.playersPerMatch) ∧
      (machine.Reachable initial s → ∀ session ∈ s.pendingSessions, ∀ p ∈ session.players,
        0 ≤ p.retries ∧ p.retries ≤ maxRetries) := by
  intro sessions s'
  refine ⟨pendingSessions_processMatchSessionsACKS s now, queueOf_processMatchSessionsACKS s now,
    fun x _ hacked => not_givesUp_of_allAcked hacked,
    ⟨sent_processMatchSessionsACKS s now,
      fun x _ => ⟨sessionSent_eq, sessionSent_prefix_resent x⟩⟩, ?_,
    retries_bounds⟩
  have hs' : s' = (s.processMatchSessionsACKS now).1 := rfl
  rw [hs', processMatchSessionsACKS_eq]
  simp

/-- The players at `10.0.0.1` and `10.0.0.2` are paired and told of their match, the
second one so much later. -/
def twoTold (delay : Micros) : List Step :=
  twoPaired ++ [.handle (fun i => delay * i)
    (jobOf .matchUnique (decimal 1) (gameServerIP, gameServerPort))]

/-- Two players are told of their match: the service can reach that state. -/
theorem acks_pass_told : ∃ s, machine.Reachable initial s ∧ s.pendingSessions ≠ [] ∧
    ∀ session ∈ s.pendingSessions, ∀ p ∈ session.players,
      0 ≤ p.retries ∧ p.retries ≤ maxRetries := by
  obtain ⟨h, s, hr, hne⟩ := Machine.exists_run_of_exec (M := machine) (s := initial)
    (l := twoTold 0) (P := fun _ s => s.pendingSessions ≠ []) (by decide +kernel)
  obtain ⟨-, -, -, -, -, hretries⟩ := acks_pass s fun _ _ => ⟨0, 0⟩
  exact ⟨s, ⟨h, hr⟩, hne, hretries ⟨h, hr⟩⟩

/-! ## Who is dropped -/

/-- The player has used up its own retry window. -/
def UsedUp (p : PendingMatch) (r : ClockReading) : Prop :=
  p.ackRecieved = false ∧ p.retries = maxRetries ∧
    resendInterval < p.timer.getElapsedTime r.atElapsed

instance (p : PendingMatch) (r : ClockReading) : Decidable (UsedUp p r) :=
  inferInstanceAs (Decidable (_ ∧ _ ∧ _))

/-- The players of the sessions a pass gives up, each with its reading. -/
def givenUpPlayers (sessions : List (MatchSession × (Nat → ClockReading))) :
    List (PendingMatch × ClockReading) :=
  (sessions.filter fun x => GivesUp x.1 x.2).flatMap fun x => withReadings x.2 x.1.players

/-- Those of them that have not used up their window, of one match type. -/
def responsivePlayers (sessions : List (MatchSession × (Nat → ClockReading))) (u : MatchType) :
    List ClientMatchInfo :=
  ((givenUpPlayers sessions).filter fun y => ¬ UsedUp y.1 y.2 ∧ y.1.matchType = u).map
    fun y => y.1.player

/-- **Only unresponsive players are dropped**: when sessions are given up, each of their
players that has not used up its window joins the queue of its match type once, and
nobody else joins. -/
def DropsOnlyUnresponsive (t : Transition MatchmakingServer Step (List Datagram)) : Prop :=
  match t.label with
  | .processMatchSessionsACKS now =>
    ∀ u, (t.post.queueOf u).Perm
      (t.pre.queueOf u ++ responsivePlayers (withReadings now t.pre.pendingSessions) u)
  | _ => True

/-- No player lags behind the one for which its session is given up: each has
acknowledged or is exhausted too. -/
def NobodyLags (s : MatchmakingServer) : Step → Prop
  | .processMatchSessionsACKS now =>
    ∀ y ∈ givenUpPlayers (withReadings now s.pendingSessions), y.1.ackRecieved = false →
      Exhausted y.1 y.2
  | _ => True

instance (s : MatchmakingServer) : DecidablePred s.NobodyLags
  | .processMatchSessionsACKS _ => inferInstanceAs (Decidable (∀ y ∈ _, _ → _))
  | .handle .. => isTrue trivial
  | .processMatchmaking .. => isTrue trivial
  | .processMatchCreations _ => isTrue trivial

theorem mem_givenUpPlayers {sessions : List (MatchSession × (Nat → ClockReading))}
    {y : PendingMatch × ClockReading} :
    y ∈ givenUpPlayers sessions ↔
      ∃ x ∈ sessions, GivesUp x.1 x.2 ∧ y ∈ withReadings x.2 x.1.players := by
  simp [givenUpPlayers, and_assoc]

/-- What a pass returns to a queue, player by player. -/
theorem flatMap_returnedTo (sessions : List (MatchSession × (Nat → ClockReading)))
    (u : MatchType) :
    sessions.flatMap (returnedTo u) =
      ((givenUpPlayers sessions).filter fun y => y.1.ackRecieved && y.1.matchType = u).map
        fun y => y.1.player := by
  have hone : ∀ x : MatchSession × (Nat → ClockReading),
      (x.1.players.filter fun p => p.ackRecieved && p.matchType = u).map (·.player)
        = ((withReadings x.2 x.1.players).filter fun y =>
            y.1.ackRecieved && y.1.matchType = u).map fun y => y.1.player := by
    intro x
    conv_lhs => rw [← map_fst_withReadings x.2 x.1.players, List.filter_map, List.map_map]
    rfl
  induction sessions with
  | nil => rfl
  | cons x sessions ih =>
    rw [List.flatMap_cons, ih, returnedTo, hone]
    by_cases hgive : GivesUp x.1 x.2
    · simp [hgive, givenUpPlayers]
    · simp [hgive, givenUpPlayers]

/-- Of two choices from a list, one within the other, the images are the same up to order
only if the choices are. -/
theorem perm_map_filter_iff {α β : Type} {f : α → β} {l : List α} {p q : α → Bool}
    (hsub : ∀ a ∈ l, p a = true → q a = true) :
    ((l.filter p).map f).Perm ((l.filter q).map f) ↔ ∀ a ∈ l, q a = true → p a = true := by
  have hinner : (l.filter q).filter p = l.filter p := by
    rw [List.filter_filter]
    refine List.filter_congr fun a ha => ?_
    cases hp : p a with
    | false => rfl
    | true => rw [hsub a ha hp, Bool.true_and]
  constructor
  · intro hperm a ha hq
    have hlen := hperm.length_eq
    rw [List.length_map, List.length_map, ← hinner] at hlen
    have hmem : a ∈ l.filter q := List.mem_filter.2 ⟨ha, hq⟩
    rw [← (List.filter_sublist (p := p)).eq_of_length hlen] at hmem
    exact (List.mem_filter.1 hmem).2
  · intro hall
    have hsame : l.filter q = l.filter p :=
      List.filter_congr fun a ha => Bool.eq_iff_iff.2 ⟨hall a ha, hsub a ha⟩
    rw [hsame]

/-- Who is exhausted has used up its window, and no more. -/
theorem usedUp_iff_exhausted {p : PendingMatch} {r : ClockReading} (hmax : p.retries ≤ maxRetries) :
    UsedUp p r ↔ Exhausted p r := by
  constructor
  · exact fun h => ⟨⟨h.1, h.2.2⟩, h.2.1.ge⟩
  · exact fun h => ⟨h.1.1, le_antisymm hmax h.2, h.1.2⟩

/-- A pass drops only unresponsive players exactly if nobody lags. -/
theorem dropsOnlyUnresponsive_iff {t : Transition MatchmakingServer Step (List Datagram)}
    (hbounds : ∀ session ∈ t.pre.pendingSessions, ∀ p ∈ session.players, p.retries ≤ maxRetries)
    (hstep : t.pre.step t.label = .ok (t.post, t.out)) :
    DropsOnlyUnresponsive t ↔ NobodyLags t.pre t.label := by
  obtain ⟨s, l, out, s'⟩ := t
  cases l with
  | handle => exact Iff.rfl
  | processMatchmaking => exact Iff.rfl
  | processMatchCreations => exact Iff.rfl
  | processMatchSessionsACKS now =>
    obtain rfl : (s.processMatchSessionsACKS now).1 = s' := by
      simp only [step, Except.ok.injEq] at hstep
      rw [hstep]
    let players := givenUpPlayers (withReadings now s.pendingSessions)
    have hsame : ∀ y ∈ players, UsedUp y.1 y.2 ↔ Exhausted y.1 y.2 := by
      intro y hy
      obtain ⟨x, hx, -, hy⟩ := mem_givenUpPlayers.1 hy
      exact usedUp_iff_exhausted
        (hbounds x.1 (mem_of_mem_withReadings hx) y.1 (mem_of_mem_withReadings hy))
    -- who has acknowledged has not used up its window
    have hsub : ∀ u, ∀ y ∈ players, (y.1.ackRecieved && y.1.matchType = u) = true →
        decide (¬ UsedUp y.1 y.2 ∧ y.1.matchType = u) = true := by
      intro u y _ hack
      simp only [Bool.and_eq_true, decide_eq_true_eq] at hack ⊢
      refine ⟨fun hused => ?_, hack.2⟩
      rw [hused.1] at hack
      exact Bool.false_ne_true hack.1
    show (∀ u, ((s.processMatchSessionsACKS now).1.queueOf u).Perm
      (s.queueOf u ++ responsivePlayers (withReadings now s.pendingSessions) u)) ↔ _
    simp only [queueOf_processMatchSessionsACKS, flatMap_returnedTo, List.perm_append_left_iff]
    refine (forall_congr' fun u => perm_map_filter_iff (hsub u)).trans ?_
    constructor
    · intro hall y hy hack
      by_contra hnot
      have hacked := hall y.1.matchType y hy (by
        rw [decide_eq_true_eq, hsame y hy]
        exact ⟨hnot, rfl⟩)
      rw [hack] at hacked
      cases hacked
    · intro hlags u y hy hresponsive
      rw [decide_eq_true_eq, hsame y hy] at hresponsive
      cases hack : y.1.ackRecieved with
      | false => exact absurd (hlags y hy hack) hresponsive.1
      | true => simpa using hresponsive.2

/-- **Only unresponsive players are dropped exactly in the runs in which nobody lags.**
For every run: each pass in it drops only unresponsive players if and only if, whenever a
pass gives a session up, no player of that session lags. -/
theorem unresponsive_dropped_iff {h : List (Transition MatchmakingServer Step (List Datagram))}
    {s : MatchmakingServer} (hr : Run h s) :
    (∀ t ∈ h, DropsOnlyUnresponsive t) ↔ ∀ t ∈ h, NobodyLags t.pre t.label := by
  have hone : ∀ t ∈ h, DropsOnlyUnresponsive t ↔ NobodyLags t.pre t.label := by
    intro t ht
    obtain ⟨h₁, h₂, rfl⟩ := List.append_of_mem ht
    obtain ⟨hr₁, hstep, -⟩ := hr.mem_split
    refine dropsOnlyUnresponsive_iff ?_ hstep
    intro session hsession p hp
    exact (retries_bounds ⟨h₁, hr₁⟩ session hsession p hp).2
  exact forall₂_congr hone

/-- Six passes over the sessions, each little more than a second after the last. -/
def sixPasses : List Step := (List.range 6).map fun k =>
  .processMatchSessionsACKS fun _ _ => ⟨1000001 * (k + 1), 1000001 * (k + 1)⟩

/-- The first player acknowledges and the second does not: when the session is given up,
the first is back in its queue. -/
theorem unresponsive_dropped_iff_acked : ∃ h s, Run h s ∧
    s.normalQueue.map ClientMatchInfo.endpoint = [(⟨10, 0, 0, 1⟩, 5000)] ∧
    ∀ t ∈ h, DropsOnlyUnresponsive t := by
  obtain ⟨h, s, hr, hp⟩ := Machine.exists_run_of_exec (M := machine) (s := initial)
    (l := twoTold 0 ++ [.handle (fun _ => 0) (jobOf .ackMatchFound [] (⟨10, 0, 0, 1⟩, 5000))] ++
      sixPasses)
    (P := fun h s => s.normalQueue.map ClientMatchInfo.endpoint = [(⟨10, 0, 0, 1⟩, 5000)] ∧
      ∀ t ∈ h, NobodyLags t.pre t.label) (by decide +kernel)
  exact ⟨h, s, hr, hp.1, (unresponsive_dropped_iff hr).2 hp.2⟩

/-- **A player is dropped with a retry left**: the second player is told a microsecond
after the first, misses the first pass by it, and is a retry behind when the first one
is given up.  It has not acknowledged, so it is not returned. -/
theorem lagging_dropped : ∃ h s, Run h s ∧ s.pendingSessions = [] ∧ s.normalQueue = [] ∧
    s.rankedQueue = [] ∧ ∃ t ∈ h, (∃ session ∈ t.pre.pendingSessions, ∃ p ∈ session.players,
      p.retries = 4 ∧ p.retries < maxRetries) ∧ ¬ DropsOnlyUnresponsive t := by
  obtain ⟨h, s, hr, hp⟩ := Machine.exists_run_of_exec (M := machine) (s := initial)
    (l := twoTold 1 ++ sixPasses)
    (P := fun h s => s.pendingSessions = [] ∧ s.normalQueue = [] ∧ s.rankedQueue = [] ∧
      ∃ t ∈ h, (∃ session ∈ t.pre.pendingSessions, ∃ p ∈ session.players,
          p.retries = 4 ∧ p.retries < maxRetries) ∧ ¬ NobodyLags t.pre t.label)
    (by decide +kernel)
  obtain ⟨hss, hnormal, hranked, t, ht, hp, hlags⟩ := hp
  refine ⟨h, s, hr, hss, hnormal, hranked, t, ht, hp, ?_⟩
  obtain ⟨h₁, h₂, rfl⟩ := List.append_of_mem ht
  obtain ⟨hr₁, hstep, -⟩ := hr.mem_split
  rw [dropsOnlyUnresponsive_iff (fun session hsession p hp =>
    (retries_bounds ⟨h₁, hr₁⟩ session hsession p hp).2) hstep]
  exact hlags

/-! ## When nobody lags -/

/-- The players of a session that have not acknowledged are overdue together. -/
def InStep (s : MatchmakingServer) : Step → Prop
  | .processMatchSessionsACKS now =>
    ∀ x ∈ withReadings now s.pendingSessions, ∀ y ∈ withReadings x.2 x.1.players,
      ∀ z ∈ withReadings x.2 x.1.players, z.1.ackRecieved = false → Overdue y.1 y.2 →
        Overdue z.1 z.2
  | _ => True

/-- The players of a session that have not acknowledged were told equally often. -/
def EvenRetries (s : MatchmakingServer) : Prop :=
  ∀ session ∈ s.pendingSessions, ∀ p ∈ session.players, ∀ q ∈ session.players,
    p.ackRecieved = false → q.ackRecieved = false → p.retries = q.retries

theorem evenRetries_step {s s' : MatchmakingServer} {l : Step} {out : List Datagram}
    (hs : s.EvenRetries) (hl : s.InStep l) (h : s.step l = .ok (s', out)) : s'.EvenRetries := by
  intro session hsession p hp q hq hpack hqack
  cases comes_of_step h hsession with
  | same hold => exact hs _ hold p hp q hq hpack hqack
  | @acked now job old hold =>
    -- an acknowledgement leaves those that have none as they are
    have hsame : ∀ r ∈ (ackSession job old).players, r.ackRecieved = false → r ∈ old.players := by
      intro r hr hrack
      obtain ⟨r', hr', rfl⟩ := List.mem_map.1 hr
      unfold ackPlayer at hrack ⊢
      split_ifs at hrack ⊢
      exact hr'
    exact hs _ hold p (hsame p hp hpack) q (hsame q hq hqack) hpack hqack
  | created data => rw [retries_sessionPlayers hp, retries_sessionPlayers hq]
  | @resent now x hx hacked hgive =>
    obtain ⟨y, hy, rfl⟩ := List.mem_map.1 hp
    obtain ⟨z, hz, rfl⟩ := List.mem_map.1 hq
    have hack : ∀ w, (resentPlayer w).ackRecieved = w.1.ackRecieved := by
      intro w
      unfold resentPlayer
      split_ifs <;> rfl
    rw [hack] at hpack hqack
    have heven := hs x.1 (mem_of_mem_withReadings hx) y.1 (mem_of_mem_withReadings hy) z.1
      (mem_of_mem_withReadings hz) hpack hqack
    have htogether : Overdue y.1 y.2 ↔ Overdue z.1 z.2 :=
      ⟨hl x hx y hy z hz hqack, hl x hx z hz y hy hpack⟩
    unfold resentPlayer
    by_cases hover : Overdue y.1 y.2
    · rw [if_pos hover, if_pos (htogether.1 hover), heven]
    · rw [if_neg hover, if_neg fun hz => hover (htogether.2 hz), heven]

/-- **Nobody lags as long as the players of each session stay in step.** -/
theorem nobodyLags_of_inStep {h : List (Transition MatchmakingServer Step (List Datagram))}
    {s : MatchmakingServer} (hr : Run h s) (hstep : ∀ t ∈ h, InStep t.pre t.label) :
    ∀ t ∈ h, NobodyLags t.pre t.label := by
  obtain ⟨-, heven⟩ := hr.invariant_of_mem (P := EvenRetries) (R := InStep)
    (by simp [EvenRetries, initial]) (fun _ _ _ _ => evenRetries_step) hstep
  intro t ht
  have hl := hstep t ht
  obtain ⟨pre, l, out, post⟩ := t
  cases l with
  | handle => trivial
  | processMatchmaking => trivial
  | processMatchCreations => trivial
  | processMatchSessionsACKS now =>
    intro y hy hack
    obtain ⟨x, hx, ⟨z, hz, hexhausted⟩, hy⟩ := mem_givenUpPlayers.1 hy
    have hsame := heven _ ht x.1 (mem_of_mem_withReadings hx) z.1 (mem_of_mem_withReadings hz) y.1
      (mem_of_mem_withReadings hy) hexhausted.1.1 hack
    exact ⟨hl x hx z hz y hy hack hexhausted.1, hsame ▸ hexhausted.2⟩

end MatchmakingServer

end ServiceServer
