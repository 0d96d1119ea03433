import ServiceServer.Matchmaking.Cancel
import ServiceServer.Matchmaking.Retransmission
import ServiceServer.Matchmaking.Sessions
import Mathlib.Tactic.Linarith

/-!
# How long a session lasts

A session ends when all of its players have acknowledged, or when one of them is overdue
for the sixth time.  Passes come often, and most of them find nobody overdue: what ends
the session is not their number.

* `player_step` — what one step does to a player of a pending session.
* `onTime_step` — a session that stays pending was on time at the last pass.
* `session_expires` — if the passes keep coming, every session ends within a time that
  depends on how far they are apart, and on nothing its players do.
-/

namespace ServiceServer

open Lib

namespace MatchmakingServer

/-! ## One step -/

/-- The reading with which a step finds the `k`-th player of the `i`-th session overdue. -/
def toldAt (s : MatchmakingServer) (l : Step) (i k : Nat) : Option ClockReading :=
  match l with
  | .processMatchSessionsACKS now =>
    match s.pendingSessions[i]?.bind fun session => session.players[k]? with
    | none => none
    | some p => if Overdue p (now i k) then some (now i k) else none
  | _ => none

/-- What a step can make of a player of a session that stays pending. -/
inductive PlayerStep (p : PendingMatch) : Option ClockReading → PendingMatch → Prop
  | kept : PlayerStep p none p
  | acked : PlayerStep p none { p with ackRecieved := true }
  | told {r : ClockReading} (hover : Overdue p r) (hleft : p.retries < maxRetries) :
      PlayerStep p (some r) { p with timer := ⟨r.atRestart⟩, retries := p.retries + 1 }

theorem toldAt_pass {s : MatchmakingServer} {now : Nat → Nat → ClockReading} {i k : Nat}
    {session : MatchSession} {p : PendingMatch} (hi : s.pendingSessions[i]? = some session)
    (hk : session.players[k]? = some p) :
    toldAt s (.processMatchSessionsACKS now) i k
      = if Overdue p (now i k) then some (now i k) else none := by
  simp [toldAt, hi, hk]

/-- A session that a pass keeps is one in which somebody has not acknowledged and nobody is
exhausted. -/
theorem follow_pass {s : MatchmakingServer} {now : Nat → Nat → ClockReading} {i j : Nat}
    {session : MatchSession} (hi : s.pendingSessions[i]? = some session)
    (hj : s.follow (.processMatchSessionsACKS now) i = some j) :
    ¬ AllAcked session ∧ ¬ GivesUp session (now i) ∧
      (s.processMatchSessionsACKS now).1.pendingSessions[j]?
        = some ⟨(withReadings (now i) session.players).map resentPlayer⟩ := by
  simp only [follow, getElem?_withReadings now hi, Option.map_eq_some_iff] at hj
  obtain ⟨session', hkept, rfl⟩ := hj
  have hstands := getElem?_filterMap_take
    (fun x : MatchSession × (Nat → ClockReading) => keptSession x.1 x.2)
    (getElem?_withReadings now hi) hkept
  have hleft := hkept
  rw [keptSession_eq, sessionLeft] at hleft
  split_ifs at hleft with hremoved
  rw [not_or] at hremoved
  cases hleft
  refine ⟨hremoved.1, hremoved.2, ?_⟩
  rw [processMatchSessionsACKS_eq]
  exact hstands

/-- A pass tells an overdue player of a session it keeps once more. -/
theorem playerStep_resent {p : PendingMatch} {r : ClockReading} (hleft : ¬ Exhausted p r) :
    PlayerStep p (if Overdue p r then some r else none) (resentPlayer (p, r)) := by
  unfold resentPlayer
  by_cases hover : Overdue p r
  · rw [if_pos hover, if_pos hover]
    refine .told hover ?_
    by_contra hmax
    exact hleft ⟨hover, not_lt.1 hmax⟩
  · rw [if_neg hover, if_neg hover]
    exact .kept

theorem ackRecieved_resentPlayer (x : PendingMatch × ClockReading) :
    (resentPlayer x).ackRecieved = x.1.ackRecieved := by
  unfold resentPlayer
  split_ifs <;> rfl

/-- **What a step does to the players of a session that stays pending**: it keeps their
number and their places. -/
theorem player_step {s s' : MatchmakingServer} {l : Step} {out : List Datagram}
    (h : s.step l = .ok (s', out)) {i j : Nat} {session : MatchSession}
    (hi : s.pendingSessions[i]? = some session) (hj : s.follow l i = some j) :
    ∃ session', s'.pendingSessions[j]? = some session' ∧
      session'.players.length = session.players.length ∧
      ∀ k p, session.players[k]? = some p →
        ∃ p', session'.players[k]? = some p' ∧ PlayerStep p (toldAt s l i k) p' := by
  -- a step that does not touch the session
  have hsame : (∀ k, toldAt s l i k = none) → s'.pendingSessions[j]? = some session →
      ∃ session', s'.pendingSessions[j]? = some session' ∧
        session'.players.length = session.players.length ∧
        ∀ k p, session.players[k]? = some p →
          ∃ p', session'.players[k]? = some p' ∧ PlayerStep p (toldAt s l i k) p' := by
    intro htold hs
    refine ⟨session, hs, rfl, fun k p hp => ⟨p, hp, ?_⟩⟩
    rw [htold k]
    exact .kept
  cases effect_of_step h with
  | resent now =>
    obtain ⟨-, hgive, hstands⟩ := follow_pass hi hj
    refine ⟨_, hstands, ?_, ?_⟩
    · show ((withReadings (now i) session.players).map resentPlayer).length = _
      rw [List.length_map, ← List.length_map (f := Prod.fst), map_fst_withReadings]
    · intro k p hp
      have hreading := getElem?_withReadings (now i) hp
      refine ⟨resentPlayer (p, now i k), ?_, ?_⟩
      · show ((withReadings (now i) session.players).map resentPlayer)[k]? = _
        rw [List.getElem?_map, hreading]
        rfl
      · rw [toldAt_pass hi hp]
        exact playerStep_resent fun he => hgive ⟨_, List.mem_of_getElem? hreading, he⟩
  | @acked now job htype =>
    cases hj
    refine ⟨ackSession job session, by simp [hi], by simp [ackSession], ?_⟩
    intro k p hp
    refine ⟨ackPlayer job p, by simp [ackSession, hp], ?_⟩
    unfold ackPlayer
    split_ifs
    · exact .acked
    · exact .kept
  | confirmed before c after =>
    cases hj
    refine hsame (fun _ => rfl) ?_
    obtain ⟨hlt, -⟩ := List.getElem?_eq_some_iff.1 hi
    simpa [List.getElem?_append_left hlt] using hi
  | paired t now =>
    cases hj
    obtain ⟨new, -, -, hsess, -⟩ := exists_formed s t now
    exact hsame (fun _ => rfl) (by rw [hsess, hi])
  | retried now =>
    cases hj
    exact hsame (fun _ => rfl) (by simpa [processMatchCreations_eq] using hi)
  | searched t => cases hj; exact hsame (fun _ => rfl) (by simpa using hi)
  | ignored => cases hj; exact hsame (fun _ => rfl) hi
  | cancelled => cases hj; exact hsame (fun _ => rfl) hi
  | rekeyed => cases hj; exact hsame (fun _ => rfl) hi

theorem PlayerStep.retries_le {p p' : PendingMatch} {r : Option ClockReading}
    (h : PlayerStep p r p') (hp : p.retries ≤ maxRetries) : p'.retries ≤ maxRetries := by
  cases h with
  | kept => exact hp
  | acked => exact hp
  | told hover hleft => exact hleft

/-! ## Over a run -/

theorem followRun_concat (h : List (Transition MatchmakingServer Step (List Datagram)))
    (t : Transition MatchmakingServer Step (List Datagram)) (i : Nat) :
    followRun (h ++ [t]) i = (followRun h i).bind (t.pre.follow t.label) := by
  rw [followRun, List.foldl_append]
  rfl

/-- A session that is gone after a part of a run stays gone. -/
theorem followRun_append (h h' : List (Transition MatchmakingServer Step (List Datagram)))
    (i : Nat) : followRun (h ++ h') i = (followRun h i).bind (followRun h') := by
  induction h' using List.reverseRecOn with
  | nil =>
    rw [List.append_nil]
    cases followRun h i <;> rfl
  | append_singleton h' t ih =>
    rw [← List.append_assoc, followRun_concat, ih, Option.bind_assoc]
    exact congrArg _ (funext fun j => (followRun_concat h' t j).symm)

theorem getElem?_createMatchSession (s : MatchmakingServer) (now : Nat → Micros)
    (data : StartMatchData) :
    (s.createMatchSession now data).1.pendingSessions[s.pendingSessions.length]?
      = some ⟨sessionPlayers data now data.players⟩ := by
  simp [createMatchSession]

/-! ## Time -/

/-- The readings a pass over the sessions takes, by session and player. -/
abbrev PassReadings := Nat → Nat → ClockReading

/-- The readings of a step, if it is such a pass. -/
def passReadings : Step → Option PassReadings
  | .processMatchSessionsACKS now => some now
  | _ => none

/-- The creation of a session reads the clock for each player once. -/
def createdAt (now₀ : Nat → Micros) : PassReadings := fun _ k => ⟨now₀ k, now₀ k⟩

/-- The readings of the last pass of a run, or those it started with. -/
def lastPass (start : PassReadings) (ls : List Step) : PassReadings :=
  ls.foldl (fun last l => (passReadings l).getD last) start

theorem lastPass_concat (start : PassReadings) (ls : List Step) (l : Step) :
    lastPass start (ls ++ [l]) = (passReadings l).getD (lastPass start ls) := by
  rw [lastPass, List.foldl_append]
  rfl

/-- Every reading of the second pass is taken at most `d` after each of the first. -/
def Within (d : Micros) (before after : PassReadings) : Prop :=
  ∀ i j i' j', (after i j).atRestart ≤ (before i' j').atElapsed + d

/-- A pass takes `d` at most, and comes at most `d` after the one before it. -/
structure Soon (d : Micros) (before after : PassReadings) : Prop where
  ordered : ∀ i j, (after i j).atElapsed ≤ (after i j).atRestart
  short : Within d after after
  next : Within d before after

/-- The passes keep coming. -/
def Paced (d : Micros) (start : PassReadings) (ls : List Step) : Prop :=
  Along (fun past l => ∀ now, passReadings l = some now → Soon d (lastPass start past) now) ls

/-- What a pending session is like after the last pass: no player's timer was started later
than its retries allow, and nobody who has not acknowledged has waited much longer than the
interval. -/
structure OnTime (d : Micros) (now₀ : Nat → Micros) (last : PassReadings)
    (session : MatchSession) : Prop where
  retries : ∀ p ∈ session.players, p.retries ≤ maxRetries
  timer : ∀ (k : Nat) (p : PendingMatch), session.players[k]? = some p →
    p.timer.startedAt ≤ now₀ k + p.retries * (resendInterval + 2 * d)
  waiting : ∀ (k : Nat) (p : PendingMatch), session.players[k]? = some p → p.ackRecieved = false →
    ∀ i j, (last i j).atElapsed ≤ p.timer.startedAt + resendInterval + d

/-- The last pass came before the session's time was up. -/
def InTime (d : Micros) (now₀ : Nat → Micros) (last : PassReadings) : Prop :=
  ∃ k, ∀ i j, (last i j).atElapsed ≤ now₀ k + 6 * (resendInterval + 2 * d)

theorem nonneg_of_short {d : Micros} {now : PassReadings}
    (hordered : ∀ i j, (now i j).atElapsed ≤ (now i j).atRestart) (hshort : Within d now now) :
    0 ≤ d := by
  have h₁ := hordered 0 0
  have h₂ := hshort 0 0 0 0
  linarith

/-- Someone who has not acknowledged bounds the time of the last pass. -/
theorem inTime_of_waiting {d : Micros} {now₀ : Nat → Micros} {last : PassReadings}
    {session : MatchSession} (hd : 0 ≤ d) (hon : OnTime d now₀ last session) {k : Nat}
    {p : PendingMatch} (hp : session.players[k]? = some p) (hack : p.ackRecieved = false) :
    InTime d now₀ last := by
  refine ⟨k, fun i j => ?_⟩
  have hretries := hon.retries p (List.mem_of_getElem? hp)
  have htimer := hon.timer k p hp
  have hwait := hon.waiting k p hp hack i j
  have hspan : (0 : Int) ≤ resendInterval + 2 * d := by
    have hpos : (0 : Int) ≤ resendInterval := by decide
    linarith
  have hfive : p.retries * (resendInterval + 2 * d) ≤ 5 * (resendInterval + 2 * d) :=
    mul_le_mul_of_nonneg_right hretries hspan
  linarith

/-- What a pass does to a player leaves its session on time. -/
theorem PlayerStep.onTime {d : Micros} {m : Micros} {last now : PassReadings}
    (hsoon : Soon d last now) {p p' : PendingMatch} {i k : Nat}
    (h : PlayerStep p (if Overdue p (now i k) then some (now i k) else none) p')
    (htimer : p.timer.startedAt ≤ m + p.retries * (resendInterval + 2 * d))
    (hwaiting : p.ackRecieved = false →
      ∀ i j, (last i j).atElapsed ≤ p.timer.startedAt + resendInterval + d) :
    p'.timer.startedAt ≤ m + p'.retries * (resendInterval + 2 * d) ∧
      (p'.ackRecieved = false →
        ∀ i j, (now i j).atElapsed ≤ p'.timer.startedAt + resendInterval + d) := by
  by_cases hover : Overdue p (now i k)
  · rw [if_pos hover] at h
    cases h with
    | told _ hleft =>
      constructor
      · -- the timer is restarted soon after the last pass
        have hlast := hwaiting hover.1 0 0
        have hnext := hsoon.next i k 0 0
        show (now i k).atRestart ≤ m + (p.retries + 1) * (resendInterval + 2 * d)
        rw [Int.add_mul, Int.one_mul]
        linarith
      · intro _ i' j'
        have hordered := hsoon.ordered i' j'
        have hshort := hsoon.short i' j' i k
        have hown := hsoon.ordered i k
        have hpos : (0 : Int) ≤ resendInterval := by decide
        show (now i' j').atElapsed ≤ (now i k).atRestart + resendInterval + d
        linarith
  · rw [if_neg hover] at h
    have hunder : p'.ackRecieved = false →
        ∀ i j, (now i j).atElapsed ≤ p.timer.startedAt + resendInterval + d := by
      intro hack i' j'
      have hpack : p.ackRecieved = false := by
        cases h with
        | kept => exact hack
        | acked => cases hack
      have hearly : (now i k).atElapsed - p.timer.startedAt ≤ resendInterval :=
        not_lt.1 fun hlate => hover ⟨hpack, hlate⟩
      have hordered := hsoon.ordered i' j'
      have hshort := hsoon.short i' j' i k
      linarith
    cases h with
    | kept => exact ⟨htimer, hunder⟩
    | acked => exact ⟨htimer, hunder⟩

/-- **One step of a session that stays pending**: it stays on time, and was so at the
last pass. -/
theorem onTime_step {d : Micros} {now₀ : Nat → Micros} {last : PassReadings} (hd : 0 ≤ d)
    {s s' : MatchmakingServer} {l : Step} {out : List Datagram} (h : s.step l = .ok (s', out))
    (hsoon : ∀ now, passReadings l = some now → Soon d last now) {i j : Nat}
    {session : MatchSession} (hi : s.pendingSessions[i]? = some session)
    (hj : s.follow l i = some j) (hon : OnTime d now₀ last session) (hin : InTime d now₀ last) :
    ∃ session', s'.pendingSessions[j]? = some session' ∧
      OnTime d now₀ ((passReadings l).getD last) session' ∧
      InTime d now₀ ((passReadings l).getD last) := by
  obtain ⟨session', hsession', hlen, hplayers⟩ := player_step h hi hj
  -- every player of the session was one before
  have hback : ∀ k p', session'.players[k]? = some p' →
      ∃ p, session.players[k]? = some p ∧ PlayerStep p (toldAt s l i k) p' := by
    intro k p' hp'
    have hk : k < session.players.length := hlen ▸ (List.getElem?_eq_some_iff.1 hp').1
    obtain ⟨p'', hp'', hstep⟩ := hplayers k _ (List.getElem?_eq_getElem hk)
    obtain rfl : p'' = p' := Option.some.inj (hp''.symm.trans hp')
    exact ⟨_, List.getElem?_eq_getElem hk, hstep⟩
  have hretries : ∀ p' ∈ session'.players, p'.retries ≤ maxRetries := by
    intro p' hp'
    obtain ⟨k, hk⟩ := List.mem_iff_getElem?.1 hp'
    obtain ⟨p, hp, hstep⟩ := hback k p' hk
    exact hstep.retries_le (hon.retries p (List.mem_of_getElem? hp))
  refine ⟨session', hsession', ?_⟩
  cases hl : passReadings l with
  | none =>
    have huntold : ∀ k, toldAt s l i k = none := by
      intro k
      cases l with
      | processMatchSessionsACKS => cases hl
      | handle => rfl
      | processMatchmaking => rfl
      | processMatchCreations => rfl
    refine ⟨⟨hretries, ?_, ?_⟩, hin⟩
    · intro k p' hp'
      obtain ⟨p, hp, hstep⟩ := hback k p' hp'
      have htimer := hon.timer k p hp
      rw [huntold k] at hstep
      cases hstep with
      | kept => exact htimer
      | acked => exact htimer
    · intro k p' hp' hack
      obtain ⟨p, hp, hstep⟩ := hback k p' hp'
      rw [huntold k] at hstep
      cases hstep with
      | kept => exact hon.waiting k _ hp hack
      | acked => cases hack
  | some now =>
    obtain rfl : l = .processMatchSessionsACKS now := by
      cases l with
      | processMatchSessionsACKS => cases hl; rfl
      | handle => cases hl
      | processMatchmaking => cases hl
      | processMatchCreations => cases hl
    have hnew : ∀ k p p', session.players[k]? = some p →
        PlayerStep p (toldAt s (.processMatchSessionsACKS now) i k) p' →
        p'.timer.startedAt ≤ now₀ k + p'.retries * (resendInterval + 2 * d) ∧
          (p'.ackRecieved = false →
            ∀ i j, (now i j).atElapsed ≤ p'.timer.startedAt + resendInterval + d) := by
      intro k p p' hp hstep
      rw [toldAt_pass hi hp] at hstep
      exact hstep.onTime (hsoon now rfl) (hon.timer k p hp) (hon.waiting k p hp)
    have hon' : OnTime d now₀ now session' := by
      refine ⟨hretries, ?_, ?_⟩
      · intro k p' hp'
        obtain ⟨p, hp, hstep⟩ := hback k p' hp'
        exact (hnew k p p' hp hstep).1
      · intro k p' hp'
        obtain ⟨p, hp, hstep⟩ := hback k p' hp'
        exact (hnew k p p' hp hstep).2
    refine ⟨hon', ?_⟩
    -- the pass kept the session, so somebody had not acknowledged
    obtain ⟨hacked, -, hstands⟩ := follow_pass hi hj
    obtain ⟨p, hp, hpack⟩ : ∃ p ∈ session.players, p.ackRecieved = false := by
      by_contra hnone
      refine hacked fun p hp => ?_
      by_contra hpack
      exact hnone ⟨p, hp, by simpa using hpack⟩
    obtain ⟨k, hk⟩ := List.mem_iff_getElem?.1 hp
    have hs' : (s.processMatchSessionsACKS now).1 = s' := by
      simp only [step, Except.ok.injEq] at h
      rw [h]
    rw [hs', hsession', Option.some.injEq] at hstands
    have hp' : session'.players[k]? = some (resentPlayer (p, now i k)) := by
      rw [hstands, List.getElem?_map, getElem?_withReadings (now i) hk]
      rfl
    refine inTime_of_waiting hd hon' hp' ?_
    rw [ackRecieved_resentPlayer, hpack]

/-- The same over a run. -/
theorem onTime_run {d : Micros} {now₀ : Nat → Micros} {start : PassReadings} (hd : 0 ≤ d)
    {s s' : MatchmakingServer} {h : List (Transition MatchmakingServer Step (List Datagram))}
    (hr : machine.Run s h s') (hpaced : Paced d start (h.map (·.label))) {i j : Nat}
    {session : MatchSession} (hi : s.pendingSessions[i]? = some session)
    (hon : OnTime d now₀ start session) (hin : InTime d now₀ start)
    (hj : followRun h i = some j) :
    ∃ session', s'.pendingSessions[j]? = some session' ∧
      OnTime d now₀ (lastPass start (h.map (·.label))) session' ∧
      InTime d now₀ (lastPass start (h.map (·.label))) := by
  induction hr generalizing j with
  | nil =>
    cases hj
    exact ⟨session, hi, hon, hin⟩
  | @snoc h r s' l out _ hs ih =>
    rw [List.map_append, List.map_singleton] at hpaced ⊢
    rw [followRun_concat, Option.bind_eq_some_iff] at hj
    obtain ⟨hpast, hsoon⟩ := along_concat_iff.1 hpaced
    obtain ⟨m, hm, hj⟩ := hj
    obtain ⟨session₁, h₁, hon₁, hin₁⟩ := ih hpast hm
    rw [lastPass_concat]
    exact onTime_step hd hs hsoon h₁ hj hon₁ hin₁

theorem timer_sessionPlayers {data : StartMatchData} {now : Nat → Micros}
    {ps : List ClientMatchInfo} {k : Nat} {p : PendingMatch}
    (hp : (sessionPlayers data now ps)[k]? = some p) : p.timer.startedAt = now k := by
  induction ps generalizing now k with
  | nil => cases hp
  | cons q ps ih =>
    cases k with
    | zero =>
      cases hp
      rfl
    | succ k =>
      have hlater : (sessionPlayers data (fun i => now (i + 1)) ps)[k]? = some p := hp
      have htimer := ih hlater
      exact htimer

/-- A session is on time when it is created. -/
theorem onTime_created {d : Micros} {now₀ : Nat → Micros} {data : StartMatchData}
    (hshort : Within d (createdAt now₀) (createdAt now₀)) :
    OnTime d now₀ (createdAt now₀) ⟨sessionPlayers data now₀ data.players⟩ := by
  refine ⟨?_, ?_, ?_⟩
  · intro p hp
    rw [retries_sessionPlayers hp]
    decide
  · intro k p hp
    rw [timer_sessionPlayers hp, retries_sessionPlayers (List.mem_of_getElem? hp), Int.zero_mul,
      Int.add_zero]
  · intro k p hp _ i j
    have hreading : now₀ j ≤ now₀ k + d := hshort 0 j 0 k
    have hpos : (0 : Int) ≤ resendInterval := by decide
    rw [timer_sessionPlayers hp]
    show now₀ j ≤ now₀ k + resendInterval + d
    linarith

theorem inTime_created {d : Micros} {now₀ : Nat → Micros}
    (hshort : Within d (createdAt now₀) (createdAt now₀)) : InTime d now₀ (createdAt now₀) := by
  refine ⟨0, fun i j => ?_⟩
  have hreading : now₀ j ≤ now₀ 0 + d := hshort 0 j 0 0
  have hd : 0 ≤ d := nonneg_of_short (fun _ _ => le_rfl) hshort
  have hpos : (0 : Int) ≤ resendInterval := by decide
  show now₀ j ≤ now₀ 0 + 6 * (resendInterval + 2 * d)
  linarith

/-- **Every session ends.**  Take a session from its creation on, whose readings lie within
`d` of each other, and any run in which the passes over the sessions take at most `d` each
and follow each other, and the first one the creation, within `d`.  Once a pass reads a clock
that is later than the creation by more than six times the resend interval and thirteen times
`d`, the session is gone, whatever its players, the other clients and the game server send. -/
theorem session_expires {d : Micros} {s₀ s : MatchmakingServer} {now₀ : Nat → Micros}
    {data : StartMatchData} {h : List (Transition MatchmakingServer Step (List Datagram))}
    (hr : machine.Run (s₀.createMatchSession now₀ data).1 h s)
    (hshort : Within d (createdAt now₀) (createdAt now₀))
    (hpaced : Paced d (createdAt now₀) (h.map (·.label)))
    {t : Transition MatchmakingServer Step (List Datagram)} (ht : t ∈ h) {now : PassReadings}
    (hpass : passReadings t.label = some now) {i j k : Nat}
    (hlate : now₀ k + 6 * resendInterval + 13 * d < (now i j).atElapsed) :
    followRun h s₀.pendingSessions.length = none := by
  obtain ⟨h₁, h₂, rfl⟩ := List.append_of_mem ht
  rw [List.append_cons] at hr hpaced ⊢
  rw [followRun_append, Option.bind_eq_none_iff]
  intro m hm
  -- if the pass had kept the session, it would have come in time
  obtain ⟨r, hr₁, -⟩ := hr.split
  have hd : 0 ≤ d := nonneg_of_short (fun _ _ => le_rfl) hshort
  rw [List.map_append] at hpaced
  obtain ⟨-, -, -, k', hin⟩ := onTime_run hd hr₁ hpaced.of_append
    (getElem?_createMatchSession s₀ now₀ data) (onTime_created hshort)
    (inTime_created hshort) hm
  rw [List.map_append, List.map_singleton, lastPass_concat, hpass] at hin
  have htime := hin i j
  have hreading : now₀ k' ≤ now₀ k + d := hshort 0 k' 0 k
  rw [Option.getD_some] at htime
  linarith

/-! ## Two players that say nothing -/

/-- A match of the players at `10.0.0.1` and `10.0.0.2`. -/
def twoPlayers : StartMatchData :=
  ⟨1, .normal, 2, [{ ip := ⟨10, 0, 0, 1⟩, port := 5000 },
    { ip := ⟨10, 0, 0, 2⟩, port := 5000, playerID := 1 }]⟩

/-- Passes over the sessions, one every ten seconds. -/
def everyTenSeconds (n : Nat) : List Step := (List.range n).map fun k : Nat =>
  .processMatchSessionsACKS fun _ _ => ⟨10000000 * (k + 1), 10000000 * (k + 1)⟩

theorem everyTenSeconds_succ (n : Nat) : everyTenSeconds (n + 1) = everyTenSeconds n ++
    [.processMatchSessionsACKS fun _ _ => ⟨10000000 * (n + 1), 10000000 * (n + 1)⟩] := by
  rw [everyTenSeconds, List.range_succ, List.map_append]
  rfl

theorem paced_everyTenSeconds (n : Nat) :
    Paced 10000000 (createdAt fun _ => 0) (everyTenSeconds n) ∧
      lastPass (createdAt fun _ => 0) (everyTenSeconds n)
        = fun _ _ => ⟨10000000 * n, 10000000 * n⟩ := by
  induction n with
  | zero => exact ⟨along_nil _, rfl⟩
  | succ n ih =>
    rw [everyTenSeconds_succ, lastPass_concat, Paced, along_concat_iff]
    refine ⟨⟨ih.1, ?_⟩, ?_⟩
    · rintro now ⟨⟩
      rw [ih.2]
      refine ⟨fun _ _ => le_rfl, fun _ _ _ _ => ?_, fun _ _ _ _ => ?_⟩
      · show (10000000 * (n + 1) : Int) ≤ 10000000 * (n + 1) + 10000000
        omega
      · show (10000000 * (n + 1) : Int) ≤ 10000000 * n + 10000000
        omega
    · simp [passReadings]

/-- The passes can be made in any state. -/
theorem exists_run_everyTenSeconds (s : MatchmakingServer) (n : Nat) :
    ∃ h s', machine.Run s h s' ∧ h.map (·.label) = everyTenSeconds n := by
  induction n with
  | zero => exact ⟨[], s, .nil, rfl⟩
  | succ n ih =>
    obtain ⟨h, s', hr, hlabels⟩ := ih
    have hpass : machine.step s' (.processMatchSessionsACKS fun _ _ =>
        ⟨10000000 * (n + 1), 10000000 * (n + 1)⟩) = .ok (_, _) := rfl
    refine ⟨_, _, hr.snoc hpass, ?_⟩
    rw [List.map_append, hlabels, everyTenSeconds_succ]
    rfl

/-- Two minutes and twenty seconds after its creation the session is gone. -/
theorem session_expires_silent : ∃ h s',
    machine.Run (initial.createMatchSession (fun _ => 0) twoPlayers).1 h s' ∧ h.length = 14 ∧
      followRun h initial.pendingSessions.length = none := by
  obtain ⟨h, s', hr, hlabels⟩ :=
    exists_run_everyTenSeconds (initial.createMatchSession (fun _ => 0) twoPlayers).1 14
  refine ⟨h, s', hr, ?_, ?_⟩
  · rw [← List.length_map (f := Transition.label), hlabels]
    rfl
  · obtain ⟨t, ht, hlast⟩ : ∃ t ∈ h, t.label = .processMatchSessionsACKS
        fun _ _ => ⟨10000000 * (13 + 1), 10000000 * (13 + 1)⟩ := by
      have hmem : Step.processMatchSessionsACKS
          (fun _ _ => ⟨10000000 * (13 + 1), 10000000 * (13 + 1)⟩) ∈ h.map (·.label) := by
        rw [hlabels, everyTenSeconds_succ]
        exact List.mem_append_right _ (List.mem_singleton_self _)
      exact List.mem_map.1 hmem
    refine session_expires (d := 10000000) (i := 0) (j := 0) (k := 0) hr ?_ ?_ ht
      (by rw [hlast]; rfl) (by decide)
    · intro i j i' j'
      show (0 : Int) ≤ 0 + 10000000
      decide
    · rw [hlabels]
      exact (paced_everyTenSeconds 14).1

end MatchmakingServer

end ServiceServer
