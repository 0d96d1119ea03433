import ServiceServer.Matchmaking.Ids

/-!
# Who is paired with whom

The pairing pass takes players off the front of a queue, as many at a time as a match
takes, for as long as there are enough.

* `groupCreation` — the match the pass makes of the `i`-th group of a queue.
* `pairLoop_eq` — what the loop leaves once it had enough rounds, and it never needs
  more of them than there are groups.
* `processMatchmaking_pairs` — first come, first served, and nobody who could be paired
  is left.
-/

namespace ServiceServer

open Lib

namespace MatchmakingServer

/-- The `i`-th group of a queue, when so many players make a match. -/
def group (n : Nat) (queue : List ClientMatchInfo) (i : Nat) : List ClientMatchInfo :=
  (queue.drop (i * n)).take n

/-- The creation the pass makes of the `i`-th group. -/
def groupCreation (s : MatchmakingServer) (t : MatchType) (now : Nat → Micros) (i : Nat) :
    PendingMatchCreation :=
  let matchData : StartMatchData :=
    { matchID := s.lastMatchID + UInt32.ofNat (i + 1)
      type := t
      numOfPlayers := s.playersPerMatch.val.toInt32
      players := numbered 0 (group s.playersPerMatch.val.toNat (s.queueOf t) i) }
  { matchData := matchData, serialized := serializeMatch matchData, timer := ⟨now i⟩ }

theorem setQueue_queueOf (s : MatchmakingServer) (t : MatchType) :
    s.setQueue t (s.queueOf t) = s := by
  cases t <;> rfl

theorem queueOf_setQueue_ne (s : MatchmakingServer) {t u : MatchType} (h : u ≠ t)
    (q : List ClientMatchInfo) : (s.setQueue t q).queueOf u = s.queueOf u := by
  cases t <;> cases u <;> first | rfl | exact absurd rfl h

/-! ## One round -/

theorem queueOf_pairOnce {s : MatchmakingServer} {t : MatchType}
    (h : s.playersPerMatch.val.toNat ≤ (s.queueOf t).length) (now : Micros) :
    (s.pairOnce t now).queueOf t = (s.queueOf t).drop s.playersPerMatch.val.toNat := by
  have htaken := takePlayers_eq h 0
  cases t
  · simpa [pairOnce, queueOf, setQueue] using congrArg Prod.snd htaken
  · simpa [pairOnce, queueOf, setQueue] using congrArg Prod.snd htaken

/-- The match of a round is that of the first group. -/
theorem pairOnce_eq {s : MatchmakingServer} {t : MatchType}
    (h : s.playersPerMatch.val.toNat ≤ (s.queueOf t).length) (now : Nat → Micros) :
    s.pairOnce t (now 0) =
      { s.setQueue t ((s.queueOf t).drop s.playersPerMatch.val.toNat) with
        lastMatchID := s.lastMatchID + 1
        pendingMatchCreations := s.pendingMatchCreations ++ [s.groupCreation t now 0] } := by
  have htaken := takePlayers_eq h 0
  simp [pairOnce, htaken, formCreation, groupCreation, group]

/-- The groups that are left are those behind the first. -/
theorem groupCreation_pairOnce {s : MatchmakingServer} {t : MatchType}
    (h : s.playersPerMatch.val.toNat ≤ (s.queueOf t).length) (now : Nat → Micros) (i : Nat) :
    (s.pairOnce t (now 0)).groupCreation t (fun i => now (i + 1)) i
      = s.groupCreation t now (i + 1) := by
  have hID : s.lastMatchID + 1 + UInt32.ofNat (i + 1) = s.lastMatchID + UInt32.ofNat (i + 1 + 1) := by
    rw [UInt32.add_assoc, Nat.add_comm (i + 1) 1, UInt32.ofNat_add 1 (i + 1)]
    rfl
  have hgroup : group s.playersPerMatch.val.toNat
      ((s.queueOf t).drop s.playersPerMatch.val.toNat) i
        = group s.playersPerMatch.val.toNat (s.queueOf t) (i + 1) := by
    rw [group, group, List.drop_drop, Nat.succ_mul, Nat.add_comm]
  have hqueue := queueOf_pairOnce h (now 0)
  have hlast : (s.pairOnce t (now 0)).lastMatchID = s.lastMatchID + 1 := rfl
  have hper : (s.pairOnce t (now 0)).playersPerMatch = s.playersPerMatch := by simp [pairOnce]
  simp only [groupCreation, hqueue, hlast, hper, hID, hgroup]

/-! ## The loop -/

/-- The service after so many groups of a queue have been matched. -/
def matchGroups (s : MatchmakingServer) (t : MatchType) (now : Nat → Micros) (count : Nat) :
    MatchmakingServer :=
  { s.setQueue t ((s.queueOf t).drop (count * s.playersPerMatch.val.toNat)) with
    lastMatchID := s.lastMatchID + UInt32.ofNat count
    pendingMatchCreations :=
      s.pendingMatchCreations ++ (List.range count).map (s.groupCreation t now) }

theorem matchGroups_zero (s : MatchmakingServer) (t : MatchType) (now : Nat → Micros) :
    s.matchGroups t now 0 = s := by
  simp [matchGroups, setQueue_queueOf]

/-- To match a group and then some others is to match one more. -/
theorem matchGroups_succ {s : MatchmakingServer} {t : MatchType}
    (h : s.playersPerMatch.val.toNat ≤ (s.queueOf t).length) (now : Nat → Micros) (count : Nat) :
    (s.pairOnce t (now 0)).matchGroups t (fun i => now (i + 1)) count
      = s.matchGroups t now (count + 1) := by
  have hgroups : (s.pairOnce t (now 0)).groupCreation t (fun i => now (i + 1))
      = fun i => s.groupCreation t now (i + 1) := funext (groupCreation_pairOnce h now)
  have hID : s.lastMatchID + 1 + UInt32.ofNat count = s.lastMatchID + UInt32.ofNat (count + 1) := by
    rw [UInt32.add_assoc, Nat.add_comm count 1, UInt32.ofNat_add 1 count]
    rfl
  have hdrop : ((s.queueOf t).drop s.playersPerMatch.val.toNat).drop
      (count * s.playersPerMatch.val.toNat)
        = (s.queueOf t).drop ((count + 1) * s.playersPerMatch.val.toNat) := by
    rw [List.drop_drop, Nat.succ_mul, Nat.add_comm]
  rw [matchGroups, queueOf_pairOnce h, hgroups, matchGroups, List.range_succ_eq_map,
    List.map_cons, List.map_map, pairOnce_eq h, ← hdrop, ← hID]
  cases t
  · simp [setQueue, Function.comp_def]
  · simp [setQueue, Function.comp_def]

/-- **What the loop leaves**: all whole groups are matched, in order.  It needs a round
for each of them, and more rounds change nothing. -/
theorem pairLoop_eq {t : MatchType} {rounds : Nat} {s : MatchmakingServer}
    (h : (s.queueOf t).length / s.playersPerMatch.val.toNat ≤ rounds) (now : Nat → Micros) :
    pairLoop t rounds now s
      = s.matchGroups t now ((s.queueOf t).length / s.playersPerMatch.val.toNat) := by
  have hpos : 0 < s.playersPerMatch.val.toNat := UInt32.lt_iff_toNat_lt.1 s.playersPerMatch.2
  induction rounds generalizing s now with
  | zero =>
    have hzero : (s.queueOf t).length / s.playersPerMatch.val.toNat = 0 := Nat.le_zero.1 h
    rw [hzero, matchGroups_zero]
    rfl
  | succ rounds ih =>
    rw [pairLoop]
    by_cases hlen : s.playersPerMatch.val.toNat ≤ (s.queueOf t).length
    · have hper : (s.pairOnce t (now 0)).playersPerMatch = s.playersPerMatch := by simp [pairOnce]
      have hcount : (s.queueOf t).length / s.playersPerMatch.val.toNat
          = ((s.pairOnce t (now 0)).queueOf t).length / s.playersPerMatch.val.toNat + 1 := by
        rw [queueOf_pairOnce hlen, List.length_drop, Nat.div_eq_sub_div hpos hlen]
      have hless : ((s.pairOnce t (now 0)).queueOf t).length
          / (s.pairOnce t (now 0)).playersPerMatch.val.toNat ≤ rounds := by
        rw [hper]
        omega
      rw [if_pos hlen, ih hless _ (by rwa [hper]), hper, hcount, matchGroups_succ hlen]
    · have hshort : (s.queueOf t).length < s.playersPerMatch.val.toNat := by omega
      rw [if_neg hlen, (Nat.div_eq_zero_iff_lt hpos).2 hshort, matchGroups_zero]

/-! ## First come, first served -/

/-- The players of a group keep their order and are numbered from `0`. -/
theorem getElem?_numbered (i : Nat) (ps : List ClientMatchInfo) (k : Nat) :
    (numbered (UInt32.ofNat i) ps)[k]?
      = ps[k]?.map fun p => { p with playerID := UInt32.ofNat (i + k) } := by
  induction ps generalizing i k with
  | nil => rfl
  | cons p ps ih =>
    have hsucc : UInt32.ofNat i + 1 = UInt32.ofNat (i + 1) := (UInt32.ofNat_add i 1).symm
    rw [numbered, hsucc]
    cases k with
    | zero => rfl
    | succ k =>
      rw [List.getElem?_cons_succ, ih, List.getElem?_cons_succ]
      simp only [Nat.add_assoc, Nat.add_comm 1 k]

/-- The creation of the `i`-th group of a queue: its players in order and numbered
from `0`, and the rest as a new match has it. -/
structure GroupMatch (s : MatchmakingServer) (t : MatchType) (i : Nat) (c : PendingMatchCreation) :
    Prop where
  count : c.matchData.players.length = s.playersPerMatch.val.toNat
  players : ∀ k < s.playersPerMatch.val.toNat, c.matchData.players[k]?
    = (s.queueOf t)[i * s.playersPerMatch.val.toNat + k]?.map fun p =>
        { p with playerID := UInt32.ofNat k }
  type : c.matchData.type = t
  numOfPlayers : c.matchData.numOfPlayers.toInt = s.playersPerMatch.val.toNat
  matchID : c.matchData.matchID.toNat = (s.lastMatchID.toNat + i + 1) % 4294967296
  attempts : c.attempts = 0
  serialized : c.serialized = serializeMatch c.matchData

theorem toNat_add_ofNat (a : UInt32) (n : Nat) :
    (a + UInt32.ofNat n).toNat = (a.toNat + n) % 4294967296 := by
  simp [UInt32.toNat_add]

theorem groupMatch_groupCreation {s : MatchmakingServer} {t : MatchType}
    (hn : s.playersPerMatch.val.toNat < 2147483648) (now : Nat → Micros) {i : Nat}
    (hi : i < (s.queueOf t).length / s.playersPerMatch.val.toNat) :
    GroupMatch s t i (s.groupCreation t now i) := by
  have hwhole : (i + 1) * s.playersPerMatch.val.toNat ≤ (s.queueOf t).length :=
    (Nat.mul_le_mul_right _ hi).trans (Nat.div_mul_le_self ..)
  rw [Nat.succ_mul] at hwhole
  refine ⟨?_, ?_, rfl, toInt_toInt32 hn, ?_, rfl, rfl⟩
  · show (numbered 0 (group _ _ _)).length = _
    rw [length_numbered, group, List.length_take, List.length_drop]
    omega
  · intro k hk
    show (numbered (UInt32.ofNat 0) (group _ _ _))[k]? = _
    rw [getElem?_numbered, group, List.getElem?_take_of_lt hk, List.getElem?_drop, Nat.zero_add]
  · exact toNat_add_ofNat s.lastMatchID (i + 1)

/-- **Pairing is first come, first served, and complete.**  The pass ends, however many
rounds its loop is allowed beyond the number of whole groups.  It leaves the last players
that make no whole group, in order, forms one match for each group, in order, moves
the counter on by the number of matches, and changes nothing else. -/
theorem processMatchmaking_pairs {s : MatchmakingServer} {t : MatchType}
    (hn : s.playersPerMatch.val.toNat < 2147483648) (now : Nat → Micros) :
    let n := s.playersPerMatch.val.toNat
    let queue := s.queueOf t
    let s' := s.processMatchmaking t now
    (∀ rounds, queue.length / n ≤ rounds → pairLoop t rounds now s = s') ∧
      (s'.queueOf t = queue.drop (queue.length - queue.length % n) ∧
        (s'.queueOf t).length = queue.length % n ∧ (s'.queueOf t).length < n) ∧
      (∃ new, s'.pendingMatchCreations = s.pendingMatchCreations ++ new ∧
        new.length = queue.length / n ∧ ∀ i c, new[i]? = some c → GroupMatch s t i c) ∧
      s'.lastMatchID.toNat = (s.lastMatchID.toNat + queue.length / n) % 4294967296 ∧
      (s'.pendingSessions = s.pendingSessions ∧ s'.playersPerMatch = s.playersPerMatch ∧
        ∀ u, u ≠ t → s'.queueOf u = s.queueOf u) := by
  intro n queue s'
  have hpos : 0 < n := UInt32.lt_iff_toNat_lt.1 s.playersPerMatch.2
  have hs' : s' = s.matchGroups t now (queue.length / n) :=
    pairLoop_eq (Nat.div_le_self queue.length n) now
  have hqueue : s'.queueOf t = queue.drop (queue.length - queue.length % n) := by
    have hrest : queue.length / n * n = queue.length - queue.length % n := by
      have hsplit := Nat.div_add_mod' queue.length n
      omega
    rw [← hrest, hs']
    cases t <;> rfl
  have hlen : (s'.queueOf t).length = queue.length % n := by
    rw [hqueue, List.length_drop]
    have hle := Nat.mod_le queue.length n
    omega
  refine ⟨?_, ⟨hqueue, hlen, hlen ▸ Nat.mod_lt _ hpos⟩, ?_, ?_, ?_, ?_, ?_⟩
  · intro rounds hrounds
    rw [hs', pairLoop_eq hrounds]
  · refine ⟨(List.range (queue.length / n)).map (s.groupCreation t now), ?_, by simp, ?_⟩
    · rw [hs']
      rfl
    · intro i c hc
      rw [List.getElem?_map, Option.map_eq_some_iff] at hc
      obtain ⟨j, hj, rfl⟩ := hc
      obtain ⟨hlt, hij⟩ := List.getElem?_eq_some_iff.1 hj
      rw [List.length_range] at hlt
      rw [List.getElem_range] at hij
      exact hij ▸ groupMatch_groupCreation hn now hlt
  · rw [hs']
    exact toNat_add_ofNat _ _
  · rw [hs', matchGroups]
    simp
  · rw [hs', matchGroups]
    simp
  · intro u hu
    rw [hs', matchGroups]
    have hother := queueOf_setQueue_ne s hu (queue.drop (queue.length / n * n))
    cases u <;> exact hother

/-- Five players wait for ranked matches of two, one of them for the second time. -/
def fiveWaiting : MatchmakingServer :=
  { initial with
    rankedQueue := [⟨⟨10, 0, 0, 1⟩, 5000, 1⟩, ⟨⟨10, 0, 0, 2⟩, 5000, 0⟩, ⟨⟨10, 0, 0, 3⟩, 5000, 0⟩,
      ⟨⟨10, 0, 0, 4⟩, 5000, 0⟩, ⟨⟨10, 0, 0, 5⟩, 5000, 0⟩] }

/-- Two matches are formed, and the fifth player waits on. -/
theorem processMatchmaking_pairs_five :
    let s' := fiveWaiting.processMatchmaking .ranked fun _ => 0
    s'.rankedQueue = [⟨⟨10, 0, 0, 5⟩, 5000, 0⟩] ∧ s'.pendingMatchCreations.length = 2 ∧
      s'.lastMatchID.toNat = 2 := by
  obtain ⟨-, ⟨hqueue, -, -⟩, ⟨new, hcs, hlen, -⟩, hlast, -⟩ :=
    processMatchmaking_pairs (s := fiveWaiting) (t := .ranked) (by decide) fun _ => 0
  have hnew : (fiveWaiting.processMatchmaking .ranked fun _ => 0).pendingMatchCreations = new := hcs
  refine ⟨hqueue.trans (by decide), ?_, hlast.trans (by decide)⟩
  rw [hnew, hlen]
  decide

end MatchmakingServer

end ServiceServer
