import ServiceServer.Matchmaking.Steps
import Mathlib.Data.List.Forall2

/-!
# The passes of the main loop, in closed form

The three passes are loops that consume a list while they rebuild it and push on
the queues.  Here each is said in one equation, element by element.

* `processMatchmaking_induction` — a property kept by one round of pairing is
  kept by the pass; `takePlayers_eq` says what a round takes.
* `processMatchCreations_eq` — a creation is kept, given up or retried on its own
  reading alone.
* `processMatchSessionsACKS_eq` — a session is kept, started or given up on its
  own readings alone; `forall₂_scanPlayers` says what a kept one looks like.
* `sessionFate_eq` — a session is given up when a player of it is exhausted, and is
  started when all of them have acknowledged.
-/

namespace ServiceServer

open Lib

namespace MatchmakingServer

/-! ## Readings -/

/-- Each element of a list with the reading taken for it. -/
def withReadings {α ρ : Type} : (Nat → ρ) → List α → List (α × ρ)
  | _, [] => []
  | now, a :: l => (a, now 0) :: withReadings (fun i => now (i + 1)) l

theorem map_fst_withReadings {α ρ : Type} (now : Nat → ρ) (l : List α) :
    (withReadings now l).map Prod.fst = l := by
  induction l generalizing now with
  | nil => rfl
  | cons a l ih => simp [withReadings, ih]

theorem mem_of_mem_withReadings {α ρ : Type} {now : Nat → ρ} {l : List α} {x : α × ρ}
    (hx : x ∈ withReadings now l) : x.1 ∈ l := by
  rw [← map_fst_withReadings now l]
  exact List.mem_map_of_mem hx

/-! ## Pairing -/

/-- Players numbered from `i` on. -/
def numbered (i : UInt32) : List ClientMatchInfo → List ClientMatchInfo
  | [] => []
  | p :: ps => { p with playerID := i } :: numbered (i + 1) ps

/-- **One round takes the front of the queue**, and renumbers it. -/
theorem takePlayers_eq {count : Nat} {queue : List ClientMatchInfo} (h : count ≤ queue.length)
    (i : UInt32) :
    takePlayers count i queue = (numbered i (queue.take count), queue.drop count) := by
  induction count generalizing i queue with
  | zero => rfl
  | succ count ih =>
    cases queue with
    | nil => simp at h
    | cons p queue =>
      have hq : count ≤ queue.length := by simpa using h
      simp [takePlayers, ih hq, numbered]

@[simp] theorem map_endpoint_numbered (i : UInt32) (ps : List ClientMatchInfo) :
    (numbered i ps).map ClientMatchInfo.endpoint = ps.map ClientMatchInfo.endpoint := by
  induction ps generalizing i with
  | nil => rfl
  | cons p ps ih => simp [numbered, ih, ClientMatchInfo.endpoint]

@[simp] theorem length_numbered (i : UInt32) (ps : List ClientMatchInfo) :
    (numbered i ps).length = ps.length := by
  induction ps generalizing i with
  | nil => rfl
  | cons p ps ih => simp [numbered, ih]

/-- The player IDs count up. -/
theorem map_playerID_numbered (i : Nat) (ps : List ClientMatchInfo) :
    (numbered (UInt32.ofNat i) ps).map ClientMatchInfo.playerID
      = (List.range' i ps.length).map UInt32.ofNat := by
  induction ps generalizing i with
  | nil => rfl
  | cons p ps ih =>
    have hsucc : UInt32.ofNat i + 1 = UInt32.ofNat (i + 1) := (UInt32.ofNat_add i 1).symm
    rw [numbered, List.map_cons, hsucc, ih, List.length_cons, List.range'_succ, List.map_cons]

/-- **The pairing rule**: what one round keeps, the pass keeps. -/
theorem processMatchmaking_induction {P : MatchmakingServer → Prop} {t : MatchType}
    (hround : ∀ s now, P s → s.playersPerMatch.val.toNat ≤ (s.queueOf t).length →
      P (s.pairOnce t now))
    {s : MatchmakingServer} (hs : P s) (now : Nat → Micros) : P (s.processMatchmaking t now) := by
  have key : ∀ (rounds : Nat) (now : Nat → Micros) (s : MatchmakingServer), P s →
      P (pairLoop t rounds now s) := by
    intro rounds
    induction rounds with
    | zero => exact fun _ _ hs => hs
    | succ rounds ih =>
      intro now s hs
      rw [pairLoop]
      split
      · exact ih _ _ (hround s (now 0) hs ‹_›)
      · exact hs
  exact key _ now s hs

/-! ## Creations -/

/-- What a pass leaves of a creation. -/
def keptCreation (c : PendingMatchCreation) (r : ClockReading) : Option PendingMatchCreation :=
  match creationOutcome c r.atElapsed with
  | .waiting => some c
  | .givenUp => none
  | .retried => some { c with timer := ⟨r.atRestart⟩, attempts := c.attempts + 1 }

/-- The players a pass returns to the queues when it gives a creation up. -/
def requeuedByCreation (c : PendingMatchCreation) (r : ClockReading) :
    List (ClientMatchInfo × MatchType) :=
  match creationOutcome c r.atElapsed with
  | .givenUp => c.matchData.players.map fun p => (p, c.matchData.type)
  | _ => []

/-- What a pass sends for a creation. -/
def sentForCreation (c : PendingMatchCreation) (r : ClockReading) : List Datagram :=
  match creationOutcome c r.atElapsed with
  | .retried => [createMatchDatagram c]
  | _ => []

theorem foldl_pushQueue (s : MatchmakingServer) (t : MatchType) (ps : List ClientMatchInfo) :
    ps.foldl (fun s p => s.pushQueue t p) s = s.pushAll (ps.map fun p => (p, t)) := by
  rw [pushAll, List.foldl_map]

theorem creationsLoop_eq (now : Nat → ClockReading) (cs : List PendingMatchCreation)
    (s : MatchmakingServer) :
    creationsLoop now cs s =
      ({ s.pushAll ((withReadings now cs).flatMap fun x => requeuedByCreation x.1 x.2) with
          pendingMatchCreations := s.pendingMatchCreations ++
            (withReadings now cs).filterMap fun x => keptCreation x.1 x.2 },
        (withReadings now cs).flatMap fun x => sentForCreation x.1 x.2) := by
  induction cs generalizing now s with
  | nil => simp [creationsLoop, withReadings]
  | cons c cs ih =>
    simp only [creationsLoop, withReadings, List.flatMap_cons, List.filterMap_cons]
    cases hout : creationOutcome c (now 0).atElapsed with
    | waiting =>
      have hkept : keptCreation c (now 0) = some c := by
        unfold keptCreation
        rw [hout]
      have hrequeued : requeuedByCreation c (now 0) = [] := by
        unfold requeuedByCreation
        rw [hout]
      have hsent : sentForCreation c (now 0) = [] := by
        unfold sentForCreation
        rw [hout]
      simp only [hkept, hrequeued, hsent]
      rw [ih, pushAll_withCreations]
      simp only [List.append_assoc, List.singleton_append, List.nil_append]
    | givenUp =>
      have hkept : keptCreation c (now 0) = none := by
        unfold keptCreation
        rw [hout]
      have hrequeued : requeuedByCreation c (now 0)
          = c.matchData.players.map fun p => (p, c.matchData.type) := by
        unfold requeuedByCreation
        rw [hout]
      have hsent : sentForCreation c (now 0) = [] := by
        unfold sentForCreation
        rw [hout]
      simp only [hkept, hrequeued, hsent]
      rw [ih, foldl_pushQueue, pushAll_append, pushAll_pendingMatchCreations, List.nil_append]
    | retried =>
      have hkept : keptCreation c (now 0)
          = some { c with timer := ⟨(now 0).atRestart⟩, attempts := c.attempts + 1 } := by
        unfold keptCreation
        rw [hout]
      have hrequeued : requeuedByCreation c (now 0) = [] := by
        unfold requeuedByCreation
        rw [hout]
      have hsent : sentForCreation c (now 0) = [createMatchDatagram c] := by
        unfold sentForCreation
        rw [hout]
      simp only [hkept, hrequeued, hsent]
      rw [ih, pushAll_withCreations]
      simp only [List.append_assoc, List.singleton_append, List.nil_append]

/-- **The pass over the creations, element by element.** -/
theorem processMatchCreations_eq (s : MatchmakingServer) (now : Nat → ClockReading) :
    s.processMatchCreations now =
      ({ s.pushAll ((withReadings now s.pendingMatchCreations).flatMap fun x =>
            requeuedByCreation x.1 x.2) with
          pendingMatchCreations := (withReadings now s.pendingMatchCreations).filterMap fun x =>
            keptCreation x.1 x.2 },
        (withReadings now s.pendingMatchCreations).flatMap fun x => sentForCreation x.1 x.2) := by
  rw [processMatchCreations, creationsLoop_eq, pushAll_withCreations, List.nil_append]

/-! ## Sessions -/

/-- The two records agree but for the timer and the retries. -/
def SameButRetries (p q : PendingMatch) : Prop :=
  q = { p with timer := q.timer, retries := q.retries }

/-- **A scan changes of a player nothing but its timer and its retries.** -/
theorem forall₂_scanPlayers (now : Nat → ClockReading) (ps : List PendingMatch) :
    List.Forall₂ SameButRetries ps (scanPlayers now ps).players := by
  have hrefl : ∀ l : List PendingMatch, List.Forall₂ SameButRetries l l := fun l =>
    List.forall₂_same.2 fun _ _ => rfl
  induction ps generalizing now with
  | nil => exact .nil
  | cons p ps ih =>
    simp only [scanPlayers]
    split
    · exact .cons rfl (ih _)
    · split
      · split
        · exact hrefl _
        · exact .cons rfl (ih _)
      · exact .cons rfl (ih _)

/-- What a scan leaves alone can be read off the players before it. -/
theorem map_scanPlayers {α : Type} {f : PendingMatch → α}
    (hf : ∀ p q, SameButRetries p q → f q = f p) (now : Nat → ClockReading)
    (ps : List PendingMatch) : (scanPlayers now ps).players.map f = ps.map f := by
  have h := forall₂_scanPlayers now ps
  generalize (scanPlayers now ps).players = qs at h
  induction h with
  | nil => rfl
  | cons hpq _ ih => simp [hf _ _ hpq, ih]

/-- What becomes of a session in a pass. -/
inductive SessionFate where
  /-- It stays pending. -/
  | kept
  /-- All its players have acknowledged. -/
  | started
  /-- A player has used up its retries. -/
  | givenUp
  deriving DecidableEq, Repr

/-- Which of the three it is. -/
def sessionFate (session : MatchSession) (now : Nat → ClockReading) : SessionFate :=
  if (scanPlayers now session.players).giveUp then .givenUp
  else if (scanPlayers now session.players).allAcked then .started
  else .kept

/-- What a pass leaves of a session. -/
def keptSession (session : MatchSession) (now : Nat → ClockReading) : Option MatchSession :=
  match sessionFate session now with
  | .kept => some ⟨(scanPlayers now session.players).players⟩
  | _ => none

/-- The players a pass returns to the queues when it gives a session up. -/
def requeuedBySession (session : MatchSession) (now : Nat → ClockReading) :
    List (ClientMatchInfo × MatchType) :=
  match sessionFate session now with
  | .givenUp => (session.players.filter fun p => p.ackRecieved).map fun p => (p.player, p.matchType)
  | _ => []

theorem removeSessionAndReQueue_eq (s : MatchmakingServer) (ps : List PendingMatch) :
    s.removeSessionAndReQueue ps =
      s.pushAll ((ps.filter fun p => p.ackRecieved).map fun p => (p.player, p.matchType)) := by
  induction ps generalizing s with
  | nil => rfl
  | cons p ps ih =>
    rw [removeSessionAndReQueue, List.foldl_cons, List.filter_cons]
    split
    · exact ih _
    · exact ih _

/-- The players that acknowledged are the same before and after a scan. -/
theorem acked_scanPlayers (now : Nat → ClockReading) (ps : List PendingMatch) :
    ((scanPlayers now ps).players.filter fun p => p.ackRecieved).map
        (fun p => (p.player, p.matchType))
      = (ps.filter fun p => p.ackRecieved).map fun p => (p.player, p.matchType) := by
  have h := forall₂_scanPlayers now ps
  generalize (scanPlayers now ps).players = qs at h
  induction h with
  | nil => rfl
  | @cons p q _ _ hpq _ ih =>
    rw [SameButRetries] at hpq
    rw [hpq]
    simp only [List.filter_cons]
    split
    · simp [ih]
    · exact ih

theorem sessionsLoop_eq (now : Nat → Nat → ClockReading) (ss : List MatchSession)
    (s : MatchmakingServer) :
    sessionsLoop now ss s =
      ({ s.pushAll ((withReadings now ss).flatMap fun x => requeuedBySession x.1 x.2) with
          pendingSessions := s.pendingSessions ++
            (withReadings now ss).filterMap fun x => keptSession x.1 x.2 },
        (withReadings now ss).flatMap fun x => (scanPlayers x.2 x.1.players).sent) := by
  induction ss generalizing now s with
  | nil => simp [sessionsLoop, withReadings]
  | cons session ss ih =>
    simp only [sessionsLoop, withReadings, List.flatMap_cons, List.filterMap_cons]
    cases hg : (scanPlayers (now 0) session.players).giveUp with
    | true =>
      have hfate : sessionFate session (now 0) = .givenUp := by simp [sessionFate, hg]
      have hkept : keptSession session (now 0) = none := by simp [keptSession, hfate]
      have hrequeued : requeuedBySession session (now 0)
          = (session.players.filter fun p => p.ackRecieved).map
              fun p => (p.player, p.matchType) := by simp [requeuedBySession, hfate]
      rw [if_pos rfl, ih, removeSessionAndReQueue_eq, acked_scanPlayers, hkept, hrequeued,
        pushAll_append, pushAll_pendingSessions]
    | false =>
      rw [if_neg Bool.false_ne_true]
      cases ha : (scanPlayers (now 0) session.players).allAcked with
      | true =>
        have hfate : sessionFate session (now 0) = .started := by simp [sessionFate, hg, ha]
        have hkept : keptSession session (now 0) = none := by simp [keptSession, hfate]
        have hrequeued : requeuedBySession session (now 0) = [] := by
          simp [requeuedBySession, hfate]
        rw [if_pos rfl, ih, hkept, hrequeued, List.nil_append]
      | false =>
        have hfate : sessionFate session (now 0) = .kept := by simp [sessionFate, hg, ha]
        have hkept : keptSession session (now 0)
            = some ⟨(scanPlayers (now 0) session.players).players⟩ := by simp [keptSession, hfate]
        have hrequeued : requeuedBySession session (now 0) = [] := by
          simp [requeuedBySession, hfate]
        rw [if_neg Bool.false_ne_true, ih, pushAll_withSessions, hkept, hrequeued]
        simp only [List.append_assoc, List.singleton_append, List.nil_append]

/-- **The pass over the sessions, element by element.** -/
theorem processMatchSessionsACKS_eq (s : MatchmakingServer) (now : Nat → Nat → ClockReading) :
    s.processMatchSessionsACKS now =
      ({ s.pushAll ((withReadings now s.pendingSessions).flatMap fun x =>
            requeuedBySession x.1 x.2) with
          pendingSessions := (withReadings now s.pendingSessions).filterMap fun x =>
            keptSession x.1 x.2 },
        (withReadings now s.pendingSessions).flatMap fun x =>
          (scanPlayers x.2 x.1.players).sent) := by
  rw [processMatchSessionsACKS, sessionsLoop_eq, pushAll_withSessions, List.nil_append]

/-- A session that is not given up starts exactly when everyone has
acknowledged. -/
theorem allAcked_scanPlayers {now : Nat → ClockReading} {ps : List PendingMatch} :
    (scanPlayers now ps).allAcked = true ↔ ∀ p ∈ ps, p.ackRecieved = true := by
  induction ps generalizing now with
  | nil => simp [scanPlayers]
  | cons p ps ih =>
    simp only [scanPlayers, List.forall_mem_cons]
    cases hp : p.ackRecieved with
    | true => simp [ih]
    | false => simp; split_ifs <;> simp

/-- **When a session is given up**: some player that has not acknowledged is
overdue with its retries used up. -/
theorem giveUp_scanPlayers {now : Nat → ClockReading} {ps : List PendingMatch} :
    (scanPlayers now ps).giveUp = true ↔
      ∃ x ∈ withReadings now ps, x.1.ackRecieved = false ∧
        resendInterval < x.1.timer.getElapsedTime x.2.atElapsed ∧ maxRetries ≤ x.1.retries := by
  induction ps generalizing now with
  | nil => simp [scanPlayers, withReadings]
  | cons p ps ih =>
    rw [withReadings, List.exists_mem_cons_iff, ← ih, scanPlayers]
    cases hp : p.ackRecieved with
    | true => simp
    | false =>
      by_cases hover : resendInterval < p.timer.getElapsedTime (now 0).atElapsed
      · by_cases hret : maxRetries ≤ p.retries
        · simp [hover, hret]
        · simp [hover, hret]
      · simp [hover]

/-! ## What a pass looks at -/

/-- The player has not acknowledged, and was last told long ago. -/
def Overdue (p : PendingMatch) (r : ClockReading) : Prop :=
  p.ackRecieved = false ∧ resendInterval < p.timer.getElapsedTime r.atElapsed

/-- The player is overdue and has no retry left. -/
def Exhausted (p : PendingMatch) (r : ClockReading) : Prop :=
  Overdue p r ∧ maxRetries ≤ p.retries

/-- Some player of the session is exhausted. -/
def GivesUp (session : MatchSession) (now : Nat → ClockReading) : Prop :=
  ∃ x ∈ withReadings now session.players, Exhausted x.1 x.2

/-- Every player of the session has acknowledged. -/
def AllAcked (session : MatchSession) : Prop := ∀ p ∈ session.players, p.ackRecieved = true

instance (p : PendingMatch) (r : ClockReading) : Decidable (Overdue p r) :=
  inferInstanceAs (Decidable (_ ∧ _))

instance (p : PendingMatch) (r : ClockReading) : Decidable (Exhausted p r) :=
  inferInstanceAs (Decidable (_ ∧ _))

instance (session : MatchSession) (now : Nat → ClockReading) : Decidable (GivesUp session now) :=
  inferInstanceAs (Decidable (∃ x ∈ withReadings now session.players, Exhausted x.1 x.2))

instance (session : MatchSession) : Decidable (AllAcked session) :=
  inferInstanceAs (Decidable (∀ p ∈ session.players, p.ackRecieved = true))

theorem giveUp_iff {session : MatchSession} {now : Nat → ClockReading} :
    (scanPlayers now session.players).giveUp = true ↔ GivesUp session now := by
  rw [giveUp_scanPlayers]
  simp only [GivesUp, Exhausted, Overdue, and_assoc]

/-- An exhausted player has not acknowledged. -/
theorem not_givesUp_of_allAcked {session : MatchSession} {now : Nat → ClockReading}
    (h : AllAcked session) : ¬ GivesUp session now := by
  rintro ⟨x, hx, hexhausted⟩
  have hacked := h x.1 (mem_of_mem_withReadings hx)
  rw [hexhausted.1.1] at hacked
  cases hacked

theorem sessionFate_eq (session : MatchSession) (now : Nat → ClockReading) :
    sessionFate session now =
      if GivesUp session now then .givenUp else if AllAcked session then .started else .kept := by
  have hacked : (scanPlayers now session.players).allAcked = true ↔ AllAcked session :=
    allAcked_scanPlayers
  simp only [sessionFate, giveUp_iff, hacked]

end MatchmakingServer

end ServiceServer
