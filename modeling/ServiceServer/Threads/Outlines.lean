import ServiceServer.Threads.Calls

/-!
# What each thread relies on

A proof outline for each of the two threads, taken alone.  Between a look at a
container and the last call that acts on it, the thread relies on what it saw.

* `Stable` — what it means that a reliance survives a call.
* `MainHolds`, `DispatcherHolds` — the assertions.
* `mainOutline`, `dispatcherOutline` — each call leads from one to the next, none
  speaks of more than the thread relies on, and no call upsets more than its
  changes say.
* `undisturbed_holds` — in an undisturbed run both hold throughout, and no creation
  is given up while one is being confirmed.
-/

namespace ServiceServer

open Lib

/-- The players of a creation and the queue they go back to. -/
def PendingMatchCreation.roster (c : PendingMatchCreation) : MatchType × List ClientMatchInfo :=
  (c.matchData.type, c.matchData.players)

namespace MatchmakingServer

/-- What is relied on is still so.  The number of players in a match, which no
thread writes, is too. -/
def Stable (y : Reliance) (s s' : MatchmakingServer) : Prop :=
  s'.playersPerMatch = s.playersPerMatch ∧
    match y with
    | .queued t => s.queueOf t <+: s'.queueOf t
    | .drained t => s'.queueOf t = s.queueOf t
    | .rosters =>
      s'.pendingMatchCreations.map PendingMatchCreation.roster
        = s.pendingMatchCreations.map PendingMatchCreation.roster
    | .matchData =>
      s'.pendingMatchCreations.map PendingMatchCreation.matchData
        = s.pendingMatchCreations.map PendingMatchCreation.matchData

/-- What the main thread relies on: enough players are left in the queue, the one
it has seen is at its front, and its iterator points into the vector. -/
def MainHolds (s : MatchmakingServer) : MainPoint → Prop
  | .pairFront t players =>
    players.length < s.playersPerMatch.val.toNat ∧
      s.playersPerMatch.val.toNat ≤ players.length + (s.queueOf t).length
  | .pairPop t players info =>
    players.length < s.playersPerMatch.val.toNat ∧
      s.playersPerMatch.val.toNat ≤ players.length + (s.queueOf t).length ∧
      (s.queueOf t).head? = some info
  | .creationAt i => i ≤ s.pendingMatchCreations.length
  | .giveUp i k =>
    ∃ c, s.pendingMatchCreations[i]? = some c ∧ k ≤ c.matchData.players.length
  | .idle | .pairSize _ | .pairPush _ _ => True

/-- What the dispatcher's thread relies on: the queue is not empty, or it is, the
player it has seen is at its front, and its iterator points to the creation whose
match it confirms. -/
def DispatcherHolds (s : MatchmakingServer) : DispatcherPoint → Prop
  | .cancelFront _ t _ => s.queueOf t ≠ []
  | .cancelPop _ t _ p => (s.queueOf t).head? = some p
  | .cancelAssign _ t _ => s.queueOf t = []
  | .uniqueAt _ j | .usedAt _ j => j ≤ s.pendingMatchCreations.length
  | .uniqueCreate j => j < s.pendingMatchCreations.length
  | .uniqueErase j c =>
    ∃ c', s.pendingMatchCreations[j]? = some c' ∧ c'.matchData = c.matchData
  | .idle | .findPush _ _ | .cancelEmpty _ _ _ => True

/-! ## Lists that look the same -/

/-- An element is replaced by one that looks the same. -/
theorem map_set_same {α β : Type*} (f : α → β) {l : List α} {i : Nat} {a b : α}
    (ha : l[i]? = some a) (hf : f b = f a) : (l.set i b).map f = l.map f := by
  obtain ⟨hi, rfl⟩ := List.getElem?_eq_some_iff.1 ha
  rw [List.map_set, hf, ← List.getElem_map f (h := by simpa using hi), List.set_getElem_self]

/-- What looks the same holds elements that look the same. -/
theorem exists_of_map_eq {α β : Type*} {f : α → β} {l l' : List α} (h : l'.map f = l.map f)
    {i : Nat} {a : α} (ha : l[i]? = some a) : ∃ a', l'[i]? = some a' ∧ f a' = f a := by
  have hi := congrArg (·[i]?) h
  simpa [ha] using hi

theorem length_of_map_eq {α β : Type*} {f : α → β} {l l' : List α} (h : l'.map f = l.map f) :
    l'.length = l.length := by
  simpa using congrArg List.length h

/-! ## What is stable under which change -/

theorem stable_refl (y : Reliance) (s : MatchmakingServer) : Stable y s s := by
  cases y with
  | queued t => exact ⟨rfl, List.prefix_rfl⟩
  | drained t => exact ⟨rfl, rfl⟩
  | rosters => exact ⟨rfl, rfl⟩
  | matchData => exact ⟨rfl, rfl⟩

/-- A queue is written, and nothing else. -/
theorem stable_setQueue {y : Reliance} {s : MatchmakingServer} {t : MatchType}
    {queue : List ClientMatchInfo} (hqueued : y = .queued t → s.queueOf t <+: queue)
    (hdrained : y ≠ .drained t) : Stable y s (s.setQueue t queue) := by
  have hother : ∀ u, u ≠ t → (s.setQueue t queue).queueOf u = s.queueOf u := by
    intro u hu
    cases t <;> cases u <;> first | rfl | exact absurd rfl hu
  refine ⟨by simp, ?_⟩
  cases y with
  | queued u =>
    by_cases hu : u = t
    · subst hu
      simpa using hqueued rfl
    · simp [hother u hu]
  | drained u => exact hother u fun hu => hdrained (hu ▸ rfl)
  | rosters => simp
  | matchData => simp

theorem stable_pushQueue {y : Reliance} {s : MatchmakingServer} {t : MatchType}
    {p : ClientMatchInfo} (hy : y ∉ Change.upsets (.push t)) : Stable y s (s.pushQueue t p) :=
  stable_setQueue (fun _ => List.prefix_append ..) (by simpa [Change.upsets] using hy)

theorem stable_take {y : Reliance} {s : MatchmakingServer} {t : MatchType}
    {queue : List ClientMatchInfo} (hy : y ∉ Change.upsets (.take t)) :
    Stable y s (s.setQueue t queue) := by
  simp only [Change.upsets, List.mem_cons, List.not_mem_nil, or_false, not_or] at hy
  exact stable_setQueue (fun h => absurd h hy.1) hy.2

/-- The creations are written, and what no thread relies on. -/
theorem stable_creations {y : Reliance} {s s' : MatchmakingServer}
    (hper : s'.playersPerMatch = s.playersPerMatch) (hqueue : ∀ t, s'.queueOf t = s.queueOf t)
    (hrosters : y = .rosters → s'.pendingMatchCreations.map PendingMatchCreation.roster
      = s.pendingMatchCreations.map PendingMatchCreation.roster)
    (hdata : y = .matchData → s'.pendingMatchCreations.map PendingMatchCreation.matchData
      = s.pendingMatchCreations.map PendingMatchCreation.matchData) : Stable y s s' := by
  refine ⟨hper, ?_⟩
  cases y with
  | queued t => simp [hqueue t]
  | drained t => exact hqueue t
  | rosters => exact hrosters rfl
  | matchData => exact hdata rfl

theorem stable_of_not_upset {y : Reliance} {s s' : MatchmakingServer}
    (hper : s'.playersPerMatch = s.playersPerMatch) (hqueue : ∀ t, s'.queueOf t = s.queueOf t)
    (hy : y ∉ Change.upsets .creations) : Stable y s s' := by
  simp only [Change.upsets, List.mem_cons, List.not_mem_nil, or_false, not_or] at hy
  exact stable_creations hper hqueue (fun h => absurd h hy.1) (fun h => absurd h hy.2)

/-! ## The main thread -/

/-- The results of the main thread's calls, one case for each. -/
inductive MainEffect (s : MatchmakingServer) :
    MainPoint → MainCall → MatchmakingServer → MainPoint → List Datagram → Prop
  /-- It is told to enter a function while it is in one. -/
  | busy {p : MainPoint} {l : MainCall} : MainEffect s p l s p []
  | enterPairing {t : MatchType} :
      MainEffect s .idle (.processMatchmaking t) s (.pairSize t) []
  | enterCreations : MainEffect s .idle .processMatchCreations s (.creationAt 0) []
  | enough {t : MatchType} {now : ClockReading}
      (h : s.playersPerMatch.val.toNat ≤ (s.queueOf t).length) :
      MainEffect s (.pairSize t) (.next now) s (.pairFront t []) []
  | tooFew {t : MatchType} {now : ClockReading} :
      MainEffect s (.pairSize t) (.next now) s .idle []
  | front {t : MatchType} {now : ClockReading} {players : List ClientMatchInfo}
      {info : ClientMatchInfo} (h : (s.queueOf t).head? = some info) :
      MainEffect s (.pairFront t players) (.next now) s (.pairPop t players info) []
  | pop {t : MatchType} {now : ClockReading} {players queue : List ClientMatchInfo}
      {info first : ClientMatchInfo} (h : s.queueOf t = first :: queue) :
      MainEffect s (.pairPop t players info) (.next now) (s.setQueue t queue)
        (if players.length + 1 < s.playersPerMatch.val.toNat then
          .pairFront t (players ++ [{ info with playerID := UInt32.ofNat players.length }])
        else .pairPush t (players ++ [{ info with playerID := UInt32.ofNat players.length }])) []
  | push {t : MatchType} {now : ClockReading} {players : List ClientMatchInfo} :
      MainEffect s (.pairPush t players) (.next now)
        { s with
          lastMatchID := s.lastMatchID + 1
          pendingMatchCreations :=
            s.pendingMatchCreations ++ [s.formCreation t now.atRestart players] } (.pairSize t) []
  | last {i : Nat} {now : ClockReading} : MainEffect s (.creationAt i) (.next now) s .idle []
  | wait {i : Nat} {now : ClockReading} (hi : i < s.pendingMatchCreations.length) :
      MainEffect s (.creationAt i) (.next now) s (.creationAt (i + 1)) []
  | startGiveUp {i : Nat} {now : ClockReading} {c : PendingMatchCreation}
      (hc : s.pendingMatchCreations[i]? = some c)
      (hout : creationOutcome c now.atElapsed = .givenUp) :
      MainEffect s (.creationAt i) (.next now) s (.giveUp i 0) []
  | retry {i : Nat} {now : ClockReading} {c : PendingMatchCreation}
      (hc : s.pendingMatchCreations[i]? = some c) :
      MainEffect s (.creationAt i) (.next now)
        { s with
          pendingMatchCreations := s.pendingMatchCreations.set i
            { c with timer := ⟨now.atRestart⟩, attempts := c.attempts + 1 } }
        (.creationAt (i + 1)) [createMatchDatagram c]
  | requeue {i k : Nat} {now : ClockReading} {c : PendingMatchCreation} {p : ClientMatchInfo}
      (hc : s.pendingMatchCreations[i]? = some c) (hp : c.matchData.players[k]? = some p) :
      MainEffect s (.giveUp i k) (.next now) (s.pushQueue c.matchData.type p) (.giveUp i (k + 1)) []
  | erase {i k : Nat} {now : ClockReading} {c : PendingMatchCreation}
      (hc : s.pendingMatchCreations[i]? = some c) (hp : c.matchData.players[k]? = none) :
      MainEffect s (.giveUp i k) (.next now)
        { s with pendingMatchCreations := s.pendingMatchCreations.eraseIdx i } (.creationAt i) []

/-- **Every call of the main thread that goes well has one of the listed
results.** -/
theorem mainEffect_of_call {s s' : MatchmakingServer} {p p' : MainPoint} {l : MainCall}
    {out : List Datagram} (h : s.mainCall p l = .ok (s', p', out)) : MainEffect s p l s' p' out := by
  cases l with
  | processMatchmaking t =>
    simp only [mainCall, Except.ok.injEq, Prod.mk.injEq] at h
    obtain ⟨rfl, rfl, rfl⟩ := h
    by_cases hp : p = .idle
    · subst hp
      exact .enterPairing
    · rw [if_neg hp]
      exact .busy
  | processMatchCreations =>
    simp only [mainCall, Except.ok.injEq, Prod.mk.injEq] at h
    obtain ⟨rfl, rfl, rfl⟩ := h
    by_cases hp : p = .idle
    · subst hp
      exact .enterCreations
    · rw [if_neg hp]
      exact .busy
  | next now =>
    simp only [mainCall] at h
    cases p with
    | idle => cases h; exact .busy
    | pairSize t =>
      simp only [mainNext, Except.ok.injEq, Prod.mk.injEq] at h
      obtain ⟨rfl, rfl, rfl⟩ := h
      by_cases hsize : s.playersPerMatch.val.toNat ≤ (s.queueOf t).length
      · rw [if_pos hsize]
        exact .enough hsize
      · rw [if_neg hsize]
        exact .tooFew
    | pairFront t players =>
      simp only [mainNext] at h
      split at h
      · cases h
      · rename_i heq
        cases h
        exact .front (by rw [heq]; rfl)
    | pairPop t players info =>
      simp only [mainNext] at h
      split at h
      · cases h
      · rename_i heq
        simp only [List.length_append, List.length_singleton, Except.ok.injEq,
          Prod.mk.injEq] at h
        obtain ⟨rfl, rfl, rfl⟩ := h
        exact .pop heq
    | pairPush t players => cases h; exact .push
    | creationAt i =>
      simp only [mainNext] at h
      split at h
      · split at h
        · cases h; exact .last
        · cases h
      · rename_i c hc
        split at h
        · cases h; exact .wait (List.getElem?_eq_some_iff.1 hc).1
        · cases h; exact .startGiveUp hc ‹_›
        · cases h; exact .retry hc
    | giveUp i k =>
      simp only [mainNext] at h
      split at h
      · cases h
      · rename_i c hc
        split at h
        · rename_i q hq
          cases h
          exact .requeue hc hq
        · cases h; exact .erase hc ‹_›

theorem mainHolds_step {s s' : MatchmakingServer} {p p' : MainPoint} {l : MainCall}
    {out : List Datagram} (hs : s.MainHolds p) (h : s.mainCall p l = .ok (s', p', out)) :
    s'.MainHolds p' := by
  cases mainEffect_of_call h with
  | busy => exact hs
  | enterPairing => trivial
  | enterCreations => exact Nat.zero_le _
  | enough hsize =>
    have hpos := s.playersPerMatch.property
    exact ⟨by simpa [UInt32.lt_iff_toNat_lt] using hpos, by simpa using hsize⟩
  | tooFew => trivial
  | front hhead => exact ⟨hs.1, hs.2, hhead⟩
  | @pop t now players queue info first hqueue =>
    obtain ⟨hlt, hle, -⟩ := hs
    by_cases hmore : players.length + 1 < s.playersPerMatch.val.toNat
    · rw [if_pos hmore]
      rw [hqueue, List.length_cons] at hle
      refine ⟨by simpa using hmore, ?_⟩
      rw [setQueue_playersPerMatch, queueOf_setQueue, List.length_append, List.length_singleton]
      omega
    · rw [if_neg hmore]
      trivial
  | push => trivial
  | last => trivial
  | wait hi => exact hi
  | startGiveUp hc _ => exact ⟨_, hc, Nat.zero_le _⟩
  | @retry i now c hc =>
    simpa [MainHolds, Nat.succ_le_iff] using (List.getElem?_eq_some_iff.1 hc).1
  | @requeue i k now c p hc hp =>
    exact ⟨c, by simpa using hc, (List.getElem?_eq_some_iff.1 hp).1⟩
  | @erase i k now c hc hp =>
    have hi := (List.getElem?_eq_some_iff.1 hc).1
    simp only [MainHolds, List.length_eraseIdx, hi, if_true]
    omega

/-- What the main thread relies on is all its assertion speaks of. -/
theorem mainHolds_of_stable {s s' : MatchmakingServer} {p : MainPoint}
    (hstable : ∀ y ∈ mainRelies p, Stable y s s') (hs : s.MainHolds p) : s'.MainHolds p := by
  have hqueued : ∀ t, .queued t ∈ mainRelies p →
      s'.playersPerMatch = s.playersPerMatch ∧ s.queueOf t <+: s'.queueOf t :=
    fun t ht => hstable _ ht
  have hrosters : .rosters ∈ mainRelies p →
      s'.pendingMatchCreations.map PendingMatchCreation.roster
        = s.pendingMatchCreations.map PendingMatchCreation.roster :=
    fun ht => (hstable _ ht).2
  cases p with
  | idle => trivial
  | pairSize => trivial
  | pairPush => trivial
  | pairFront t players =>
    obtain ⟨hper, queue, hpush⟩ := hqueued t (by simp [mainRelies])
    obtain ⟨hlt, hle⟩ := hs
    simp only [MainHolds, hper, ← hpush, List.length_append]
    omega
  | pairPop t players info =>
    obtain ⟨hper, queue, hpush⟩ := hqueued t (by simp [mainRelies])
    obtain ⟨hlt, hle, hhead⟩ := hs
    simp only [MainHolds, hper, ← hpush, List.length_append]
    refine ⟨hlt, by omega, ?_⟩
    simp [List.head?_append, hhead]
  | creationAt i =>
    have hlen := length_of_map_eq (hrosters (by simp [mainRelies]))
    simpa only [MainHolds, hlen] using hs
  | giveUp i k =>
    obtain ⟨c, hc, hk⟩ := hs
    obtain ⟨c', hc', heq⟩ := exists_of_map_eq (hrosters (by simp [mainRelies])) hc
    have hplayers : c'.matchData.players = c.matchData.players := congrArg Prod.snd heq
    exact ⟨c', hc', hplayers ▸ hk⟩

/-- **A call of the main thread upsets no more than its changes say.** -/
theorem stable_of_mainCall {s s' : MatchmakingServer} {p p' : MainPoint} {l : MainCall}
    {out : List Datagram} (h : s.mainCall p l = .ok (s', p', out)) {y : Reliance}
    (hy : ∀ x ∈ s.mainDoes p l, ¬ Conflict x y) : Stable y s s' := by
  cases mainEffect_of_call h with
  | pop => exact stable_take (hy _ (by simp [mainDoes]))
  | push =>
    exact stable_of_not_upset rfl (fun t => by cases t <;> rfl) (hy _ (by simp [mainDoes]))
  | retry hc =>
    exact stable_creations rfl (fun t => by cases t <;> rfl) (fun _ => map_set_same _ hc rfl)
      (fun _ => map_set_same _ hc rfl)
  | requeue hc hq =>
    have hk := (List.getElem?_eq_some_iff.1 hq).1
    exact stable_pushQueue (hy _ (by simp [mainDoes, hc, hk]))
  | erase hc hp =>
    have hk := Nat.not_lt.2 (List.getElem?_eq_none_iff.1 hp)
    exact stable_of_not_upset rfl (fun t => by cases t <;> rfl)
      (hy _ (by simp [mainDoes, hc, hk]))
  | busy => exact stable_refl y s
  | enterPairing => exact stable_refl y s
  | enterCreations => exact stable_refl y s
  | enough => exact stable_refl y s
  | tooFew => exact stable_refl y s
  | front => exact stable_refl y s
  | last => exact stable_refl y s
  | wait => exact stable_refl y s
  | startGiveUp => exact stable_refl y s

/-- The proof outline of the main thread. -/
def mainOutline : Outline mainThread Conflict Stable where
  holds := MainHolds
  step := mainHolds_step
  frame := mainHolds_of_stable
  agrees h _ hy := stable_of_mainCall h hy

/-! ## The dispatcher's thread -/

/-- The results of the dispatcher's calls, one case for each. -/
inductive DispatcherEffect (s : MatchmakingServer) : DispatcherPoint → DispatcherCall →
    MatchmakingServer → DispatcherPoint → List Datagram → Prop
  /-- It is told to take a job while it handles one. -/
  | busy {p : DispatcherPoint} {job : RawPacketJob} : DispatcherEffect s p (.take job) s p []
  | rest {now : Nat → Micros} : DispatcherEffect s .idle (.next now) s .idle []
  | enter {job : RawPacketJob} {p : DispatcherPoint} (h : enterHandler job = .ok p) :
      DispatcherEffect s .idle (.take job) s p []
  | find {t : MatchType} {p : ClientMatchInfo} {now : Nat → Micros} :
      DispatcherEffect s (.findPush t p) (.next now) (s.pushQueue t p) .idle
        [sendDatagram .urgent .searchAck [] p.ip p.port]
  | drained {e : Endpoint} {t : MatchType} {temp : List ClientMatchInfo} {now : Nat → Micros}
      (h : s.queueOf t = []) :
      DispatcherEffect s (.cancelEmpty e t temp) (.next now) s (.cancelAssign e t temp) []
  | more {e : Endpoint} {t : MatchType} {temp : List ClientMatchInfo} {now : Nat → Micros}
      (h : s.queueOf t ≠ []) :
      DispatcherEffect s (.cancelEmpty e t temp) (.next now) s (.cancelFront e t temp) []
  | front {e : Endpoint} {t : MatchType} {temp : List ClientMatchInfo} {p : ClientMatchInfo}
      {now : Nat → Micros} (h : (s.queueOf t).head? = some p) :
      DispatcherEffect s (.cancelFront e t temp) (.next now) s (.cancelPop e t temp p) []
  | pop {e : Endpoint} {t : MatchType} {temp queue : List ClientMatchInfo}
      {p first : ClientMatchInfo} {now : Nat → Micros} (h : s.queueOf t = first :: queue) :
      DispatcherEffect s (.cancelPop e t temp p) (.next now) (s.setQueue t queue)
        (.cancelEmpty e t (if p.endpoint = e then temp else temp ++ [p])) []
  | assign {e : Endpoint} {t : MatchType} {temp : List ClientMatchInfo} {p : DispatcherPoint}
      {out : List Datagram} {now : Nat → Micros}
      (h : p = if t = .normal then .cancelEmpty e .ranked [] else .idle) :
      DispatcherEffect s (.cancelAssign e t temp) (.next now) (s.setQueue t temp) p out
  | notFound {content : Bytes} {j : Nat} {now : Nat → Micros} :
      DispatcherEffect s (.uniqueAt content j) (.next now) s .idle []
  | other {content : Bytes} {j : Nat} {now : Nat → Micros}
      (hj : j < s.pendingMatchCreations.length) :
      DispatcherEffect s (.uniqueAt content j) (.next now) s (.uniqueAt content (j + 1)) []
  | found {content : Bytes} {j : Nat} {now : Nat → Micros}
      (hj : j < s.pendingMatchCreations.length) :
      DispatcherEffect s (.uniqueAt content j) (.next now) s (.uniqueCreate j) []
  | create {j : Nat} {c : PendingMatchCreation} {now : Nat → Micros}
      (hc : s.pendingMatchCreations[j]? = some c) :
      DispatcherEffect s (.uniqueCreate j) (.next now)
        (s.createMatchSession now c.matchData).1 (.uniqueErase j c)
        (s.createMatchSession now c.matchData).2
  | erase {j : Nat} {c : PendingMatchCreation} {now : Nat → Micros} :
      DispatcherEffect s (.uniqueErase j c) (.next now)
        { s with pendingMatchCreations := s.pendingMatchCreations.eraseIdx j } .idle []
  | notFoundUsed {content : Bytes} {j : Nat} {now : Nat → Micros} :
      DispatcherEffect s (.usedAt content j) (.next now) s .idle []
  | otherUsed {content : Bytes} {j : Nat} {now : Nat → Micros}
      (hj : j < s.pendingMatchCreations.length) :
      DispatcherEffect s (.usedAt content j) (.next now) s (.usedAt content (j + 1)) []
  | rekey {content : Bytes} {j : Nat} {c : PendingMatchCreation} {now : Nat → Micros}
      (hc : s.pendingMatchCreations[j]? = some c) :
      DispatcherEffect s (.usedAt content j) (.next now)
        { s with
          lastMatchID := s.lastMatchID + 1
          pendingMatchCreations :=
            s.pendingMatchCreations.set j (rekey c (s.lastMatchID + 1) (now 0)) } .idle []

theorem endpoint_eq_iff {p : ClientMatchInfo} {e : Endpoint} :
    p.endpoint = e ↔ p.ip = e.1 ∧ p.port = e.2 := Prod.ext_iff

/-- **Every call of the dispatcher's thread that goes well has one of the listed
results.** -/
theorem dispatcherEffect_of_call {s s' : MatchmakingServer} {p p' : DispatcherPoint}
    {l : DispatcherCall} {out : List Datagram} (h : s.dispatcherCall p l = .ok (s', p', out)) :
    DispatcherEffect s p l s' p' out := by
  cases l with
  | take job =>
    rw [dispatcherCall] at h
    by_cases hp : p = .idle
    · rw [if_pos hp] at h
      cases hq : enterHandler job with
      | error e => simp [hq, Except.map] at h
      | ok q =>
        simp only [hq, Except.map, Except.ok.injEq, Prod.mk.injEq] at h
        obtain ⟨rfl, rfl, rfl⟩ := h
        exact hp ▸ .enter hq
    · rw [if_neg hp] at h
      cases h
      exact .busy
  | next now =>
    simp only [dispatcherCall] at h
    cases p with
    | idle => cases h; exact .rest
    | findPush t p => cases h; exact .find
    | cancelEmpty e t temp =>
      simp only [dispatcherNext, Except.ok.injEq, Prod.mk.injEq] at h
      obtain ⟨rfl, rfl, rfl⟩ := h
      by_cases hq : s.queueOf t = []
      · rw [if_pos hq]
        exact .drained hq
      · rw [if_neg hq]
        exact .more hq
    | cancelFront e t temp =>
      simp only [dispatcherNext] at h
      split at h
      · cases h
      · rename_i heq
        cases h
        exact .front (by rw [heq]; rfl)
    | cancelPop e t temp p =>
      simp only [dispatcherNext, ← endpoint_eq_iff] at h
      split at h
      · cases h
      · rename_i heq
        cases h
        exact .pop heq
    | cancelAssign e t temp => cases t <;> cases h <;> exact .assign rfl
    | uniqueAt content j =>
      simp only [dispatcherNext] at h
      split at h
      · split at h
        · cases h; exact .notFound
        · cases h
      · rename_i c hc
        have hj := (List.getElem?_eq_some_iff.1 hc).1
        split at h
        · cases h
        · simp only [Except.ok.injEq, Prod.mk.injEq] at h
          obtain ⟨rfl, rfl, rfl⟩ := h
          split
          · exact .found hj
          · exact .other hj
    | uniqueCreate j =>
      simp only [dispatcherNext] at h
      split at h
      · cases h
      · cases h; exact .create ‹_›
    | uniqueErase j c =>
      simp only [dispatcherNext] at h
      split at h
      · cases h; exact .erase
      · cases h
    | usedAt content j =>
      simp only [dispatcherNext] at h
      split at h
      · split at h
        · cases h; exact .notFoundUsed
        · cases h
      · rename_i c hc
        split at h
        · cases h
        · split at h
          · cases h; exact .rekey hc
          · cases h; exact .otherUsed (List.getElem?_eq_some_iff.1 hc).1

/-- Where a handler starts. -/
theorem enterHandler_cases {job : RawPacketJob} {p : DispatcherPoint}
    (h : enterHandler job = .ok p) :
    p = .idle ∨ (∃ t c, p = .findPush t c) ∨ (∃ e, p = .cancelEmpty e .normal []) ∨
      p = .uniqueAt job.content 0 ∨ p = .usedAt job.content 0 := by
  simp only [enterHandler] at h
  split at h
  · split_ifs at h
    · split at h
      · cases h
      · cases h; exact .inr (.inl ⟨_, _, rfl⟩)
    · split at h
      · cases h
      · cases h; exact .inr (.inl ⟨_, _, rfl⟩)
    · cases h; exact .inl rfl
  · split at h
    · cases h
    · cases h; exact .inr (.inr (.inl ⟨_, rfl⟩))
  · cases h; exact .inr (.inr (.inr (.inl rfl)))
  · cases h; exact .inr (.inr (.inr (.inr rfl)))
  · cases h; exact .inl rfl

/-- A handler starts where its assertion holds of every state. -/
theorem dispatcherHolds_enterHandler {job : RawPacketJob} {p : DispatcherPoint}
    (h : enterHandler job = .ok p) (s : MatchmakingServer) : s.DispatcherHolds p := by
  rcases enterHandler_cases h with rfl | ⟨t, c, rfl⟩ | ⟨e, rfl⟩ | rfl | rfl
  · trivial
  · trivial
  · trivial
  · exact Nat.zero_le _
  · exact Nat.zero_le _

theorem dispatcherHolds_step {s s' : MatchmakingServer} {p p' : DispatcherPoint}
    {l : DispatcherCall} {out : List Datagram} (hs : s.DispatcherHolds p)
    (h : s.dispatcherCall p l = .ok (s', p', out)) : s'.DispatcherHolds p' := by
  cases dispatcherEffect_of_call h with
  | busy => exact hs
  | rest => trivial
  | enter hjob => exact dispatcherHolds_enterHandler hjob s
  | find => trivial
  | drained hq => exact hq
  | more hq => exact hq
  | front hhead => exact hhead
  | pop => trivial
  | assign hp =>
    subst hp
    split <;> trivial
  | notFound => trivial
  | notFoundUsed => trivial
  | other hj => exact hj
  | found hj => exact hj
  | create hc => exact ⟨_, hc, rfl⟩
  | erase => trivial
  | otherUsed hj => exact hj
  | rekey => trivial

/-- What the dispatcher's thread relies on is all its assertion speaks of. -/
theorem dispatcherHolds_of_stable {s s' : MatchmakingServer} {q : DispatcherPoint}
    (hstable : ∀ y ∈ dispatcherRelies q, Stable y s s') (hs : s.DispatcherHolds q) :
    s'.DispatcherHolds q := by
  have hqueued : ∀ t, .queued t ∈ dispatcherRelies q → s.queueOf t <+: s'.queueOf t :=
    fun t ht => (hstable _ ht).2
  have hdrained : ∀ t, .drained t ∈ dispatcherRelies q → s'.queueOf t = s.queueOf t :=
    fun t ht => (hstable _ ht).2
  have hdata : .matchData ∈ dispatcherRelies q →
      s'.pendingMatchCreations.map PendingMatchCreation.matchData
        = s.pendingMatchCreations.map PendingMatchCreation.matchData :=
    fun ht => (hstable _ ht).2
  have hlen : .matchData ∈ dispatcherRelies q →
      s'.pendingMatchCreations.length = s.pendingMatchCreations.length :=
    fun ht => length_of_map_eq (hdata ht)
  cases q with
  | idle => trivial
  | findPush => trivial
  | cancelEmpty => trivial
  | cancelFront e t temp =>
    intro hnil
    have hprefix := hqueued t (by simp [dispatcherRelies])
    exact hs (List.prefix_nil.1 (hnil ▸ hprefix))
  | cancelPop e t temp p =>
    obtain ⟨queue, hpush⟩ := hqueued t (by simp [dispatcherRelies])
    have hhead : (s.queueOf t).head? = some p := hs
    simp [DispatcherHolds, ← hpush, List.head?_append, hhead]
  | cancelAssign e t temp => exact (hdrained t (by simp [dispatcherRelies])).trans hs
  | uniqueAt content j => exact le_of_le_of_eq hs (hlen (by simp [dispatcherRelies])).symm
  | uniqueCreate j => exact lt_of_lt_of_eq hs (hlen (by simp [dispatcherRelies])).symm
  | usedAt content j => exact le_of_le_of_eq hs (hlen (by simp [dispatcherRelies])).symm
  | uniqueErase j c =>
    obtain ⟨c₁, hc₁, heq₁⟩ := hs
    obtain ⟨c₂, hc₂, heq₂⟩ := exists_of_map_eq (hdata (by simp [dispatcherRelies])) hc₁
    exact ⟨c₂, hc₂, heq₂.trans heq₁⟩

/-- **A call of the dispatcher's thread upsets no more than its changes say.** -/
theorem stable_of_dispatcherCall {s s' : MatchmakingServer} {q q' : DispatcherPoint}
    {l : DispatcherCall} {out : List Datagram} (h : s.dispatcherCall q l = .ok (s', q', out))
    {y : Reliance} (hy : ∀ x ∈ s.dispatcherDoes q l, ¬ Conflict x y) : Stable y s s' := by
  cases dispatcherEffect_of_call h with
  | find => exact stable_pushQueue (hy _ (by simp [dispatcherDoes]))
  | pop => exact stable_take (hy _ (by simp [dispatcherDoes]))
  | assign => exact stable_take (hy _ (by simp [dispatcherDoes]))
  | create => exact stable_creations rfl (fun t => by cases t <;> rfl) (fun _ => rfl) fun _ => rfl
  | erase =>
    exact stable_of_not_upset rfl (fun t => by cases t <;> rfl) (hy _ (by simp [dispatcherDoes]))
  | rekey hc =>
    have hrekey : y ≠ .matchData := by
      simpa [Conflict, Change.upsets] using hy .rekey (by simp [dispatcherDoes])
    exact stable_creations rfl (fun t => by cases t <;> rfl) (fun _ => map_set_same _ hc rfl)
      fun h => absurd h hrekey
  | busy => exact stable_refl y s
  | rest => exact stable_refl y s
  | enter => exact stable_refl y s
  | drained => exact stable_refl y s
  | more => exact stable_refl y s
  | front => exact stable_refl y s
  | notFound => exact stable_refl y s
  | notFoundUsed => exact stable_refl y s
  | other => exact stable_refl y s
  | found => exact stable_refl y s
  | otherUsed => exact stable_refl y s

/-- The proof outline of the dispatcher's thread. -/
def dispatcherOutline : Outline dispatcherThread Conflict Stable where
  holds := DispatcherHolds
  step := dispatcherHolds_step
  frame := dispatcherHolds_of_stable
  agrees h _ hy := stable_of_dispatcherCall h hy

/-! ## Both -/

/-- No creation is given up while one is confirmed and not erased yet. -/
def OneOpen (v : ThreadState) : Prop :=
  ∀ i k j c, v.first = .giveUp i k → v.second ≠ .uniqueErase j c

/-- The main thread is giving up a creation because it was, or because it starts
to. -/
theorem giveUp_of_call {s s' : MatchmakingServer} {p : MainPoint} {l : MainCall} {i k : Nat}
    {out : List Datagram} (h : s.mainCall p l = .ok (s', .giveUp i k, out)) :
    (∃ k', p = .giveUp i k') ∨ .creations ∈ s.mainDoes p l := by
  generalize hp : MainPoint.giveUp i k = p' at h
  cases mainEffect_of_call h with
  | busy => exact .inl ⟨k, hp.symm⟩
  | startGiveUp hc hout => exact .inr (by simp [mainDoes, hc, hout])
  | requeue =>
    cases hp
    exact .inl ⟨_, rfl⟩
  | pop => split at hp <;> cases hp
  | _ => cases hp

/-- The dispatcher's thread is about to erase a creation because it was, or
because it has just confirmed it. -/
theorem uniqueErase_of_call {s s' : MatchmakingServer} {q : DispatcherPoint} {l : DispatcherCall}
    {j : Nat} {c : PendingMatchCreation} {out : List Datagram}
    (h : s.dispatcherCall q l = .ok (s', .uniqueErase j c, out)) :
    q = .uniqueErase j c ∨ .creations ∈ s.dispatcherDoes q l := by
  generalize hq : DispatcherPoint.uniqueErase j c = q' at h
  cases dispatcherEffect_of_call h with
  | busy => exact .inl rfl
  | create => exact .inr (by simp [dispatcherDoes])
  | enter hjob =>
    subst hq
    simpa using enterHandler_cases hjob
  | assign hassign =>
    subst hq
    split at hassign <;> cases hassign
  | _ => cases hq

/-- Neither starts while the other is under way. -/
theorem oneOpen_step {v v' : ThreadState} {l : MainCall ⊕ DispatcherCall} {out : List Datagram}
    (hv : OneOpen v) (hclear : Undisturbed v l) (h : threads.step v l = .ok (v', out)) :
    OneOpen v' := by
  intro i k j c hfirst hsecond
  cases Interleaving.effect_of_step h with
  | first hcall =>
    simp only at hfirst hsecond
    subst hfirst
    rcases giveUp_of_call hcall with ⟨k', hp⟩ | hdoes
    · exact hv i k' j c hp hsecond
    · refine hclear _ hdoes .matchData ?_ (by decide)
      simp [hsecond, dispatcherThread, dispatcherRelies]
  | second hcall =>
    simp only at hfirst hsecond
    subst hsecond
    rcases uniqueErase_of_call hcall with hq | hdoes
    · exact hv i k j c hfirst hq
    · refine hclear _ hdoes .rosters ?_ (by decide)
      simp [hfirst, mainThread, mainRelies]

/-- What holds of both threads in an undisturbed run. -/
structure ThreadsHold (v : ThreadState) : Prop where
  outlines : Interleaving.Holds mainOutline dispatcherOutline v
  oneOpen : OneOpen v

/-- **In an undisturbed run each thread finds what it relies on**, at the end and
before each call. -/
theorem undisturbed_holds {h : List (Transition ThreadState (MainCall ⊕ DispatcherCall)
    (List Datagram))} {v : ThreadState} (hr : threads.Run threadsInitial h v)
    (hclear : ∀ t ∈ h, Undisturbed t.pre t.label) :
    ThreadsHold v ∧ ∀ t ∈ h, ThreadsHold t.pre := by
  have hopen : OneOpen threadsInitial := by
    intro i k j c hfirst
    simp [threadsInitial] at hfirst
  have hstart : Interleaving.Holds mainOutline dispatcherOutline threadsInitial :=
    ⟨trivial, trivial⟩
  obtain ⟨hv, hpre⟩ := Interleaving.outlines_hold hr hclear hstart
  obtain ⟨hv', hpre'⟩ := hr.invariant_of_mem hopen (fun _ _ _ _ => oneOpen_step) hclear
  exact ⟨⟨hv, hv'⟩, fun t ht => ⟨hpre t ht, hpre' t ht⟩⟩

end MatchmakingServer

end ServiceServer
