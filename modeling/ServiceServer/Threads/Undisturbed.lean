import ServiceServer.Threads.Outlines
import ServiceServer.Matchmaking.Entries

/-!
# What undisturbed threads do not lose

The entries of the service are counted once more, now with the ones a thread
holds in its local variables between two calls.

* `heldEntries` — every entry, wherever it is between two calls.
* `balance_step` — an undisturbed call balances.
* `undisturbed_keeps` — in an undisturbed run no `front` or `pop` meets an empty
  queue, no player is overwritten, the creation that is confirmed is the one that
  is erased, and every search stands in exactly one place.
* `disturbed_loses` — a disturbed run breaks each of these.
-/

namespace ServiceServer

open Lib

namespace MatchmakingServer

/-! ## Where the entries are between two calls -/

/-- The entries the main thread has taken out of a queue. -/
def mainEntries : MainPoint → Multiset Entry
  | .pairFront t players | .pairPop t players _ | .pairPush t players => entriesOf t players
  | _ => 0

/-- The entries the dispatcher's thread has taken out of a queue. -/
def dispatcherEntries : DispatcherPoint → Multiset Entry
  | .cancelEmpty _ t temp | .cancelFront _ t temp | .cancelPop _ t temp _
  | .cancelAssign _ t temp => entriesOf t temp
  | _ => 0

/-- The creation the main thread is giving up, and those of its entries that it
has not pushed back yet. -/
def mainOpened (cs : List PendingMatchCreation) : MainPoint → Option (Nat × Multiset Entry)
  | .giveUp i k =>
    some (i, match cs[i]? with
      | none => 0
      | some c => entriesOf c.matchData.type (c.matchData.players.drop k))
  | _ => none

/-- The creation the dispatcher's thread has confirmed and not erased yet; its
entries are in the new session. -/
def dispatcherOpened : DispatcherPoint → Option (Nat × Multiset Entry)
  | .uniqueErase j _ => some (j, 0)
  | _ => none

/-- The entries in the creations; of the opened one, those that are left. -/
def heldByCreations (cs : List PendingMatchCreation) : Option (Nat × Multiset Entry) → Multiset Entry
  | none => (cs.map PendingMatchCreation.entries).sum
  | some (i, rest) => ((cs.eraseIdx i).map PendingMatchCreation.entries).sum + rest

/-- Every entry, wherever it is. -/
def heldEntries (v : ThreadState) : Multiset Entry :=
  v.shared.queuedEntries
    + heldByCreations v.shared.pendingMatchCreations
        (mainOpened v.shared.pendingMatchCreations v.first <|> dispatcherOpened v.second)
    + v.shared.sessionEntries + mainEntries v.first + dispatcherEntries v.second

/-- The entry a call pushes for a search. -/
def threadPushed (v : ThreadState) : MainCall ⊕ DispatcherCall → Multiset Entry
  | .inr (.next _) =>
    match v.second with
    | .findPush t p => {(p.endpoint, t)}
    | _ => 0
  | _ => 0

/-- The entry a call takes out because its own endpoint cancels. -/
def threadCancelled (v : ThreadState) : MainCall ⊕ DispatcherCall → Multiset Entry
  | .inr (.next _) =>
    match v.second with
    | .cancelPop e t _ p => if p.endpoint = e then {(e, t)} else 0
    | _ => 0
  | _ => 0

/-! ## Positions in a list -/

theorem sum_eraseIdx {α A : Type*} [AddCommMonoid A] (f : α → A) {l : List α} {i : Nat} {a : α}
    (ha : l[i]? = some a) : ((l.eraseIdx i).map f).sum + f a = (l.map f).sum := by
  obtain ⟨hi, rfl⟩ := List.getElem?_eq_some_iff.1 ha
  have hsplit : l.map f = (l.take i).map f ++ f l[i] :: (l.drop (i + 1)).map f := by
    rw [← List.map_cons, ← List.map_append, ← List.drop_eq_getElem_cons hi, List.take_append_drop]
  rw [hsplit, List.eraseIdx_eq_take_drop_succ, List.map_append, List.sum_append, List.sum_append,
    List.sum_cons]
  abel

/-! ## What is open -/

theorem dispatcherOpened_eq_none {q : DispatcherPoint}
    (h : Reliance.matchData ∉ dispatcherRelies q) : dispatcherOpened q = none := by
  cases q with
  | uniqueErase => simp [dispatcherRelies] at h
  | _ => rfl

theorem mainOpened_eq_none {p : MainPoint} (h : Reliance.rosters ∉ mainRelies p)
    (cs : List PendingMatchCreation) : mainOpened cs p = none := by
  cases p with
  | giveUp => simp [mainRelies] at h
  | _ => rfl

/-- Only the players of the creations are counted. -/
theorem heldByCreations_congr {cs cs' : List PendingMatchCreation}
    (h : cs'.map PendingMatchCreation.roster = cs.map PendingMatchCreation.roster)
    (opened : Option (Nat × Multiset Entry)) :
    heldByCreations cs' opened = heldByCreations cs opened := by
  have hentries : cs'.map PendingMatchCreation.entries = cs.map PendingMatchCreation.entries := by
    have hmap := congrArg (List.map fun r => entriesOf r.1 r.2) h
    rw [List.map_map, List.map_map] at hmap
    exact hmap
  cases opened with
  | none => exact congrArg List.sum hentries
  | some o => simp only [heldByCreations, ← List.eraseIdx_map, hentries]

theorem mainOpened_congr {cs cs' : List PendingMatchCreation}
    (h : cs'.map PendingMatchCreation.roster = cs.map PendingMatchCreation.roster) (p : MainPoint) :
    mainOpened cs' p = mainOpened cs p := by
  cases p with
  | giveUp i k =>
    cases hc : cs[i]? with
    | none =>
      have hc' : cs'[i]? = none := by
        rw [List.getElem?_eq_none_iff] at hc ⊢
        rwa [length_of_map_eq h]
      simp only [mainOpened, hc, hc']
    | some c =>
      obtain ⟨c', hc', hroster⟩ := exists_of_map_eq h hc
      obtain ⟨htype, hplayers⟩ := Prod.ext_iff.1 hroster
      simp only [PendingMatchCreation.roster] at htype hplayers
      simp only [mainOpened, hc, hc', htype, hplayers]
  | _ => rfl

theorem queuedEntries_pop {s : MatchmakingServer} {t : MatchType} {p : ClientMatchInfo}
    {queue : List ClientMatchInfo} (h : s.queueOf t = p :: queue) :
    (s.setQueue t queue).queuedEntries + {(p.endpoint, t)} = s.queuedEntries := by
  have hset := s.queuedEntries_setQueue t queue
  have hcons : entriesOf t (p :: queue) = {(p.endpoint, t)} + entriesOf t queue := by
    rw [← List.singleton_append, entriesOf_append]
    rfl
  rw [h, hcons, ← add_assoc] at hset
  exact add_right_cancel hset

/-! ## Every undisturbed call balances -/

/-- The main thread moves entries and neither lets any in nor out. -/
theorem main_balance {v : ThreadState} (hv : ThreadsHold v) {l : MainCall}
    (hclear : Undisturbed v (.inl l)) {s' : MatchmakingServer} {p' : MainPoint}
    {out : List Datagram} (h : v.shared.mainCall v.first l = .ok (s', p', out)) :
    heldEntries { v with shared := s', first := p' } = heldEntries v := by
  obtain ⟨s, p, q⟩ := v
  have hmain : s.MainHolds p := hv.outlines.first
  have hclosed : .creations ∈ s.mainDoes p l → dispatcherOpened q = none := by
    intro hdoes
    exact dispatcherOpened_eq_none fun hq => hclear _ hdoes _ hq (by decide)
  have heff := mainEffect_of_call h
  simp only [heldEntries]
  cases heff with
  | busy => rfl
  | enterPairing => rfl
  | enterCreations => rfl
  | enough => rfl
  | tooFew => rfl
  | front => rfl
  | last => rfl
  | wait => rfl
  | @pop t now players queue info first hqueue =>
    obtain ⟨-, -, hhead⟩ := hmain
    obtain rfl : first = info := by simpa [hqueue] using hhead
    have htaken : entriesOf t (players ++ [{ first with playerID := UInt32.ofNat players.length }])
        = entriesOf t players + {(first.endpoint, t)} := entriesOf_append t players _
    rw [← queuedEntries_pop hqueue]
    have hsessions : (s.setQueue t queue).sessionEntries = s.sessionEntries := by
      simp [sessionEntries]
    rw [setQueue_pendingMatchCreations, hsessions]
    split
    · simp only [mainEntries, mainOpened, htaken]
      abel
    · simp only [mainEntries, mainOpened, htaken]
      abel
  | @push t now players =>
    have hnone : dispatcherOpened q = none := hclosed (by simp [mainDoes])
    have hformed : (s.formCreation t now.atRestart players).entries = entriesOf t players := rfl
    simp only [mainEntries, mainOpened, hnone, heldByCreations, Option.orElse_none, hformed,
      List.map_append, List.map_cons, List.map_nil, List.sum_append, List.sum_cons, List.sum_nil,
      queuedEntries, sessionEntries, Option.orElse_eq_orElse]
    abel
  | startGiveUp hc hout =>
    have hsum := sum_eraseIdx PendingMatchCreation.entries hc
    have hnone : dispatcherOpened q = none := hclosed (by simp [mainDoes, hc, hout])
    simp only [mainEntries, mainOpened, hnone, hc, List.drop_zero]
    exact congrArg (fun m => _ + m + _ + _ + _) hsum
  | @retry i now c hc =>
    have hroster := map_set_same PendingMatchCreation.roster hc (b :=
      { c with timer := ⟨now.atRestart⟩, attempts := c.attempts + 1 }) rfl
    simp only [mainEntries, mainOpened, heldByCreations_congr hroster, queuedEntries,
      sessionEntries]
  | @requeue i k now c p hc hp =>
    have hdrop : entriesOf c.matchData.type (c.matchData.players.drop k)
        = {(p.endpoint, c.matchData.type)}
          + entriesOf c.matchData.type (c.matchData.players.drop (k + 1)) := by
      obtain ⟨hk, rfl⟩ := List.getElem?_eq_some_iff.1 hp
      rw [List.drop_eq_getElem_cons hk, ← List.singleton_append, entriesOf_append]
      rfl
    have hsessions : (s.pushQueue c.matchData.type p).sessionEntries = s.sessionEntries := by
      simp [sessionEntries]
    rw [queuedEntries_pushQueue, hsessions, pushQueue_pendingMatchCreations]
    simp only [mainEntries, mainOpened, hc, hdrop, heldByCreations, Option.orElse_eq_orElse,
      Option.orElse_some]
    abel
  | @erase i k now c hc hp =>
    have hnil : c.matchData.players.drop k = [] :=
      List.drop_eq_nil_of_le (List.getElem?_eq_none_iff.1 hp)
    have hk := Nat.not_lt.2 (List.getElem?_eq_none_iff.1 hp)
    have hnone : dispatcherOpened q = none := hclosed (by simp [mainDoes, hc, hk])
    simp only [mainEntries, mainOpened, hnone, hc, hnil, heldByCreations,
      Option.orElse_eq_orElse, Option.orElse_some, Option.orElse_none, entriesOf, List.map_nil,
      Multiset.coe_nil, queuedEntries, sessionEntries]
    abel

/-- A handler starts with nothing taken and nothing confirmed. -/
theorem entries_enterHandler {job : RawPacketJob} {q : DispatcherPoint}
    (h : enterHandler job = .ok q) : dispatcherEntries q = 0 ∧ dispatcherOpened q = none := by
  rcases enterHandler_cases h with rfl | ⟨t, c, rfl⟩ | ⟨e, rfl⟩ | rfl | rfl <;>
    exact ⟨rfl, rfl⟩

/-- The dispatcher's thread lets in the searches and out the cancelled ones. -/
theorem dispatcher_balance {v : ThreadState} (hv : ThreadsHold v) {l : DispatcherCall}
    (hclear : Undisturbed v (.inr l)) {s' : MatchmakingServer} {q' : DispatcherPoint}
    {out : List Datagram} (h : v.shared.dispatcherCall v.second l = .ok (s', q', out)) :
    heldEntries { v with shared := s', second := q' } + threadCancelled v (.inr l)
      = heldEntries v + threadPushed v (.inr l) := by
  obtain ⟨s, p, q⟩ := v
  have hdispatcher : s.DispatcherHolds q := hv.outlines.second
  have hclosed : .creations ∈ s.dispatcherDoes q l → ∀ cs, mainOpened cs p = none := by
    intro hdoes cs
    exact mainOpened_eq_none (fun hp => hclear _ hdoes _ hp (by decide)) cs
  simp only [heldEntries]
  cases dispatcherEffect_of_call h with
  | busy => simp [threadCancelled, threadPushed]
  | rest => simp [threadCancelled, threadPushed]
  | enter hjob =>
    obtain ⟨hentries, hopened⟩ := entries_enterHandler hjob
    rw [hentries, hopened]
    rfl
  | @find t c now =>
    rw [queuedEntries_pushQueue, show (s.pushQueue t c).sessionEntries = s.sessionEntries by
      simp [sessionEntries], pushQueue_pendingMatchCreations]
    simp only [threadCancelled, threadPushed, dispatcherEntries, dispatcherOpened]
    abel
  | drained => simp [threadCancelled, threadPushed, dispatcherEntries, dispatcherOpened]
  | more => simp [threadCancelled, threadPushed, dispatcherEntries, dispatcherOpened]
  | front => simp [threadCancelled, threadPushed, dispatcherEntries, dispatcherOpened]
  | @pop e t temp queue c first now hqueue =>
    obtain rfl : first = c := by simpa [DispatcherHolds, hqueue] using hdispatcher
    rw [← queuedEntries_pop hqueue, show (s.setQueue t queue).sessionEntries = s.sessionEntries by
      simp [sessionEntries], setQueue_pendingMatchCreations]
    simp only [threadCancelled, threadPushed, dispatcherEntries, dispatcherOpened]
    by_cases he : first.endpoint = e
    · rw [if_pos he, if_pos he, he]
      abel
    · have htemp : entriesOf t (temp ++ [first]) = entriesOf t temp + {(first.endpoint, t)} :=
        entriesOf_append t temp _
      rw [if_neg he, if_neg he, htemp]
      abel
  | @assign e t temp _ _ now hq =>
    have hset := s.queuedEntries_setQueue t temp
    have hempty : s.queueOf t = [] := hdispatcher
    have hdone : dispatcherEntries q' = 0 ∧ dispatcherOpened q' = none := by
      rw [hq]
      split <;> exact ⟨rfl, rfl⟩
    rw [hempty, show entriesOf t [] = 0 from rfl, add_zero] at hset
    rw [hset, show (s.setQueue t temp).sessionEntries = s.sessionEntries by
      simp [sessionEntries], setQueue_pendingMatchCreations, hdone.1, hdone.2]
    simp only [threadCancelled, threadPushed, dispatcherEntries, dispatcherOpened]
    abel
  | notFound => simp [threadCancelled, threadPushed, dispatcherEntries, dispatcherOpened]
  | notFoundUsed => simp [threadCancelled, threadPushed, dispatcherEntries, dispatcherOpened]
  | other => simp [threadCancelled, threadPushed, dispatcherEntries, dispatcherOpened]
  | otherUsed => simp [threadCancelled, threadPushed, dispatcherEntries, dispatcherOpened]
  | found => simp [threadCancelled, threadPushed, dispatcherEntries, dispatcherOpened]
  | @create j c now hc =>
    have hsum := sum_eraseIdx PendingMatchCreation.entries hc
    have hsession : MatchSession.entries ⟨sessionPlayers c.matchData now c.matchData.players⟩
        = c.entries := entries_sessionPlayers _ _ _
    simp only [createMatchSession, sessionEntries, List.map_append, List.map_cons, List.map_nil,
      List.sum_append, List.sum_cons, List.sum_nil, hsession, queuedEntries, threadCancelled,
      threadPushed, dispatcherEntries, dispatcherOpened, hclosed (by simp [dispatcherDoes]),
      Option.orElse_eq_orElse, Option.orElse_none, heldByCreations, ← hsum]
    abel
  | @erase j c now =>
    simp only [threadCancelled, threadPushed, dispatcherEntries, dispatcherOpened,
      hclosed (by simp [dispatcherDoes]), Option.orElse_eq_orElse, Option.orElse_none,
      heldByCreations, queuedEntries, sessionEntries, add_zero]
  | @rekey content j c now hc =>
    have hroster := map_set_same PendingMatchCreation.roster hc
      (b := rekey c (s.lastMatchID + 1) (now 0)) rfl
    simp only [threadCancelled, threadPushed, dispatcherEntries, dispatcherOpened,
      mainOpened_congr hroster, heldByCreations_congr hroster, queuedEntries, sessionEntries]

/-- **Every undisturbed call balances.** -/
theorem balance_step {v v' : ThreadState} {l : MainCall ⊕ DispatcherCall} {out : List Datagram}
    (hv : ThreadsHold v) (hclear : Undisturbed v l) (h : threads.step v l = .ok (v', out)) :
    heldEntries v' + threadCancelled v l = heldEntries v + threadPushed v l := by
  cases Interleaving.effect_of_step h with
  | first hcall =>
    rw [main_balance hv hclear hcall]
    rfl
  | second hcall => exact dispatcher_balance hv hclear hcall

/-! ## The threads in an undisturbed run -/

/-- A thread is about to call `front` or `pop` on the queue of this type. -/
def TakesFrom (v : ThreadState) (t : MatchType) : Prop :=
  (∃ players, v.first = .pairFront t players) ∨ (∃ players info, v.first = .pairPop t players info) ∨
    (∃ e temp, v.second = .cancelFront e t temp) ∨ ∃ e temp p, v.second = .cancelPop e t temp p

/-- What the two threads keep: no `front` or `pop` on an empty queue, no player
overwritten, and the creation that is erased holds the match that was confirmed
and is not given up meanwhile. -/
structure Keeps (v : ThreadState) : Prop where
  nonempty : ∀ t, TakesFrom v t → v.shared.queueOf t ≠ []
  drained : ∀ e t temp, v.second = .cancelAssign e t temp → v.shared.queueOf t = []
  confirmed : ∀ j c, v.second = .uniqueErase j c →
    (∃ c', v.shared.pendingMatchCreations[j]? = some c' ∧ c'.matchData = c.matchData) ∧
      ∀ i k, v.first ≠ .giveUp i k

theorem keeps_of_holds {v : ThreadState} (hv : ThreadsHold v) : Keeps v := by
  obtain ⟨s, p, q⟩ := v
  obtain ⟨⟨hmain, hdispatcher⟩, hopen⟩ := hv
  refine ⟨?_, ?_, ?_⟩
  · rintro t (⟨players, rfl⟩ | ⟨players, info, rfl⟩ | ⟨e, temp, rfl⟩ | ⟨e, temp, c, rfl⟩) hnil
    · have hle : _ ≤ players.length + (s.queueOf t).length := hmain.2
      have hlt : players.length < _ := hmain.1
      replace hnil : s.queueOf t = [] := hnil
      rw [hnil, List.length_nil] at hle
      omega
    · have hhead : (s.queueOf t).head? = some info := hmain.2.2
      simp [show s.queueOf t = [] from hnil] at hhead
    · exact hdispatcher hnil
    · have hhead : (s.queueOf t).head? = some c := hdispatcher
      simp [show s.queueOf t = [] from hnil] at hhead
  · rintro e t temp rfl
    exact hdispatcher
  · rintro j c rfl
    exact ⟨hdispatcher, fun i k hp => hopen i k j c hp rfl⟩

/-- **An undisturbed run loses nothing.**  If no call of the run upsets what the
other thread relies on, then in every state it reaches no `front` or `pop` is
about to meet an empty queue, no player is about to be overwritten, and the
creation about to be erased is the one that was confirmed; and every search that
was pushed stands in exactly one place or was cancelled: in a queue, a creation
or a session once both threads are idle. -/
theorem undisturbed_keeps
    {h : List (Transition ThreadState (MainCall ⊕ DispatcherCall) (List Datagram))} {v : ThreadState}
    (hr : threads.Run threadsInitial h v) (hclear : ∀ t ∈ h, Undisturbed t.pre t.label) :
    Keeps v ∧ (h.map fun t => threadPushed t.pre t.label).sum
        = heldEntries v + (h.map fun t => threadCancelled t.pre t.label).sum ∧
      (v.first = .idle → v.second = .idle → heldEntries v = v.shared.entries) := by
  obtain ⟨hv, hpre⟩ := undisturbed_holds hr hclear
  refine ⟨keeps_of_holds hv, ?_, ?_⟩
  · have hledger := hr.ledger heldEntries threadPushed threadCancelled
      fun t ht => balance_step (hpre t ht) (hclear t ht) (hr.step_of_mem ht)
    have hnone : heldEntries threadsInitial = 0 := rfl
    rwa [hnone, zero_add] at hledger
  · intro hfirst hsecond
    simp [heldEntries, hfirst, hsecond, mainEntries, dispatcherEntries, mainOpened,
      dispatcherOpened, heldByCreations, entries, creationEntries]

/-! ## Runs on fixed inputs -/

/-- The dispatcher's thread handles a job, with so many calls. -/
def handling (type : PacketType) (content : Bytes) (e : Endpoint) (calls : Nat) :
    List (MainCall ⊕ DispatcherCall) :=
  .inr (.take (jobOf type content e)) :: List.replicate calls (.inr (.next fun _ => 0))

/-- The main thread makes so many calls at a reading of the clock. -/
def mainCalls (now : Micros) (calls : Nat) : List (MainCall ⊕ DispatcherCall) :=
  List.replicate calls (.inl (.next ⟨now, now⟩))

/-- Two players search. -/
def twoSearch (ip ip' : IpAddress) : List (MainCall ⊕ DispatcherCall) :=
  handling .findMatch MatchType.normal.name (ip, 5000) 1 ++
    handling .findMatch MatchType.normal.name (ip', 5000) 1

/-- They are paired, with all the calls of a pass that forms one match. -/
def pairTwo (now : Micros) : List (MainCall ⊕ DispatcherCall) :=
  .inl (.processMatchmaking .normal) :: mainCalls now 7

/-- Five passes ask for the one match there is. -/
def askFiveTimes : List (MainCall ⊕ DispatcherCall) :=
  (List.range 5).flatMap fun k =>
    .inl .processMatchCreations :: mainCalls (500000 * (k + 1)) 2

/-- Two players search, a third does while the first two are taken out of the
queue, and the ID of their match is found used while the creations are walked. -/
theorem undisturbed_keeps_walked : ∃ h v, threads.Run threadsInitial h v ∧
    v.first = .creationAt 0 ∧ v.shared.normalQueue.length = 1 ∧
    v.shared.pendingMatchCreations.map (·.matchData.matchID) = [2] ∧ Keeps v ∧
    (h.map fun t => threadPushed t.pre t.label).sum
      = heldEntries v + (h.map fun t => threadCancelled t.pre t.label).sum := by
  obtain ⟨h, v, hr, hp⟩ := Machine.exists_run_of_exec (M := threads) (s := threadsInitial)
    (l := twoSearch ⟨10, 0, 0, 1⟩ ⟨10, 0, 0, 2⟩ ++
      .inl (.processMatchmaking .normal) :: mainCalls 0 1 ++
      handling .findMatch MatchType.normal.name (⟨10, 0, 0, 3⟩, 5000) 1 ++ mainCalls 0 6 ++
      .inl .processMatchCreations ::
      handling .matchUsed (decimal 1) (gameServerIP, gameServerPort) 1)
    (P := fun h v => (∀ t ∈ h, Undisturbed t.pre t.label) ∧ v.first = .creationAt 0 ∧
      v.shared.normalQueue.length = 1 ∧
      v.shared.pendingMatchCreations.map (·.matchData.matchID) = [2]) (by decide +kernel)
  obtain ⟨hkeeps, hbalance, -⟩ := undisturbed_keeps hr hp.1
  exact ⟨h, v, hr, hp.2.1, hp.2.2.1, hp.2.2.2, hkeeps, hbalance⟩

/-- **A disturbed run loses what it should keep.**  A cancel drains the queue
between the look at its size and the `front` of the main thread; the players of a
creation that is given up are pushed and then overwritten by a cancel that had
found the queue empty; a creation is given up between its confirmation and its
`erase`, so its players stand in a session and in a queue, and the players of
another one nowhere. -/
theorem disturbed_loses :
    (∃ h v now, threads.Run threadsInitial h v ∧ v.first = .pairFront .normal [] ∧
      v.shared.normalQueue = [] ∧ v.shared.mainNext now v.first = .error .frontOfEmpty) ∧
    (∃ h v, threads.Run threadsInitial h v ∧ v.first = .idle ∧ v.second = .idle ∧
      (h.map fun t => threadPushed t.pre t.label).sum ≠ 0 ∧
      (h.map fun t => threadCancelled t.pre t.label).sum = 0 ∧ v.shared.normalQueue = [] ∧
      v.shared.rankedQueue = [] ∧ v.shared.pendingMatchCreations = [] ∧
      v.shared.pendingSessions = []) ∧
    ∃ h v, threads.Run threadsInitial h v ∧ v.first = .idle ∧ v.second = .idle ∧
      (∃ p ∈ v.shared.normalQueue, ∃ session ∈ v.shared.pendingSessions,
        p ∈ session.players.map (·.player)) ∧
      v.shared.normalQueue.length = 2 ∧ v.shared.pendingMatchCreations = [] := by
  refine ⟨?_, ?_, ?_⟩
  · obtain ⟨h, v, hr, hp⟩ := Machine.exists_run_of_exec (M := threads) (s := threadsInitial)
      (l := twoSearch ⟨10, 0, 0, 1⟩ ⟨10, 0, 0, 2⟩ ++
        .inl (.processMatchmaking .normal) :: mainCalls 0 1 ++
        handling .cancelSearch [] (⟨10, 0, 0, 1⟩, 5000) 7)
      (P := fun _ v => v.first = .pairFront .normal [] ∧ v.shared.normalQueue = [])
      (by decide +kernel)
    obtain ⟨hfirst, hempty⟩ := hp
    refine ⟨h, v, ⟨0, 0⟩, hr, hfirst, hempty, ?_⟩
    rw [hfirst]
    simp [mainNext, queueOf, hempty]
  · obtain ⟨h, v, hr, hp⟩ := Machine.exists_run_of_exec (M := threads) (s := threadsInitial)
      (l := twoSearch ⟨10, 0, 0, 1⟩ ⟨10, 0, 0, 2⟩ ++ pairTwo 0 ++ askFiveTimes ++
        .inl .processMatchCreations :: mainCalls 3000000 1 ++
        handling .cancelSearch [] (⟨10, 0, 0, 9⟩, 5000) 1 ++ mainCalls 3000000 4 ++
        List.replicate 3 (.inr (.next fun _ => 0)))
      (P := fun h v => v.first = .idle ∧ v.second = .idle ∧
        (h.map fun t => threadPushed t.pre t.label).sum ≠ 0 ∧
        (h.map fun t => threadCancelled t.pre t.label).sum = 0 ∧ v.shared.normalQueue = [] ∧
        v.shared.rankedQueue = [] ∧ v.shared.pendingMatchCreations = [] ∧
        v.shared.pendingSessions = []) (by decide +kernel)
    exact ⟨h, v, hr, hp⟩
  · obtain ⟨h, v, hr, hp⟩ := Machine.exists_run_of_exec (M := threads) (s := threadsInitial)
      (l := twoSearch ⟨10, 0, 0, 1⟩ ⟨10, 0, 0, 2⟩ ++ pairTwo 0 ++ askFiveTimes ++
        twoSearch ⟨10, 0, 0, 3⟩ ⟨10, 0, 0, 4⟩ ++ pairTwo 2600000 ++
        handling .matchUnique (decimal 1) (gameServerIP, gameServerPort) 2 ++
        .inl .processMatchCreations :: mainCalls 3000000 6 ++
        List.replicate 1 (.inr (.next fun _ => 0)))
      (P := fun _ v => v.first = .idle ∧ v.second = .idle ∧
        (∃ p ∈ v.shared.normalQueue, ∃ session ∈ v.shared.pendingSessions,
          p ∈ session.players.map (·.player)) ∧
        v.shared.normalQueue.length = 2 ∧ v.shared.pendingMatchCreations = [])
      (by decide +kernel)
    exact ⟨h, v, hr, hp⟩

end MatchmakingServer

end ServiceServer
