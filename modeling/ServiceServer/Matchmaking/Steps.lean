import ServiceServer.Lib.Machine
import ServiceServer.MatchmakingServer

/-!
# The steps of the matchmaking service

Handler calls and passes are taken as indivisible steps of one machine.  This
file says, once for each of them, what it does: every later proof starts from
these lemmas and not from the loops.

* `searchLoop_ok`, `searchLoop_error_iff` — the loop of the two reply handlers:
  which creation it picks, and when it throws.
* `Effect`, `effect_of_step` — what a step does when it does not throw, one case
  for each way it can go.
-/

namespace ServiceServer

open Lib

namespace MatchmakingServer

/-- One indivisible step: a handler call, or a pass of the main loop. -/
inductive Step where
  | handle (now : Nat → Micros) (job : RawPacketJob)
  | processMatchmaking (t : MatchType) (now : Nat → Micros)
  | processMatchCreations (now : Nat → ClockReading)
  | processMatchSessionsACKS (now : Nat → Nat → ClockReading)

/-- What a step does. -/
def step (s : MatchmakingServer) : Step → HandlerResult
  | .handle now job => s.dispatch now job
  | .processMatchmaking t now => .ok (s.processMatchmaking t now, [])
  | .processMatchCreations now => .ok (s.processMatchCreations now)
  | .processMatchSessionsACKS now => .ok (s.processMatchSessionsACKS now)

/-- The service as a machine that emits datagrams.  An exception ends a run. -/
def machine : Machine MatchmakingServer Step (List Datagram) Exception := ⟨step⟩

/-- A freshly constructed `MatchmakingServer`. -/
def initial : MatchmakingServer := {}

/-- A run of the service from its start. -/
abbrev Run (h : List (Transition MatchmakingServer Step (List Datagram)))
    (s : MatchmakingServer) : Prop :=
  machine.Run initial h s

/-- The job of a datagram with the given type and content, from the given
endpoint. -/
def jobOf (type : PacketType) (content : Bytes) (e : Endpoint) : RawPacketJob :=
  { headerMask := PacketHeader.urgent.mask
    type := type
    content := content
    sender := some e.1
    port := e.2 }

/-- The player at `10.0.0.k` searches for a normal match. -/
def searchOf (k : UInt8) : Step :=
  .handle (fun _ => 0) (jobOf .findMatch MatchType.normal.name (⟨10, 0, 0, k⟩, 5000))

/-- The players at `10.0.0.1` and `10.0.0.2` search and are paired. -/
def twoPaired : List Step := [searchOf 1, searchOf 2, .processMatchmaking .normal fun _ => 0]

/-- Six passes over the creations, each half a second after the last. -/
def silence : List Step := (List.range 6).map fun k =>
  .processMatchCreations fun _ => ⟨500000 * (k + 1), 500000 * (k + 1)⟩

/-! ## Queues -/

@[simp] theorem queueOf_setQueue (s : MatchmakingServer) (t : MatchType)
    (q : List ClientMatchInfo) : (s.setQueue t q).queueOf t = q := by
  cases t <;> rfl

theorem setQueue_setQueue (s : MatchmakingServer) (t : MatchType) (q q' : List ClientMatchInfo) :
    (s.setQueue t q).setQueue t q' = s.setQueue t q' := by
  cases t <;> rfl

@[simp] theorem setQueue_pendingMatchCreations (s : MatchmakingServer) (t : MatchType)
    (q : List ClientMatchInfo) :
    (s.setQueue t q).pendingMatchCreations = s.pendingMatchCreations := by
  cases t <;> rfl

@[simp] theorem setQueue_pendingSessions (s : MatchmakingServer) (t : MatchType)
    (q : List ClientMatchInfo) : (s.setQueue t q).pendingSessions = s.pendingSessions := by
  cases t <;> rfl

@[simp] theorem setQueue_lastMatchID (s : MatchmakingServer) (t : MatchType)
    (q : List ClientMatchInfo) : (s.setQueue t q).lastMatchID = s.lastMatchID := by
  cases t <;> rfl

@[simp] theorem setQueue_playersPerMatch (s : MatchmakingServer) (t : MatchType)
    (q : List ClientMatchInfo) : (s.setQueue t q).playersPerMatch = s.playersPerMatch := by
  cases t <;> rfl

@[simp] theorem pushQueue_pendingMatchCreations (s : MatchmakingServer) (t : MatchType)
    (p : ClientMatchInfo) : (s.pushQueue t p).pendingMatchCreations = s.pendingMatchCreations :=
  setQueue_pendingMatchCreations ..

@[simp] theorem pushQueue_pendingSessions (s : MatchmakingServer) (t : MatchType)
    (p : ClientMatchInfo) : (s.pushQueue t p).pendingSessions = s.pendingSessions :=
  setQueue_pendingSessions ..

@[simp] theorem pushQueue_lastMatchID (s : MatchmakingServer) (t : MatchType)
    (p : ClientMatchInfo) : (s.pushQueue t p).lastMatchID = s.lastMatchID :=
  setQueue_lastMatchID ..

@[simp] theorem pushQueue_playersPerMatch (s : MatchmakingServer) (t : MatchType)
    (p : ClientMatchInfo) : (s.pushQueue t p).playersPerMatch = s.playersPerMatch :=
  setQueue_playersPerMatch ..

theorem removeFromQueue_eq_filter (e : Endpoint) (q : List ClientMatchInfo) :
    removeFromQueue e q = q.filter fun p => p.endpoint ≠ e := by
  induction q with
  | nil => rfl
  | cons p q ih =>
    rw [removeFromQueue, List.filter_cons]
    by_cases hp : p.endpoint = e
    · obtain ⟨h₁, h₂⟩ := Prod.ext_iff.1 hp
      rw [if_pos ⟨h₁, h₂⟩, if_neg (by simp [hp]), ih]
    · rw [if_neg (fun hc => hp (Prod.ext hc.1 hc.2)), if_pos (by simp [hp]), ih]

/-- Push a list of players, each on the queue of its type. -/
def pushAll (s : MatchmakingServer) (l : List (ClientMatchInfo × MatchType)) :
    MatchmakingServer :=
  l.foldl (fun s p => s.pushQueue p.2 p.1) s

@[simp] theorem pushAll_nil (s : MatchmakingServer) : s.pushAll [] = s := rfl

theorem pushAll_append (s : MatchmakingServer) (l₁ l₂ : List (ClientMatchInfo × MatchType)) :
    s.pushAll (l₁ ++ l₂) = (s.pushAll l₁).pushAll l₂ :=
  List.foldl_append ..

/-- Pushing players changes nothing but the queues. -/
theorem pushAll_frame (s : MatchmakingServer) (l : List (ClientMatchInfo × MatchType)) :
    (s.pushAll l).pendingMatchCreations = s.pendingMatchCreations ∧
      (s.pushAll l).pendingSessions = s.pendingSessions ∧
      (s.pushAll l).lastMatchID = s.lastMatchID ∧
      (s.pushAll l).playersPerMatch = s.playersPerMatch := by
  induction l generalizing s with
  | nil => exact ⟨rfl, rfl, rfl, rfl⟩
  | cons p l ih =>
    obtain ⟨h₁, h₂, h₃, h₄⟩ := ih (s.pushQueue p.2 p.1)
    exact ⟨h₁.trans (by simp), h₂.trans (by simp), h₃.trans (by simp), h₄.trans (by simp)⟩

@[simp] theorem pushAll_pendingMatchCreations (s : MatchmakingServer)
    (l : List (ClientMatchInfo × MatchType)) :
    (s.pushAll l).pendingMatchCreations = s.pendingMatchCreations :=
  (s.pushAll_frame l).1

@[simp] theorem pushAll_pendingSessions (s : MatchmakingServer)
    (l : List (ClientMatchInfo × MatchType)) :
    (s.pushAll l).pendingSessions = s.pendingSessions :=
  (s.pushAll_frame l).2.1

@[simp] theorem pushAll_lastMatchID (s : MatchmakingServer)
    (l : List (ClientMatchInfo × MatchType)) : (s.pushAll l).lastMatchID = s.lastMatchID :=
  (s.pushAll_frame l).2.2.1

@[simp] theorem pushAll_playersPerMatch (s : MatchmakingServer)
    (l : List (ClientMatchInfo × MatchType)) : (s.pushAll l).playersPerMatch = s.playersPerMatch :=
  (s.pushAll_frame l).2.2.2

/-- Pushing players does not look at the creations. -/
theorem pushAll_withCreations (s : MatchmakingServer) (cs : List PendingMatchCreation)
    (l : List (ClientMatchInfo × MatchType)) :
    ({ s with pendingMatchCreations := cs } : MatchmakingServer).pushAll l
      = { s.pushAll l with pendingMatchCreations := cs } := by
  induction l generalizing s with
  | nil => rfl
  | cons p l ih =>
    obtain ⟨q, u⟩ := p
    cases u
    · exact ih (s.pushQueue .normal q)
    · exact ih (s.pushQueue .ranked q)

/-- Pushing players does not look at the sessions. -/
theorem pushAll_withSessions (s : MatchmakingServer) (ss : List MatchSession)
    (l : List (ClientMatchInfo × MatchType)) :
    ({ s with pendingSessions := ss } : MatchmakingServer).pushAll l
      = { s.pushAll l with pendingSessions := ss } := by
  induction l generalizing s with
  | nil => rfl
  | cons p l ih =>
    obtain ⟨q, u⟩ := p
    cases u
    · exact ih (s.pushQueue .normal q)
    · exact ih (s.pushQueue .ranked q)

/-- Each queue grows by the players pushed on it, in order. -/
theorem queueOf_pushAll (s : MatchmakingServer) (l : List (ClientMatchInfo × MatchType))
    (t : MatchType) :
    (s.pushAll l).queueOf t = s.queueOf t ++ (l.filter fun p => p.2 = t).map Prod.fst := by
  induction l generalizing s with
  | nil => simp
  | cons p l ih =>
    rw [show s.pushAll (p :: l) = (s.pushQueue p.2 p.1).pushAll l from rfl, ih]
    obtain ⟨q, u⟩ := p
    cases t <;> cases u <;> simp [pushQueue, setQueue, queueOf]

/-! ## The searching loop of the reply handlers -/

/-- Does a reply with this content name the creation? -/
def named (content : Bytes) (c : PendingMatchCreation) : Bool :=
  match stoi content with
  | .error _ => false
  | .ok id => c.matchData.matchID = UInt32.ofInt id

/-- The loop throws what `std::stoi` throws as soon as there is a creation to
compare. -/
theorem searchLoop_error_iff {content : Bytes} {cs : List PendingMatchCreation} {e : Exception} :
    searchLoop content cs = .error e ↔ cs ≠ [] ∧ stoi content = .error e := by
  induction cs with
  | nil => simp [searchLoop]
  | cons c cs ih =>
    simp only [searchLoop]
    cases hid : stoi content with
    | error e' => simp
    | ok id =>
      rw [hid] at ih
      simp only [reduceCtorEq, and_false, iff_false] at ih ⊢
      by_cases hmatch : c.matchData.matchID = UInt32.ofInt id
      · simp [hmatch]
      · rw [if_neg hmatch]
        cases hr : searchLoop content cs with
        | error e' =>
          rintro ⟨⟩
          exact ih hr
        | ok r => rcases r with - | r <;> simp

/-- **What the loop finds**: nothing when no creation is named, or the first
creation named, and where it stands. -/
theorem searchLoop_ok {content : Bytes} {cs : List PendingMatchCreation}
    {r : Option (List PendingMatchCreation × PendingMatchCreation × List PendingMatchCreation)}
    (h : searchLoop content cs = .ok r) :
    (r = none ∧ ∀ c ∈ cs, named content c = false) ∨
      ∃ before c after, r = some (before, c, after) ∧ cs = before ++ c :: after ∧
        named content c = true ∧ ∀ b ∈ before, named content b = false := by
  induction cs generalizing r with
  | nil =>
    simp only [searchLoop, Except.ok.injEq] at h
    exact .inl ⟨h.symm, by simp⟩
  | cons c cs ih =>
    simp only [searchLoop] at h
    cases hid : stoi content with
    | error e => simp [hid] at h
    | ok id =>
      simp only [hid] at h
      have hnamed : named content c = decide (c.matchData.matchID = UInt32.ofInt id) := by
        simp [named, hid]
      by_cases hmatch : c.matchData.matchID = UInt32.ofInt id
      · rw [if_pos hmatch] at h
        cases h
        exact .inr ⟨[], c, cs, rfl, rfl, by simp [hnamed, hmatch], by simp⟩
      · rw [if_neg hmatch] at h
        have hc : named content c = false := by simp [hnamed, hmatch]
        split at h
        · cases h
        · rename_i hr
          cases h
          obtain ⟨-, hcs⟩ | ⟨_, _, _, hx, -⟩ := ih hr
          · exact .inl ⟨rfl, by simpa [hc] using hcs⟩
          · cases hx
        · rename_i before found after hr
          cases h
          obtain ⟨hx, -⟩ | ⟨before', found', after', hx, hcs, hn, hb⟩ := ih hr
          · cases hx
          · cases hx
            exact .inr ⟨c :: before, found, after, rfl, by simp [hcs], hn, by simpa [hc] using hb⟩

/-! ## What a step does -/

/-- The states and datagrams a step can lead to, one case for each kind of
step. -/
inductive Effect (s : MatchmakingServer) : Step → MatchmakingServer → List Datagram → Prop
  /-- A job no handler is registered for, a search in no known mode, a reply that
  names no pending creation. -/
  | ignored {now : Nat → Micros} {job : RawPacketJob}
      (hsearch : ∀ t : MatchType, job.type = .findMatch → job.content ≠ t.name)
      (hcancel : job.type ≠ .cancelSearch) (hack : job.type ≠ .ackMatchFound)
      (hreply : job.type = .matchUnique ∨ job.type = .matchUsed →
        ∀ c ∈ s.pendingMatchCreations, named job.content c = false) :
      Effect s (.handle now job) s []
  | searched {now : Nat → Micros} {job : RawPacketJob} {ip : IpAddress} (t : MatchType)
      (htype : job.type = .findMatch) (hcontent : job.content = t.name)
      (hsender : job.sender = some ip) :
      Effect s (.handle now job) (s.pushQueue t { ip := ip, port := job.port })
        [sendDatagram .urgent .searchAck [] ip job.port]
  | cancelled {now : Nat → Micros} {job : RawPacketJob} {ip : IpAddress}
      (htype : job.type = .cancelSearch) (hsender : job.sender = some ip) :
      Effect s (.handle now job)
        { s with
          normalQueue := s.normalQueue.filter fun p => p.endpoint ≠ (ip, job.port)
          rankedQueue := s.rankedQueue.filter fun p => p.endpoint ≠ (ip, job.port) }
        [sendDatagram .urgent .ok [] ip job.port]
  | acked {now : Nat → Micros} {job : RawPacketJob} (htype : job.type = .ackMatchFound) :
      Effect s (.handle now job)
        { s with pendingSessions := s.pendingSessions.map (ackSession job) } []
  | confirmed {now : Nat → Micros} {job : RawPacketJob} (before : List PendingMatchCreation)
      (c : PendingMatchCreation) (after : List PendingMatchCreation)
      (htype : job.type = .matchUnique)
      (hcs : s.pendingMatchCreations = before ++ c :: after)
      (hnamed : named job.content c = true) (hbefore : ∀ b ∈ before, named job.content b = false) :
      Effect s (.handle now job)
        { s with
          pendingSessions := s.pendingSessions ++
            [⟨sessionPlayers c.matchData now c.matchData.players⟩]
          pendingMatchCreations := before ++ after }
        (c.matchData.players.map (matchFoundDatagram c.matchData.matchID))
  | rekeyed {now : Nat → Micros} {job : RawPacketJob} (before : List PendingMatchCreation)
      (c : PendingMatchCreation) (after : List PendingMatchCreation)
      (htype : job.type = .matchUsed)
      (hcs : s.pendingMatchCreations = before ++ c :: after)
      (hnamed : named job.content c = true) (hbefore : ∀ b ∈ before, named job.content b = false) :
      Effect s (.handle now job)
        { s with
          lastMatchID := s.lastMatchID + 1
          pendingMatchCreations := before ++ rekey c (s.lastMatchID + 1) (now 0) :: after } []
  | paired (t : MatchType) (now : Nat → Micros) :
      Effect s (.processMatchmaking t now) (s.processMatchmaking t now) []
  | retried (now : Nat → ClockReading) :
      Effect s (.processMatchCreations now) (s.processMatchCreations now).1
        (s.processMatchCreations now).2
  | resent (now : Nat → Nat → ClockReading) :
      Effect s (.processMatchSessionsACKS now) (s.processMatchSessionsACKS now).1
        (s.processMatchSessionsACKS now).2

theorem effect_findMatch {s s' : MatchmakingServer} {now : Nat → Micros} {job : RawPacketJob}
    {out : List Datagram} (htype : job.type = .findMatch)
    (h : s.findMatchHandler job = .ok (s', out)) : Effect s (.handle now job) s' out := by
  have hsearch : ∀ t : MatchType, job.content = t.name → s.enqueueSearch t job = .ok (s', out) →
      Effect s (.handle now job) s' out := by
    intro t hcontent he
    unfold enqueueSearch at he
    cases hsender : job.sender with
    | none => simp [hsender, value] at he
    | some ip =>
      simp only [hsender, value, Except.ok.injEq, Prod.mk.injEq] at he
      obtain ⟨rfl, rfl⟩ := he
      exact .searched t htype hcontent hsender
  unfold findMatchHandler at h
  split at h
  · exact hsearch .normal ‹_› h
  · split at h
    · exact hsearch .ranked ‹_› h
    · cases h
      refine .ignored ?_ (by simp [htype]) (by simp [htype]) (by simp [htype])
      rintro (_ | _) -
      · assumption
      · assumption

theorem effect_cancelSearch {s s' : MatchmakingServer} {now : Nat → Micros} {job : RawPacketJob}
    {out : List Datagram} (htype : job.type = .cancelSearch)
    (h : s.cancelSearchHandler job = .ok (s', out)) : Effect s (.handle now job) s' out := by
  unfold cancelSearchHandler at h
  cases hsender : job.sender with
  | none => simp [hsender, value] at h
  | some ip =>
    simp only [hsender, value, removeFromQueue_eq_filter, Except.ok.injEq, Prod.mk.injEq] at h
    obtain ⟨rfl, rfl⟩ := h
    exact .cancelled htype hsender

theorem effect_matchUnique {s s' : MatchmakingServer} {now : Nat → Micros} {job : RawPacketJob}
    {out : List Datagram} (htype : job.type = .matchUnique)
    (h : s.matchUniqueHandler now job = .ok (s', out)) : Effect s (.handle now job) s' out := by
  unfold matchUniqueHandler at h
  cases hr : searchLoop job.content s.pendingMatchCreations with
  | error e => simp [hr] at h
  | ok r =>
    obtain ⟨rfl, hnone⟩ | ⟨before, c, after, rfl, hcs, hnamed, hbefore⟩ := searchLoop_ok hr
    · simp only [hr, Except.ok.injEq, Prod.mk.injEq] at h
      obtain ⟨rfl, rfl⟩ := h
      exact .ignored (by simp [htype]) (by simp [htype]) (by simp [htype]) fun _ => hnone
    · simp only [hr, createMatchSession, Except.ok.injEq, Prod.mk.injEq] at h
      obtain ⟨rfl, rfl⟩ := h
      exact .confirmed before c after htype hcs hnamed hbefore

theorem effect_matchUsed {s s' : MatchmakingServer} {now : Nat → Micros} {job : RawPacketJob}
    {out : List Datagram} (htype : job.type = .matchUsed)
    (h : s.matchUsedHandler now job = .ok (s', out)) : Effect s (.handle now job) s' out := by
  unfold matchUsedHandler at h
  cases hr : searchLoop job.content s.pendingMatchCreations with
  | error e => simp [hr] at h
  | ok r =>
    obtain ⟨rfl, hnone⟩ | ⟨before, c, after, rfl, hcs, hnamed, hbefore⟩ := searchLoop_ok hr
    · simp only [hr, Except.ok.injEq, Prod.mk.injEq] at h
      obtain ⟨rfl, rfl⟩ := h
      exact .ignored (by simp [htype]) (by simp [htype]) (by simp [htype]) fun _ => hnone
    · simp only [hr, Except.ok.injEq, Prod.mk.injEq] at h
      obtain ⟨rfl, rfl⟩ := h
      exact .rekeyed before c after htype hcs hnamed hbefore

/-- **Every step that does not throw has one of the listed effects.** -/
theorem effect_of_step {s s' : MatchmakingServer} {l : Step} {out : List Datagram}
    (h : s.step l = .ok (s', out)) : Effect s l s' out := by
  cases l with
  | handle now job =>
    simp only [step, dispatch] at h
    cases htype : job.type
    case findMatch => exact effect_findMatch htype (by simpa [subcribeActionHandlers, htype] using h)
    case cancelSearch =>
      exact effect_cancelSearch htype (by simpa [subcribeActionHandlers, htype] using h)
    case ackMatchFound =>
      simp only [htype, subcribeActionHandlers, ackMatchFoundHandler, Except.ok.injEq,
        Prod.mk.injEq] at h
      obtain ⟨rfl, rfl⟩ := h
      exact .acked htype
    case matchUnique =>
      exact effect_matchUnique htype (by simpa [subcribeActionHandlers, htype] using h)
    case matchUsed =>
      exact effect_matchUsed htype (by simpa [subcribeActionHandlers, htype] using h)
    all_goals
      simp only [htype, subcribeActionHandlers, Except.ok.injEq, Prod.mk.injEq] at h
      obtain ⟨rfl, rfl⟩ := h
      exact .ignored (by simp [htype]) (by simp [htype]) (by simp [htype]) (by simp [htype])
  | processMatchmaking t now =>
    simp only [step, Except.ok.injEq, Prod.mk.injEq] at h
    obtain ⟨rfl, rfl⟩ := h
    exact .paired t now
  | processMatchCreations now =>
    simp only [step, Except.ok.injEq] at h
    obtain ⟨rfl, rfl⟩ := Prod.ext_iff.1 h
    exact .retried now
  | processMatchSessionsACKS now =>
    simp only [step, Except.ok.injEq] at h
    obtain ⟨rfl, rfl⟩ := Prod.ext_iff.1 h
    exact .resent now

end MatchmakingServer

end ServiceServer
