import ServiceServer.Lib.Network
import ServiceServer.Protocol.Agreement

/-!
# The service and the game server

A game server that remembers the IDs it has used: it creates a match for a new ID
and answers `MATCH_UNIQUE`, and answers `MATCH_USED` otherwise.  Between it and
the service the network loses, duplicates, delays and reorders datagrams.

* `answers_of_run` — in every run of the two, replies answer requests, so what
  `agreement` says holds of it.
* `Followed` — one pending creation on its way: where it stands, what it asked
  for, what was created on its behalf.
* `created_le` — at most one match is created for it, and one more each time it
  is given a new ID although its own match had been created.
-/

namespace ServiceServer

open Lib

namespace MatchmakingServer

/-! ## The game server -/

/-- The job the service makes of a reply. -/
def replyJob (type : PacketType) (m : Nat) : RawPacketJob :=
  jobOf type (decimal m) (gameServerIP, gameServerPort)

/-- What the game server does with a datagram, given the IDs it has used. -/
def gameServerReact (used : List Nat) (d : Datagram) : List Nat × List RawPacketJob :=
  match requestedID d with
  | none => (used, [])
  | some m =>
    if m ∈ used then (used, [replyJob .matchUsed m]) else (m :: used, [replyJob .matchUnique m])

/-- Does a step handle a reply of the game server? -/
def HandlesReply : Step → Prop
  | .handle _ job => IsReply job
  | _ => False

/-- The service, the game server and the network between them.  Nobody else sends
replies. -/
def gameNetwork : Network MatchmakingServer Step Datagram Exception (List Nat) RawPacketJob
    (Nat → Micros) where
  base := machine
  react := gameServerReact
  handle now job := .handle now job
  free l := ¬ HandlesReply l

/-- The states of the whole. -/
abbrev GameWorld := Network.World MatchmakingServer Datagram (List Nat) RawPacketJob

/-- What can happen in it. -/
abbrev GameEvent := Network.Event Step (Nat → Micros) gameNetwork.free

/-- A run of the whole. -/
abbrev GameHistory := List (Transition GameWorld GameEvent (List Datagram))

/-- A reply names an ID that was asked for, and that is used from then on. -/
theorem mem_gameServerReact {used : List Nat} {d : Datagram} {job : RawPacketJob}
    (hjob : job ∈ (gameServerReact used d).2) :
    ∃ m ∈ requestedID d, job.content = decimal m ∧ m ∈ (gameServerReact used d).1 := by
  unfold gameServerReact at hjob ⊢
  cases hm : requestedID d with
  | none => simp [hm] at hjob
  | some m =>
    simp only [hm] at hjob ⊢
    by_cases hused : m ∈ used
    · rw [if_pos hused] at hjob ⊢
      rw [List.mem_singleton.1 hjob]
      exact ⟨m, rfl, rfl, hused⟩
    · rw [if_neg hused] at hjob ⊢
      rw [List.mem_singleton.1 hjob]
      exact ⟨m, rfl, rfl, List.mem_cons_self⟩

/-- **Replies answer requests**: the service's share of a run is one of the runs
`agreement` speaks of. -/
theorem answers_of_run {used : List Nat} {h : GameHistory} {w : GameWorld}
    (hr : gameNetwork.machine.Run (Network.start initial used) h w) :
    ∃ k, Run k w.base ∧ w.sent = k.flatMap (·.out) ∧ Along AnswersRequest k := by
  obtain ⟨k, hk, hsent, halong⟩ := Network.run_machine hr
  refine ⟨k, hk, hsent, halong.imp ?_⟩
  intro past t ht
  unfold AnswersRequest
  split
  · rename_i now job hl
    intro hreply
    rcases ht with hfree | ⟨now', job', used', hl', d, hd, hjob⟩
    · exact absurd (show HandlesReply t.label by rw [hl]; exact hreply) hfree
    · rw [hl] at hl'
      cases hl'
      obtain ⟨u, hu, hdu⟩ := List.mem_flatMap.1 hd
      obtain ⟨m, hm, hcontent, -⟩ := mem_gameServerReact hjob
      exact ⟨u, hu, d, hdu, m, hm, hcontent⟩
  · trivial

/-! ## Following a creation -/

/-- A pending creation on its way. -/
structure Followed where
  /-- Where it stands; `none` once it is removed. -/
  position : Option Nat
  /-- The ID it has, or had last. -/
  matchID : UInt32
  /-- Where its requests stand among all that was sent. -/
  requests : List Nat := []
  /-- The IDs of the matches the game server created for its requests. -/
  created : List Nat := []
  /-- How often it was given a new ID when a match had been created for it under
  the old one. -/
  lateRekeys : Nat := 0
  deriving DecidableEq

/-- Does a step give the creation at this position a new ID? -/
def rekeys (s : MatchmakingServer) (l : Step) (i : Nat) : Bool :=
  match l with
  | .handle _ job =>
    job.type = .matchUsed && s.pendingMatchCreations.findIdx? (named job.content) = some i
  | _ => false

/-- Where the creation at this position stands after a step. -/
def followCreation (s : MatchmakingServer) (l : Step) (i : Nat) : Option Nat :=
  match l with
  | .handle _ job =>
    if job.type = .matchUnique then
      match s.pendingMatchCreations.findIdx? (named job.content) with
      | none => some i
      | some j => if i = j then none else some (if j < i then i - 1 else i)
    else some i
  | .processMatchCreations now =>
    let kept (x : PendingMatchCreation × ClockReading) := keptCreation x.1 x.2
    match (withReadings now s.pendingMatchCreations)[i]? with
    | none => none
    | some x =>
      (kept x).map fun _ =>
        (((withReadings now s.pendingMatchCreations).take i).filterMap kept).length
  | _ => some i

/-- Where the requests a step sends for it stand among all it sends. -/
def requestsOf (s : MatchmakingServer) (l : Step) (i : Nat) : List Nat :=
  match l with
  | .processMatchCreations now =>
    let sent (x : PendingMatchCreation × ClockReading) := sentForCreation x.1 x.2
    match (withReadings now s.pendingMatchCreations)[i]? with
    | none => []
    | some x =>
      if sent x = [] then []
      else [(((withReadings now s.pendingMatchCreations).take i).flatMap sent).length]
  | _ => []

namespace Followed

/-- What becomes of it in a step of the service, when so much was sent before. -/
def baseStep (f : Followed) (s : MatchmakingServer) (sent : Nat) (l : Step) : Followed :=
  match f.position with
  | none => f
  | some i =>
    { f with
      position := followCreation s l i
      matchID := if rekeys s l i then s.lastMatchID + 1 else f.matchID
      requests := f.requests ++ (requestsOf s l i).map (sent + ·)
      lateRekeys :=
        if rekeys s l i ∧ f.matchID.toNat ∈ f.created then f.lateRekeys + 1 else f.lateRekeys }

/-- What becomes of it in an event. -/
def step (f : Followed) (w : GameWorld) : GameEvent → Followed
  | .own l _ => f.baseStep w.base w.sent.length l
  | .deliver k =>
    match w.sent[k]?.bind requestedID with
    | none => f
    | some m => if k ∈ f.requests ∧ m ∉ w.peer then { f with created := m :: f.created } else f
  | .reply now k =>
    match w.replies[k]? with
    | none => f
    | some job => f.baseStep w.base w.sent.length (.handle now job)

/-- What becomes of it in a run. -/
def run (f : Followed) (h : GameHistory) : Followed := h.foldl (fun f t => f.step t.pre t.label) f

/-- A creation that was just formed. -/
def start (i : Nat) (c : PendingMatchCreation) : Followed :=
  { position := some i, matchID := c.matchData.matchID }

end Followed

/-! ## What a step of the service does to it -/

theorem findIdx?_named {content : Bytes} {before after : List PendingMatchCreation}
    {c : PendingMatchCreation} (hnamed : named content c = true)
    (hbefore : ∀ b ∈ before, named content b = false) :
    (before ++ c :: after).findIdx? (named content) = some before.length := by
  have hnone : before.findIdx? (named content) = none := List.findIdx?_eq_none_iff.2 hbefore
  simp [List.findIdx?_append, hnone, List.findIdx?_cons, hnamed]

/-- The one message a loop sends for an element stands after those it sends for
the elements before. -/
theorem getElem?_flatMap_take {α β : Type} (f : α → List β) {l : List α} {i : Nat} {a : α} {b : β}
    (ha : l[i]? = some a) (hb : f a = [b]) :
    (l.flatMap f)[((l.take i).flatMap f).length]? = some b := by
  obtain ⟨hi, rfl⟩ := List.getElem?_eq_some_iff.1 ha
  have hsplit : l.flatMap f = (l.take i).flatMap f ++ b :: (l.drop (i + 1)).flatMap f := by
    rw [← List.singleton_append, ← hb, ← List.flatMap_cons, ← List.drop_eq_getElem_cons hi,
      ← List.flatMap_append, List.take_append_drop]
  rw [hsplit, List.getElem?_append_right le_rfl, Nat.sub_self, List.getElem?_cons_zero]

/-- What stands beside an erased element is found again. -/
theorem getElem?_erased {α : Type} {before after : List α} {c x : α} {i : Nat}
    (hx : (before ++ c :: after)[i]? = some x) (hi : i ≠ before.length) :
    (before ++ after)[if before.length < i then i - 1 else i]? = some x := by
  by_cases hlt : before.length < i
  · rw [List.getElem?_append_right (by omega)] at hx
    rw [if_pos hlt, List.getElem?_append_right (by omega)]
    obtain ⟨k, hk⟩ := Nat.exists_eq_succ_of_ne_zero (Nat.sub_ne_zero_of_lt hlt)
    rw [hk, List.getElem?_cons_succ] at hx
    have hpred : i - 1 - before.length = k := by omega
    rwa [hpred]
  · have hless : i < before.length := by omega
    rw [List.getElem?_append_left hless] at hx
    rwa [if_neg hlt, List.getElem?_append_left hless]

/-- What stands beside a replaced element stays where it is. -/
theorem getElem?_replaced {α : Type} {before after : List α} {c c' x : α} {i : Nat}
    (hx : (before ++ c :: after)[i]? = some x) (hi : i ≠ before.length) :
    (before ++ c' :: after)[i]? = some x := by
  by_cases hlt : before.length < i
  · rw [List.getElem?_append_right hlt.le] at hx ⊢
    obtain ⟨k, hk⟩ := Nat.exists_eq_succ_of_ne_zero (Nat.sub_ne_zero_of_lt hlt)
    rw [hk, List.getElem?_cons_succ] at hx ⊢
    exact hx
  · have hless : i < before.length := by omega
    rwa [List.getElem?_append_left hless] at hx ⊢

/-- What can become of the creation at a position in a step. -/
inductive CreationFate (s : MatchmakingServer) (l : Step) (s' : MatchmakingServer) (i : Nat)
    (c : PendingMatchCreation) : Prop
  /-- Nothing: the step is no pass over the creations, or its timer has not run long
  enough. -/
  | kept (j : Nat) (hj : followCreation s l i = some j)
      (hc : s'.pendingMatchCreations[j]? = some c) (hrekeys : rekeys s l i = false)
      (hwaits : ∀ now, l = .processMatchCreations now →
        creationOutcome c (now i).atElapsed = .waiting)
  | retried (now : Nat → ClockReading) (j : Nat) (hl : l = .processMatchCreations now)
      (hout : creationOutcome c (now i).atElapsed = .retried)
      (hj : followCreation s l i = some j)
      (hc : s'.pendingMatchCreations[j]?
        = some { c with timer := ⟨(now i).atRestart⟩, attempts := c.attempts + 1 })
  | givenUp (now : Nat → ClockReading) (hl : l = .processMatchCreations now)
      (hout : creationOutcome c (now i).atElapsed = .givenUp) (hj : followCreation s l i = none)
  | rekeyed (now : Nat → Micros) (job : RawPacketJob) (hl : l = .handle now job)
      (htype : job.type = .matchUsed) (hnamed : named job.content c = true)
      (hj : followCreation s l i = some i) (hrekeys : rekeys s l i = true)
      (hc : s'.pendingMatchCreations[i]? = some (rekey c (s.lastMatchID + 1) (now 0)))
  | confirmed (now : Nat → Micros) (job : RawPacketJob) (hl : l = .handle now job)
      (htype : job.type = .matchUnique) (hnamed : named job.content c = true)
      (hj : followCreation s l i = none)

/-- What a handled job that replies nothing leaves where it is. -/
theorem CreationFate.of_handle {s s' : MatchmakingServer} {now : Nat → Micros} {job : RawPacketJob}
    {i : Nat} {c : PendingMatchCreation} (hc : s'.pendingMatchCreations[i]? = some c)
    (hnone : IsReply job → s.pendingMatchCreations.findIdx? (named job.content) = none) :
    CreationFate s (.handle now job) s' i c := by
  have hrekeys : rekeys s (.handle now job) i = false := by
    by_cases htype : job.type = .matchUsed
    · simp [rekeys, hnone (.inr htype)]
    · simp [rekeys, htype]
  refine .kept i ?_ hc hrekeys fun _ hl => by cases hl
  simp only [followCreation]
  split_ifs with htype
  · rw [hnone (.inl htype)]
  · rfl

/-- **What becomes of a creation in a step.** -/
theorem creation_fate {s s' : MatchmakingServer} {l : Step} {out : List Datagram}
    (h : s.step l = .ok (s', out)) {i : Nat} {c : PendingMatchCreation}
    (hc : s.pendingMatchCreations[i]? = some c) : CreationFate s l s' i c := by
  cases effect_of_step h with
  | @ignored _ job _ _ _ hreply =>
    exact .of_handle hc fun hr => List.findIdx?_eq_none_iff.2 (hreply hr)
  | searched t htype =>
    exact .of_handle (by simpa using hc) (by rintro (h | h) <;> simp [htype] at h)
  | cancelled htype => exact .of_handle hc (by rintro (h | h) <;> simp [htype] at h)
  | acked htype => exact .of_handle hc (by rintro (h | h) <;> simp [htype] at h)
  | @confirmed now job before b after htype hcs hnamed hbefore =>
    rw [hcs] at hc
    by_cases hi : i = before.length
    · subst hi
      obtain rfl : b = c := by simpa using hc
      refine .confirmed now job rfl htype hnamed ?_
      simp [followCreation, htype, hcs, findIdx?_named hnamed hbefore]
    · refine .kept (if before.length < i then i - 1 else i) ?_ (getElem?_erased hc hi)
        (by simp [rekeys, htype]) fun _ hl => by cases hl
      simp [followCreation, htype, hcs, findIdx?_named hnamed hbefore, hi]
  | @rekeyed now job before b after htype hcs hnamed hbefore =>
    rw [hcs] at hc
    have hstays : followCreation s (.handle now job) i = some i := by simp [followCreation, htype]
    have hrekeys : rekeys s (.handle now job) i = decide (before.length = i) := by
      simp [rekeys, htype, hcs, findIdx?_named hnamed hbefore]
    by_cases hi : i = before.length
    · subst hi
      obtain rfl : b = c := by simpa using hc
      exact .rekeyed now job rfl htype hnamed hstays (by simp [hrekeys]) (by simp)
    · exact .kept i hstays (getElem?_replaced hc hi) (by simp [hrekeys, Ne.symm hi])
        fun _ hl => by cases hl
  | paired t now =>
    obtain ⟨new, hnew, -⟩ := exists_formed s t now
    obtain ⟨hlt, -⟩ := List.getElem?_eq_some_iff.1 hc
    exact .kept i rfl (by rw [hnew, List.getElem?_append_left hlt, hc]) rfl fun _ hl => by cases hl
  | resent now =>
    exact .kept i rfl (by simpa [processMatchSessionsACKS_eq] using hc) rfl fun _ hl => by cases hl
  | retried now =>
    have hread := getElem?_withReadings now hc
    have hcs : (s.processMatchCreations now).1.pendingMatchCreations
        = (withReadings now s.pendingMatchCreations).filterMap fun x => keptCreation x.1 x.2 := by
      rw [processMatchCreations_eq]
    have hstands : ∀ c', keptCreation c (now i) = some c' →
        ∃ j, followCreation s (.processMatchCreations now) i = some j ∧
          (s.processMatchCreations now).1.pendingMatchCreations[j]? = some c' := by
      intro c' hkept
      refine ⟨_, by simp only [followCreation, hread, hkept, Option.map_some]; rfl, ?_⟩
      rw [hcs]
      exact getElem?_filterMap_take
        (fun x : PendingMatchCreation × ClockReading => keptCreation x.1 x.2) hread hkept
    cases hout : creationOutcome c (now i).atElapsed with
    | waiting =>
      obtain ⟨j, hj, hc'⟩ := hstands c (by unfold keptCreation; rw [hout])
      refine .kept j hj hc' rfl ?_
      intro now' hl
      cases hl
      exact hout
    | givenUp =>
      refine .givenUp now rfl hout ?_
      simp only [followCreation, hread, keptCreation, hout, Option.map_none]
    | retried =>
      obtain ⟨j, hj, hc'⟩ := hstands
        { c with timer := ⟨(now i).atRestart⟩, attempts := c.attempts + 1 }
        (by unfold keptCreation; rw [hout])
      exact .retried now j rfl hout hj hc'

/-- **Where a creation goes, and which ID it has there.** -/
theorem followCreation_step {s s' : MatchmakingServer} {l : Step} {out : List Datagram}
    (h : s.step l = .ok (s', out)) {i j : Nat} {c : PendingMatchCreation}
    (hc : s.pendingMatchCreations[i]? = some c) (hj : followCreation s l i = some j) :
    ∃ c', s'.pendingMatchCreations[j]? = some c' ∧ c'.matchData.matchID
      = if rekeys s l i then s.lastMatchID + 1 else c.matchData.matchID := by
  cases creation_fate h hc with
  | kept k hk hc' hrekeys =>
    obtain rfl := Option.some.inj (hk.symm.trans hj)
    exact ⟨c, hc', by rw [hrekeys]; rfl⟩
  | retried now k hl hout hk hc' =>
    obtain rfl := Option.some.inj (hk.symm.trans hj)
    exact ⟨_, hc', by rw [hl]; rfl⟩
  | givenUp now hl hout hnone => rw [hnone] at hj; cases hj
  | rekeyed now job hl htype hnamed hk hrekeys hc' =>
    obtain rfl := Option.some.inj (hk.symm.trans hj)
    exact ⟨_, hc', by rw [hrekeys]; rfl⟩
  | confirmed now job hl htype hnamed hnone => rw [hnone] at hj; cases hj

/-- **What is sent for a creation is its request.** -/
theorem request_of_requestsOf {s s' : MatchmakingServer} (hs : s.Tidy) {l : Step}
    {out : List Datagram} (h : s.step l = .ok (s', out)) {i k : Nat} {c : PendingMatchCreation}
    (hc : s.pendingMatchCreations[i]? = some c) (hk : k ∈ requestsOf s l i) :
    out[k]? = some c.matchData.request := by
  cases l with
  | processMatchCreations now =>
    simp only [step, Except.ok.injEq] at h
    obtain ⟨-, rfl⟩ := Prod.ext_iff.1 h
    simp only [requestsOf, getElem?_withReadings now hc] at hk
    split at hk
    · simp at hk
    · rename_i hsent
      have hrequest : sentForCreation c (now i) = [c.matchData.request] := by
        unfold sentForCreation at hsent ⊢
        split at hsent
        · rw [createMatchDatagram, (hs.creations c (List.mem_of_getElem? hc)).1]
          rfl
        · exact absurd rfl hsent
      have hstands := getElem?_flatMap_take
        (fun x : PendingMatchCreation × ClockReading => sentForCreation x.1 x.2)
        (getElem?_withReadings now hc) hrequest
      rw [List.mem_singleton.1 hk, processMatchCreations_eq]
      exact hstands
  | handle => simp [requestsOf] at hk
  | processMatchmaking => simp [requestsOf] at hk
  | processMatchSessionsACKS => simp [requestsOf] at hk

/-- A new ID comes from a reply that names the old one. -/
theorem named_of_rekeys {s : MatchmakingServer} {l : Step} {i : Nat} {c : PendingMatchCreation}
    (hc : s.pendingMatchCreations[i]? = some c) (h : rekeys s l i = true) :
    ∃ now job, l = .handle now job ∧ job.type = .matchUsed ∧ named job.content c = true := by
  cases l with
  | handle now job =>
    simp only [rekeys, Bool.and_eq_true, decide_eq_true_eq] at h
    obtain ⟨hi, hnamed, -⟩ := List.findIdx?_eq_some_iff_getElem.1 h.2
    obtain ⟨hi', rfl⟩ := List.getElem?_eq_some_iff.1 hc
    exact ⟨now, job, rfl, h.1, hnamed⟩
  | processMatchmaking => simp [rekeys] at h
  | processMatchCreations => simp [rekeys] at h
  | processMatchSessionsACKS => simp [rekeys] at h

/-- A reply that names a creation by a printed number carries its ID. -/
theorem eq_of_named_decimal {m : Nat} {c : PendingMatchCreation}
    (h : named (decimal m) c = true) : m = c.matchData.matchID.toNat := by
  obtain ⟨id, hid, -⟩ := ok_of_named h
  rw [stoi_decimal] at hid
  split at hid
  · cases hid
  · exact ((named_decimal (by omega) c).1 h).symm

/-! ## At most one match, and one more for each late re-keying -/

/-- What holds of the whole in every run: every reply carries a used ID. -/
structure GameTidy (w : GameWorld) : Prop where
  tidy : w.base.Tidy
  replies : ∀ job ∈ w.replies, ∃ m ∈ w.peer, job.content = decimal m

/-- What holds of a followed creation. -/
structure Followed.Tracked (f : Followed) (w : GameWorld) : Prop where
  /-- It is where it is followed, with the ID it is followed by. -/
  stands : ∀ i, f.position = some i →
    ∃ c, w.base.pendingMatchCreations[i]? = some c ∧ c.matchData.matchID = f.matchID
  /-- Each request carries its present ID, or a used one. -/
  requests : ∀ k ∈ f.requests, ∃ d m, w.sent[k]? = some d ∧ requestedID d = some m ∧
    (m = f.matchID.toNat ∨ m ∈ w.peer)
  created : ∀ m ∈ f.created, m ∈ w.peer
  /-- One match for each late re-keying, and one for the present ID. -/
  bound : f.created.length ≤ f.lateRekeys + if f.matchID.toNat ∈ f.created then 1 else 0

/-- The used IDs only grow. -/
theorem subset_gameServerReact (used : List Nat) (d : Datagram) :
    ∀ m ∈ used, m ∈ (gameServerReact used d).1 := by
  intro m hm
  unfold gameServerReact
  split
  · exact hm
  · split
    · exact hm
    · exact List.mem_cons_of_mem _ hm

theorem gameTidy_step {w w' : GameWorld} {e : GameEvent} {out : List Datagram} (hw : GameTidy w)
    (h : gameNetwork.step w e = .ok (w', out)) : GameTidy w' := by
  cases Network.effect_of_step h with
  | undelivered => exact hw
  | unreplied => exact hw
  | own hs => exact ⟨tidy_step hw.tidy hs, hw.replies⟩
  | @reply now _ job _ _ _ hs => exact ⟨tidy_step (l := .handle now job) hw.tidy hs, hw.replies⟩
  | @deliver k d hd =>
    refine ⟨hw.tidy, ?_⟩
    intro job hjob
    rcases List.mem_append.1 hjob with hjob | hjob
    · obtain ⟨m, hm, hcontent⟩ := hw.replies job hjob
      exact ⟨m, subset_gameServerReact _ _ m hm, hcontent⟩
    · obtain ⟨m, -, hcontent, hused⟩ := mem_gameServerReact hjob
      exact ⟨m, hused, hcontent⟩

/-- **A step of the service keeps track of the creation**, if the reply it handles
carries a used ID. -/
theorem tracked_baseStep {w : GameWorld} {f : Followed} (hw : GameTidy w) (hf : f.Tracked w)
    {l : Step} {s' : MatchmakingServer} {out : List Datagram} (hs : w.base.step l = .ok (s', out))
    (hreply : ∀ now job, l = .handle now job → job.type = .matchUsed →
      ∃ m ∈ w.peer, job.content = decimal m) :
    (f.baseStep w.base w.sent.length l).Tracked
      { w with base := s', sent := w.sent ++ out } := by
  have hsent : ∀ {k : Nat} {d : Datagram}, w.sent[k]? = some d → (w.sent ++ out)[k]? = some d :=
    fun hk => by
      rw [List.getElem?_append_left (List.getElem?_eq_some_iff.1 hk).1]
      exact hk
  cases hpos : f.position with
  | none =>
    rw [Followed.baseStep, hpos]
    refine ⟨fun i hi => by simp [hpos] at hi, ?_, hf.created, hf.bound⟩
    intro k hk
    obtain ⟨d, m, hd, hm, hid⟩ := hf.requests k hk
    exact ⟨d, m, hsent hd, hm, hid⟩
  | some i =>
    obtain ⟨c, hc, hid⟩ := hf.stands i hpos
    rw [Followed.baseStep, hpos]
    -- the ID it loses in a re-keying is used
    have hused : rekeys w.base l i = true → f.matchID.toNat ∈ w.peer := by
      intro hre
      obtain ⟨now, job, hl, htype, hnamed⟩ := named_of_rekeys hc hre
      obtain ⟨m, hm, hcontent⟩ := hreply now job hl htype
      rw [hcontent] at hnamed
      rwa [← hid, ← eq_of_named_decimal hnamed]
    refine ⟨fun j hj => ?_, fun k hk => ?_, hf.created, ?_⟩
    · obtain ⟨c', hc', hid'⟩ := followCreation_step hs hc hj
      exact ⟨c', hc', by rw [hid', hid]⟩
    · rcases List.mem_append.1 hk with hk | hk
      · obtain ⟨d, m, hd, hm, hold⟩ := hf.requests k hk
        refine ⟨d, m, hsent hd, hm, ?_⟩
        rcases hold with rfl | hold
        · cases hre : rekeys w.base l i with
          | true => exact .inr (hused hre)
          | false => exact .inl (by simp [hre])
        · exact .inr hold
      · obtain ⟨n, hn, rfl⟩ := List.mem_map.1 hk
        refine ⟨c.matchData.request, c.matchData.matchID.toNat, ?_, requestedID_request _, ?_⟩
        · rw [List.getElem?_append_right (Nat.le_add_right _ _), Nat.add_sub_cancel_left]
          exact request_of_requestsOf hw.tidy hs hc hn
        · rw [hid]
          cases hre : rekeys w.base l i with
          | true => exact .inr (hused hre)
          | false => exact .inl (by simp [hre])
    · have hbound := hf.bound
      cases hre : rekeys w.base l i with
      | false => simpa [hre] using hbound
      | true =>
        simp only [hre, true_and, if_true]
        split_ifs at hbound ⊢ <;> omega

/-- What the game server creates for the creation, if it is handed one of its
requests. -/
theorem tracked_deliver {w : GameWorld} {f : Followed} (hf : f.Tracked w) {k : Nat}
    {d : Datagram} (hd : w.sent[k]? = some d) :
    (f.step w (.deliver k)).Tracked
      { w with
        peer := (gameServerReact w.peer d).1
        replies := w.replies ++ (gameServerReact w.peer d).2 } := by
  have hgrow := subset_gameServerReact w.peer d
  have hrequests : ∀ k ∈ f.requests, ∃ d' m, w.sent[k]? = some d' ∧ requestedID d' = some m ∧
      (m = f.matchID.toNat ∨ m ∈ (gameServerReact w.peer d).1) := by
    intro k hk
    obtain ⟨d', m, hd', hm, hid⟩ := hf.requests k hk
    exact ⟨d', m, hd', hm, hid.imp_right (hgrow m)⟩
  have hsame : f.Tracked
      { w with
        peer := (gameServerReact w.peer d).1
        replies := w.replies ++ (gameServerReact w.peer d).2 } :=
    ⟨hf.stands, hrequests, fun m hm => hgrow m (hf.created m hm), hf.bound⟩
  simp only [Followed.step, hd, Option.bind_some]
  cases hm : requestedID d with
  | none => exact hsame
  | some m =>
    simp only []
    split
    · rename_i hown
      obtain ⟨hk, hnew⟩ := hown
      obtain ⟨d', m', hd', hm', hid⟩ := hf.requests k hk
      obtain rfl : d' = d := Option.some.inj (hd'.symm.trans hd)
      obtain rfl : m' = m := Option.some.inj (hm'.symm.trans hm)
      -- a request that creates a match carries the present ID
      obtain rfl : m' = f.matchID.toNat := hid.resolve_right hnew
      refine ⟨hf.stands, hrequests, fun m hmem => ?_, ?_⟩
      · rcases List.mem_cons.1 hmem with rfl | hmem
        · simp [gameServerReact, hm, hnew]
        · exact hgrow m (hf.created m hmem)
      · have hbound := hf.bound
        rw [if_neg fun hmem => hnew (hf.created _ hmem)] at hbound
        simp only [List.length_cons, List.mem_cons_self, if_true]
        omega
    · exact hsame

/-- **Every event keeps track of the creation.** -/
theorem tracked_step {w w' : GameWorld} {f : Followed} {e : GameEvent} {out : List Datagram}
    (hw : GameTidy w) (hf : f.Tracked w) (h : gameNetwork.step w e = .ok (w', out)) :
    (f.step w e).Tracked w' := by
  cases Network.effect_of_step h with
  | undelivered hd => simpa [Followed.step, hd] using hf
  | unreplied hjob => simpa [Followed.step, hjob] using hf
  | deliver hd => exact tracked_deliver hf hd
  | @own l hfree s out hs =>
    refine tracked_baseStep hw hf hs ?_
    intro now job hl htype
    exact absurd (show HandlesReply l by rw [hl]; exact .inr htype) hfree
  | @reply now k job s out hjob hs =>
    simp only [Followed.step, hjob]
    refine tracked_baseStep (l := .handle now job) hw hf hs ?_
    intro now' job' hl _
    cases hl
    exact hw.replies job (List.mem_of_getElem? hjob)

theorem tracked_run {w w' : GameWorld} {f : Followed} {h : GameHistory} (hw : GameTidy w)
    (hf : f.Tracked w) (hr : gameNetwork.machine.Run w h w') :
    GameTidy w' ∧ (f.run h).Tracked w' := by
  induction hr with
  | nil => exact ⟨hw, hf⟩
  | snoc _ hs ih =>
    refine ⟨gameTidy_step ih.1 hs, ?_⟩
    rw [Followed.run, List.foldl_append, List.foldl_cons, List.foldl_nil]
    exact tracked_step ih.1 ih.2 hs

/-- **At most one match is created for a creation**, and one more for each time
it is given a new ID when its own match had been created under the old one.  The
creation is followed from the pass that forms it, through any run, to its removal
and beyond. -/
theorem created_le {used : List Nat} {h₁ h₂ : GameHistory} {w₁ w₂ w₃ : GameWorld} {t : MatchType}
    {now : Nat → Micros} {hfree : ¬ HandlesReply (.processMatchmaking t now)}
    {out : List Datagram} {i : Nat} {c : PendingMatchCreation}
    (hr₁ : gameNetwork.machine.Run (Network.start initial used) h₁ w₁)
    (hform : gameNetwork.step w₁ (.own (.processMatchmaking t now) hfree) = .ok (w₂, out))
    (hc : w₂.base.pendingMatchCreations[i]? = some c)
    (hr₂ : gameNetwork.machine.Run w₂ h₂ w₃) :
    ((Followed.start i c).run h₂).created.length ≤ ((Followed.start i c).run h₂).lateRekeys + 1 := by
  have hw₁ : GameTidy w₁ := hr₁.invariant ⟨tidy_initial, by simp [Network.start]⟩
    fun _ _ _ _ hw hs => gameTidy_step hw hs
  have hstart : (Followed.start i c).Tracked w₂ :=
    ⟨fun j hj => by cases hj; exact ⟨c, hc, rfl⟩, by simp [Followed.start], by
      simp [Followed.start], by simp [Followed.start]⟩
  obtain ⟨-, hf⟩ := tracked_run (gameTidy_step hw₁ hform) hstart hr₂
  refine hf.bound.trans (Nat.add_le_add_left ?_ _)
  split <;> simp

/-- A player searches. -/
def searchFrom (e : Endpoint) : GameEvent :=
  .own (.handle (fun _ => 0) (jobOf .findMatch MatchType.normal.name e))
    (by rintro (h | h) <;> cases h)

/-- The game server is asked twice for a match and answers twice; its first answer
is lost, and the second makes the service ask again under a new ID. -/
def askedTwice : List GameEvent :=
  [.own (.processMatchCreations fun _ => ⟨500000, 500000⟩) id, .deliver 2,
    .own (.processMatchCreations fun _ => ⟨1000000, 1000000⟩) id, .deliver 3,
    .reply (fun _ => 1100000) 1,
    .own (.processMatchCreations fun _ => ⟨1600000, 1600000⟩) id, .deliver 4,
    .reply (fun _ => 1700000) 2]

/-- Two players search, are paired, and the game server is asked as above: it
creates two matches, and the creation is confirmed under the second ID. -/
theorem exists_run_askedTwice : ∃ h₁ w₁ w₂ out c h₂ w₃,
    gameNetwork.machine.Run (Network.start initial []) h₁ w₁ ∧
      gameNetwork.step w₁ (.own (.processMatchmaking .normal fun _ => 0) id) = .ok (w₂, out) ∧
      w₂.base.pendingMatchCreations[0]? = some c ∧ gameNetwork.machine.Run w₂ h₂ w₃ ∧
      ((Followed.start 0 c).run h₂).created = [2, 1] ∧
      ((Followed.start 0 c).run h₂).position = none ∧
      w₃.base.pendingSessions.length = 1 := by
  obtain ⟨h₁, w₁, hr₁, hp⟩ := Machine.exists_run_of_exec (M := gameNetwork.machine)
    (s := Network.start initial [])
    (l := [searchFrom (⟨10, 0, 0, 1⟩, 5000), searchFrom (⟨10, 0, 0, 2⟩, 5000)])
    (P := fun _ w₁ =>
      Machine.okSat (gameNetwork.step w₁ (.own (.processMatchmaking .normal fun _ => 0) id))
        fun w₂ _ => ∃ c ∈ w₂.base.pendingMatchCreations[0]?,
          gameNetwork.machine.execSat w₂ askedTwice fun h₂ w₃ =>
            ((Followed.start 0 c).run h₂).created = [2, 1] ∧
              ((Followed.start 0 c).run h₂).position = none ∧
                w₃.base.pendingSessions.length = 1) (by decide +kernel)
  obtain ⟨w₂, out, hform, hp⟩ := Machine.exists_of_okSat hp
  obtain ⟨c, hc, hp⟩ := hp
  obtain ⟨h₂, w₃, hr₂, hp⟩ := Machine.exists_run_of_exec hp
  exact ⟨h₁, w₁, w₂, out, c, h₂, w₃, hr₁, hform, hc, hr₂, hp⟩

/-- In that run the bound is met. -/
theorem created_le_askedTwice : ∃ c h₂, ((Followed.start 0 c).run h₂).created = [2, 1] ∧
    ((Followed.start 0 c).run h₂).created.length ≤ ((Followed.start 0 c).run h₂).lateRekeys + 1 := by
  obtain ⟨h₁, w₁, w₂, out, c, h₂, w₃, hr₁, hform, hc, hr₂, hcreated, -⟩ := exists_run_askedTwice
  exact ⟨c, h₂, hcreated, created_le hr₁ hform hc hr₂⟩

/-- **One creation, two matches**: the resend of a request whose answer is late is
answered `MATCH_USED`, and the new ID makes a second match before the creation is
confirmed. -/
theorem two_matches_created : ∃ h₁ w₁ w₂ out c h₂ w₃,
    gameNetwork.machine.Run (Network.start initial []) h₁ w₁ ∧
      gameNetwork.step w₁ (.own (.processMatchmaking .normal fun _ => 0) id) = .ok (w₂, out) ∧
      w₂.base.pendingMatchCreations[0]? = some c ∧ gameNetwork.machine.Run w₂ h₂ w₃ ∧
      ((Followed.start 0 c).run h₂).position = none ∧ w₃.base.pendingSessions.length = 1 ∧
      ¬ ((Followed.start 0 c).run h₂).created.length ≤ 1 := by
  obtain ⟨h₁, w₁, w₂, out, c, h₂, w₃, hr₁, hform, hc, hr₂, hcreated, hgone, hsession⟩ :=
    exists_run_askedTwice
  exact ⟨h₁, w₁, w₂, out, c, h₂, w₃, hr₁, hform, hc, hr₂, hgone, hsession, by simp [hcreated]⟩

end MatchmakingServer

end ServiceServer
