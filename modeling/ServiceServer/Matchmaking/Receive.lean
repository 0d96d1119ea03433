import ServiceServer.Service
import Mathlib.Data.List.Forall2

/-!
# What a datagram can do

Any bytes from any sender may arrive.  Two questions are asked of each datagram:
can its handling throw, and whom does it touch?

* `deliver_safe_iff` — handling finishes, and ignores what it cannot interpret,
  unless a reply without a readable number arrives while a creation is pending.
* `deliver_clientOnly_iff` — a datagram touches its sender alone, unless it is a
  reply that names a pending creation: that one confirms or re-keys the creation, as no
  handler looks at where a reply is from.
-/

namespace ServiceServer

open Lib

namespace MatchmakingServer

/-- The two replies of the game server. -/
def IsReply (job : RawPacketJob) : Prop := job.type = .matchUnique ∨ job.type = .matchUsed

instance (job : RawPacketJob) : Decidable (IsReply job) := inferInstanceAs (Decidable (_ ∨ _))

/-! ## Exceptions -/

/-- **When a handler throws**: a reply whose content is no `int`, while there is
a creation to compare it with. -/
theorem handle_error_iff {s : MatchmakingServer} {now : Nat → Micros} {job : RawPacketJob}
    {ip : IpAddress} (hsender : job.sender = some ip) {e : Exception} :
    s.step (.handle now job) = .error e ↔
      IsReply job ∧ s.pendingMatchCreations ≠ [] ∧ stoi job.content = .error e := by
  have hsearch : searchLoop job.content s.pendingMatchCreations = .error e
      ↔ s.pendingMatchCreations ≠ [] ∧ stoi job.content = .error e := searchLoop_error_iff
  simp only [step, dispatch, IsReply]
  cases htype : job.type
  case findMatch =>
    simp only [subcribeActionHandlers, findMatchHandler, enqueueSearch, hsender, value]
    split_ifs <;> simp
  case cancelSearch => simp [subcribeActionHandlers, cancelSearchHandler, hsender, value]
  case matchUnique =>
    simp only [subcribeActionHandlers, matchUniqueHandler, true_or, true_and, ← hsearch]
    split <;> simp_all
  case matchUsed =>
    simp only [subcribeActionHandlers, matchUsedHandler, or_true, true_and, ← hsearch]
    split <;> simp_all
  all_goals simp [subcribeActionHandlers, ackMatchFoundHandler]

/-- Can the handlers make something of a job? -/
def Interpreted (job : RawPacketJob) : Prop :=
  match job.type with
  | .findMatch => ∃ t : MatchType, job.content = t.name
  | .cancelSearch | .ackMatchFound => True
  | .matchUnique | .matchUsed => ∃ id, stoi job.content = .ok id
  | _ => False

theorem ok_of_named {content : Bytes} {c : PendingMatchCreation} (h : named content c = true) :
    ∃ id, stoi content = .ok id ∧ c.matchData.matchID = UInt32.ofInt id := by
  unfold named at h
  split at h
  · cases h
  · exact ⟨_, ‹_›, by simpa using h⟩

/-- A job that is not interpreted changes nothing. -/
theorem eq_of_not_interpreted {s s' : MatchmakingServer} {now : Nat → Micros} {job : RawPacketJob}
    {out : List Datagram} (hjob : ¬ Interpreted job)
    (h : s.step (.handle now job) = .ok (s', out)) : s' = s := by
  cases effect_of_step h with
  | ignored => rfl
  | searched t htype hcontent => exact absurd (by simp [Interpreted, htype, hcontent]) hjob
  | cancelled htype => exact absurd (by simp [Interpreted, htype]) hjob
  | acked htype => exact absurd (by simp [Interpreted, htype]) hjob
  | confirmed _ _ _ htype _ hnamed =>
    obtain ⟨id, hid, -⟩ := ok_of_named hnamed
    exact absurd (by simp [Interpreted, htype, hid]) hjob
  | rekeyed _ _ _ htype _ hnamed =>
    obtain ⟨id, hid, -⟩ := ok_of_named hnamed
    exact absurd (by simp [Interpreted, htype, hid]) hjob

/-- The datagram carries a reply whose content `std::stoi` rejects. -/
def UnreadableReply (data : Bytes) (ip : IpAddress) (port : UInt16) : Prop :=
  ∃ job, parseRawDatagram data ip port = some job ∧ IsReply job ∧ ∃ e, stoi job.content = .error e

/-- Handling the datagram finishes, and leaves the state alone if no handler can
make anything of it. -/
def SafelyDelivered (s : MatchmakingServer) (now : Nat → Micros) (data : Bytes) (ip : IpAddress)
    (port : UInt16) : Prop :=
  ∃ s' out, s.deliver now data ip port = .ok (s', out) ∧
    ((∀ job ∈ parseRawDatagram data ip port, ¬ Interpreted job) → s' = s)

/-- **Exactly one kind of datagram brings the service down**: a `MATCH_UNIQUE` or
`MATCH_USED` without a readable number, when a creation is pending. -/
theorem deliver_safe_iff (s : MatchmakingServer) (now : Nat → Micros) (data : Bytes)
    (ip : IpAddress) (port : UInt16) :
    s.SafelyDelivered now data ip port ↔
      ¬ (UnreadableReply data ip port ∧ s.pendingMatchCreations ≠ []) := by
  unfold SafelyDelivered UnreadableReply
  rw [deliver_eq]
  cases hp : parseRawDatagram data ip port with
  | none => simp
  | some job =>
    have hsender := (sender_of_parseRawDatagram hp).1
    simp only [Option.some.injEq, exists_eq_left', Option.mem_def, forall_eq']
    cases hs : s.step (.handle now job) with
    | error e =>
      obtain ⟨hreply, hcs, hstoi⟩ := (handle_error_iff hsender).1 hs
      simp only [reduceCtorEq, false_and, exists_false, false_iff, not_not]
      exact ⟨⟨hreply, e, hstoi⟩, hcs⟩
    | ok r =>
      refine iff_of_true ⟨r.1, r.2, rfl, fun hjob => eq_of_not_interpreted hjob hs⟩ ?_
      rintro ⟨⟨hreply, e, hstoi⟩, hcs⟩
      rw [(handle_error_iff hsender).2 ⟨hreply, hcs, hstoi⟩] at hs
      cases hs

/-- Two players are paired, and a `MATCH_UNIQUE` with the content `a` from anyone
ends the process. -/
theorem deliver_throws : ∃ s, machine.Reachable initial s ∧ ∀ ip port,
    s.deliver (fun _ => 0) [4, 12, 97] ip port = .error .invalidArgument ∧
      ¬ s.SafelyDelivered (fun _ => 0) [4, 12, 97] ip port := by
  obtain ⟨h, s, hr, hp⟩ := Machine.exists_run_of_exec (M := machine) (s := initial)
    (l := twoPaired) (P := fun _ s => s.pendingMatchCreations ≠ []) (by decide +kernel)
  refine ⟨s, ⟨h, hr⟩, ?_⟩
  intro ip port
  have hthrow : s.deliver (fun _ => 0) [4, 12, 97] ip port = .error .invalidArgument := by
    rw [deliver_eq]
    exact (handle_error_iff rfl).2 ⟨.inl rfl, hp, rfl⟩
  refine ⟨hthrow, ?_⟩
  rintro ⟨s', out, hok, -⟩
  rw [hthrow] at hok
  cases hok

/-! ## Whom a datagram touches -/

/-- Between two states the entries of others on one queue are the same, and those
of `e` were only appended or removed. -/
def QueueTouchedBy (e : Endpoint) (q q' : List ClientMatchInfo) : Prop :=
  (q'.filter fun p => p.endpoint ≠ e) = (q.filter fun p => p.endpoint ≠ e) ∧
    (q'.Sublist q ∨ ∃ added, q' = q ++ added ∧ ∀ p ∈ added, p.endpoint = e)

/-- Between two states a player of a session changed at most in its flag, and only
if it is `e`. -/
def PlayerTouchedBy (e : Endpoint) (p q : PendingMatch) : Prop :=
  q = p ∨ p.player.endpoint = e ∧ q = { p with ackRecieved := true }

/-- Between two states only what belongs to `e` changed. -/
structure ClientOnly (e : Endpoint) (s s' : MatchmakingServer) : Prop where
  lastMatchID : s'.lastMatchID = s.lastMatchID
  creations : s'.pendingMatchCreations = s.pendingMatchCreations
  sessions : List.Forall₂ (fun a b => List.Forall₂ (PlayerTouchedBy e) a.players b.players)
    s.pendingSessions s'.pendingSessions
  queues : ∀ t, QueueTouchedBy e (s.queueOf t) (s'.queueOf t)

theorem QueueTouchedBy.refl (e : Endpoint) (q : List ClientMatchInfo) : QueueTouchedBy e q q :=
  ⟨rfl, .inl (List.Sublist.refl q)⟩

theorem queueTouchedBy_filter (e : Endpoint) (q : List ClientMatchInfo) :
    QueueTouchedBy e q (q.filter fun p => p.endpoint ≠ e) :=
  ⟨by rw [List.filter_filter]; simp, .inl List.filter_sublist⟩

theorem queueTouchedBy_append {e : Endpoint} {p : ClientMatchInfo} (hp : p.endpoint = e)
    (q : List ClientMatchInfo) : QueueTouchedBy e q (q ++ [p]) :=
  ⟨by simp [List.filter_append, hp], .inr ⟨[p], rfl, by simpa using hp⟩⟩

theorem ClientOnly.refl (e : Endpoint) (s : MatchmakingServer) : ClientOnly e s s where
  lastMatchID := rfl
  creations := rfl
  sessions := List.forall₂_same.2 fun _ _ => List.forall₂_same.2 fun _ _ => .inl rfl
  queues _ := .refl e _

theorem playerTouchedBy_ackPlayer {job : RawPacketJob} {e : Endpoint}
    (hsender : job.sender = some e.1) (hport : job.port = e.2) (p : PendingMatch) :
    PlayerTouchedBy e p (ackPlayer job p) := by
  by_cases hcond : some p.player.ip = job.sender ∧ p.player.port = job.port
  · rw [ackPlayer, if_pos hcond]
    obtain ⟨hip, hp⟩ := hcond
    rw [hsender, Option.some.injEq] at hip
    exact .inr ⟨Prod.ext hip (hp.trans hport), rfl⟩
  · rw [ackPlayer, if_neg hcond]
    exact .inl rfl

/-- What is not a reply naming a creation touches its sender alone. -/
theorem clientOnly_of_step {s s' : MatchmakingServer} {now : Nat → Micros} {job : RawPacketJob}
    {out : List Datagram} {e : Endpoint} (hsender : job.sender = some e.1) (hport : job.port = e.2)
    (hjob : ¬ (IsReply job ∧ ∃ c ∈ s.pendingMatchCreations, named job.content c = true))
    (h : s.step (.handle now job) = .ok (s', out)) : ClientOnly e s s' := by
  have hself : ∀ ip, job.sender = some ip → (ip, job.port) = e := fun ip hip =>
    Prod.ext (Option.some.inj (hip.symm.trans hsender)) hport
  cases effect_of_step h with
  | ignored => exact .refl e s
  | @searched _ _ ip t _ _ hip =>
    refine ⟨by simp, by simp, by simpa using (ClientOnly.refl e s).sessions, ?_⟩
    intro u
    have happend := queueTouchedBy_append (e := e) (p := { ip := ip, port := job.port })
      (hself ip hip) (s.queueOf t)
    cases t <;> cases u <;> first | exact happend | exact .refl e _
  | @cancelled _ _ ip _ hip =>
    rw [hself ip hip]
    refine ⟨rfl, rfl, (ClientOnly.refl e s).sessions, ?_⟩
    intro u
    cases u
    · exact queueTouchedBy_filter e s.normalQueue
    · exact queueTouchedBy_filter e s.rankedQueue
  | acked =>
    refine ⟨rfl, rfl, ?_, fun u => .refl e _⟩
    refine List.forall₂_map_right_iff.2 (List.forall₂_same.2 ?_)
    intro session _
    exact List.forall₂_map_right_iff.2 (List.forall₂_same.2 fun p _ =>
      playerTouchedBy_ackPlayer hsender hport p)
  | confirmed _ c _ htype hcs hnamed =>
    exact absurd ⟨.inl htype, c, by simp [hcs], hnamed⟩ hjob
  | rekeyed _ c _ htype hcs hnamed =>
    exact absurd ⟨.inr htype, c, by simp [hcs], hnamed⟩ hjob

/-- What a reply does with the first creation it names: a `MATCH_UNIQUE` confirms it, and it
becomes a session; a `MATCH_USED` gives it the next ID. -/
def ConfirmsOrRekeys (s s' : MatchmakingServer) (now : Nat → Micros) (job : RawPacketJob) : Prop :=
  ∃ before c after, s.pendingMatchCreations = before ++ c :: after ∧
    named job.content c = true ∧ (∀ b ∈ before, named job.content b = false) ∧
    (job.type = .matchUnique ∧
        s' = { s with
          pendingSessions := s.pendingSessions ++
            [⟨sessionPlayers c.matchData now c.matchData.players⟩]
          pendingMatchCreations := before ++ after } ∨
      job.type = .matchUsed ∧
        s' = { s with
          lastMatchID := s.lastMatchID + 1
          pendingMatchCreations := before ++ rekey c (s.lastMatchID + 1) (now 0) :: after })

theorem confirmsOrRekeys_of_step {s s' : MatchmakingServer} {now : Nat → Micros}
    {job : RawPacketJob} {out : List Datagram} (hreply : IsReply job) {c : PendingMatchCreation}
    (hc : c ∈ s.pendingMatchCreations) (hnamed : named job.content c = true)
    (h : s.step (.handle now job) = .ok (s', out)) : ConfirmsOrRekeys s s' now job := by
  cases effect_of_step h with
  | ignored _ _ _ hnone => simp [hnone hreply c hc] at hnamed
  | confirmed before b after htype hcs hb hbefore =>
    exact ⟨before, b, after, hcs, hb, hbefore, .inl ⟨htype, rfl⟩⟩
  | rekeyed before b after htype hcs hb hbefore =>
    exact ⟨before, b, after, hcs, hb, hbefore, .inr ⟨htype, rfl⟩⟩
  | searched _ htype => rcases hreply with h | h <;> simp [h] at htype
  | cancelled htype => rcases hreply with h | h <;> simp [h] at htype
  | acked htype => rcases hreply with h | h <;> simp [h] at htype

/-- That touches more than its sender, whoever that is. -/
theorem ConfirmsOrRekeys.not_clientOnly {s s' : MatchmakingServer} {now : Nat → Micros}
    {job : RawPacketJob} (h : ConfirmsOrRekeys s s' now job) (e : Endpoint) :
    ¬ ClientOnly e s s' := by
  intro hclient
  obtain ⟨before, c, after, hcs, -, -, ⟨-, rfl⟩ | ⟨-, rfl⟩⟩ := h
  · have hlen := congrArg List.length hclient.creations
    simp [hcs] at hlen
  · have hid : s.lastMatchID + 1 = s.lastMatchID := hclient.lastMatchID
    simp at hid

/-- The handler of a reply does not look at where the reply is from. -/
theorem dispatch_reply (s : MatchmakingServer) (now : Nat → Micros) {job : RawPacketJob}
    (hreply : IsReply job) (sender : Option IpAddress) (port : UInt16) :
    s.dispatch now { job with sender := sender, port := port } = s.dispatch now job := by
  rcases hreply with htype | htype
  · simp only [dispatch, htype, subcribeActionHandlers, matchUniqueHandler]
  · simp only [dispatch, htype, subcribeActionHandlers, matchUsedHandler]

/-- **A datagram touches its sender alone, or it is a reply that names a pending
creation.**  Such a reply confirms or re-keys the creation, and would do the same from any
other endpoint. -/
theorem deliver_clientOnly_iff {s s' : MatchmakingServer} {now : Nat → Micros} {data : Bytes}
    {ip : IpAddress} {port : UInt16} {out : List Datagram}
    (h : s.deliver now data ip port = .ok (s', out)) :
    (ClientOnly (ip, port) s s' ↔
      ∀ job ∈ parseRawDatagram data ip port,
        ¬ (IsReply job ∧ ∃ c ∈ s.pendingMatchCreations, named job.content c = true)) ∧
      ∀ job ∈ parseRawDatagram data ip port,
        (IsReply job ∧ ∃ c ∈ s.pendingMatchCreations, named job.content c = true) →
          ConfirmsOrRekeys s s' now job ∧
            ∀ ip' port', s.deliver now data ip' port' = .ok (s', out) := by
  rw [deliver_eq] at h
  cases hp : parseRawDatagram data ip port with
  | none =>
    simp only [hp, Except.ok.injEq, Prod.mk.injEq] at h
    obtain ⟨rfl, rfl⟩ := h
    exact ⟨iff_of_true (.refl _ s) (by simp), by simp⟩
  | some job =>
    simp only [hp] at h
    obtain ⟨hsender, hport⟩ := sender_of_parseRawDatagram hp
    simp only [Option.mem_def, Option.some.injEq, forall_eq']
    refine ⟨⟨?_, fun hjob => clientOnly_of_step hsender hport hjob h⟩, ?_⟩
    · rintro hclient ⟨hreply, c, hc, hnamed⟩
      exact (confirmsOrRekeys_of_step hreply hc hnamed h).not_clientOnly _ hclient
    · rintro ⟨hreply, c, hc, hnamed⟩
      refine ⟨confirmsOrRekeys_of_step hreply hc hnamed h, fun ip' port' => ?_⟩
      rw [deliver_eq, parseRawDatagram_from hp ip' port', ← h]
      exact dispatch_reply s now hreply (some ip') port'

/-- A search touches only the player that searches. -/
theorem deliver_clientOnly_search : ∃ s',
    initial.deliver (fun _ => 0) (createRawDatagram 4 .findMatch MatchType.normal.name)
      ⟨10, 0, 0, 1⟩ 5000 = .ok (s', [sendDatagram .urgent .searchAck [] ⟨10, 0, 0, 1⟩ 5000]) ∧
      s' ≠ initial ∧ ClientOnly (⟨10, 0, 0, 1⟩, 5000) initial s' := by
  have h : initial.deliver (fun _ => 0) (createRawDatagram 4 .findMatch MatchType.normal.name)
      ⟨10, 0, 0, 1⟩ 5000 = .ok ({ normalQueue := [{ ip := ⟨10, 0, 0, 1⟩, port := 5000 }] },
        [sendDatagram .urgent .searchAck [] ⟨10, 0, 0, 1⟩ 5000]) := by decide
  refine ⟨_, h, by decide, (deliver_clientOnly_iff h).1.2 ?_⟩
  rintro job - ⟨-, c, hc, -⟩
  simp [initial] at hc

/-- An outsider sends `MATCH_UNIQUE` or `MATCH_USED` with the content `1`, the ID
of the first match: the one confirms a creation it has no part in, the other
gives it a new ID. -/
theorem forged_reply : ∃ s, machine.Reachable initial s ∧
    (∃ s₁ out, s.deliver (fun _ => 0) (createRawDatagram 4 .matchUnique (decimal 1))
        ⟨10, 9, 9, 9⟩ 6666 = .ok (s₁, out) ∧
      s.pendingMatchCreations ≠ [] ∧ s₁.pendingMatchCreations = [] ∧
      ¬ ClientOnly (⟨10, 9, 9, 9⟩, 6666) s s₁) ∧
    ∃ s₂ out, s.deliver (fun _ => 0) (createRawDatagram 4 .matchUsed (decimal 1))
        ⟨10, 9, 9, 9⟩ 6666 = .ok (s₂, out) ∧
      s₂.lastMatchID ≠ s.lastMatchID ∧ ¬ ClientOnly (⟨10, 9, 9, 9⟩, 6666) s s₂ := by
  let forge (s : MatchmakingServer) (type : PacketType) : HandlerResult :=
    s.deliver (fun _ => 0) (createRawDatagram 4 type (decimal 1)) ⟨10, 9, 9, 9⟩ 6666
  obtain ⟨h, s, hr, hp⟩ := Machine.exists_run_of_exec (M := machine) (s := initial)
    (l := twoPaired)
    (P := fun _ s => Machine.okSat (forge s .matchUnique) fun s₁ _ =>
      Machine.okSat (forge s .matchUsed) (fun s₂ _ => s.pendingMatchCreations ≠ [] ∧
        s₁.pendingMatchCreations = [] ∧ s₂.lastMatchID ≠ s.lastMatchID) = true) (by decide +kernel)
  obtain ⟨s₁, out₁, h₁, hp⟩ := Machine.exists_of_okSat hp
  obtain ⟨s₂, out₂, h₂, hne, hnil, hid⟩ := Machine.exists_of_okSat hp
  refine ⟨s, ⟨h, hr⟩, ⟨s₁, out₁, h₁, hne, hnil, ?_⟩, s₂, out₂, h₂, hid, ?_⟩
  · intro hclient
    exact hne (hclient.creations ▸ hnil)
  · intro hclient
    exact hid hclient.lastMatchID

end MatchmakingServer

end ServiceServer
