import ServiceServer.Dispatcher.Loop
import ServiceServer.Matchmaking.Receive
import ServiceServer.Matchmaking.Cancel

/-!
# In which order requests take effect

A client that searches and cancels sends several requests, and the header of each
decides how urgent it is.  The dispatcher handles them class by class, so a later
request may overtake an earlier one.

* `queued_handle` — what a handled job does to one client's place in the queues.
* `last_handled_wins` — the request handled last decides whether a client is queued,
  and that is the one received last unless it overtook another.
* `cancel_overtakes_search` — an urgent cancel that was sent after a search is handled
  before it.
-/

namespace ServiceServer

open Lib

/-- What a client asks of the matchmaking. -/
inductive Request where
  | search
  | cancel
  deriving DecidableEq, Repr

/-- What a job asks on behalf of `e`: nothing if it comes from elsewhere. -/
def requestOf (e : Endpoint) (job : RawPacketJob) : Option Request :=
  if job.sender = some e.1 ∧ job.port = e.2 then
    if job.type = .findMatch ∧
        (job.content = MatchType.normal.name ∨ job.content = MatchType.ranked.name) then
      some .search
    else if job.type = .cancelSearch then some .cancel
    else none
  else none

namespace MatchmakingServer

/-- `e` stands in one of the queues. -/
def Queued (s : MatchmakingServer) (e : Endpoint) : Prop := ¬ s.OutOfQueues e

instance (s : MatchmakingServer) (e : Endpoint) : Decidable (s.Queued e) :=
  inferInstanceAs (Decidable (¬ _))

theorem queued_iff {s : MatchmakingServer} {e : Endpoint} :
    s.Queued e ↔ ∃ t, ∃ p ∈ s.queueOf t, p.endpoint = e := by
  rw [Queued, outOfQueues_iff]
  simp only [not_forall, not_not, exists_prop]

/-- Pushing a player queues it and nobody else. -/
theorem queued_pushQueue {s : MatchmakingServer} {t : MatchType} {p : ClientMatchInfo}
    {e : Endpoint} : (s.pushQueue t p).Queued e ↔ p.endpoint = e ∨ s.Queued e := by
  have hmem : ∀ u q, q ∈ (s.pushQueue t p).queueOf u ↔ q ∈ s.queueOf u ∨ (u = t ∧ q = p) := by
    intro u q
    cases t <;> cases u <;> simp [pushQueue, setQueue, queueOf]
  rw [queued_iff, queued_iff]
  constructor
  · rintro ⟨u, q, hq, heq⟩
    rcases (hmem u q).1 hq with hold | ⟨-, rfl⟩
    · exact .inr ⟨u, q, hold, heq⟩
    · exact .inl heq
  · rintro (heq | ⟨u, q, hq, heq⟩)
    · exact ⟨t, p, (hmem t p).2 (.inr ⟨rfl, rfl⟩), heq⟩
    · exact ⟨u, q, (hmem u q).2 (.inl hq), heq⟩

/-- **What a handled job does to a client's place**: a search puts it in, a cancel
takes it out, and nothing else touches it. -/
theorem queued_handle {s s' : MatchmakingServer} {now : Nat → Micros} {job : RawPacketJob}
    {out : List Datagram} {e : Endpoint} (h : s.step (.handle now job) = .ok (s', out)) :
    s'.Queued e ↔ match requestOf e job with
      | some .search => True
      | some .cancel => False
      | none => s.Queued e := by
  have hother : job.type ≠ .cancelSearch →
      (job.type = .findMatch → ∀ t : MatchType, job.content ≠ t.name) → requestOf e job = none := by
    intro hcancel hsearch
    unfold requestOf
    split_ifs with hfrom hfind
    · obtain ⟨htype, hcontent | hcontent⟩ := hfind
      · exact absurd hcontent (hsearch htype .normal)
      · exact absurd hcontent (hsearch htype .ranked)
    · rfl
    · rfl
  cases effect_of_step h with
  | ignored hsearch hcancel =>
    rw [hother hcancel fun htype t => hsearch t htype]
  | @searched _ _ ip t htype hcontent hsender =>
    rw [queued_pushQueue]
    by_cases he : (ip, job.port) = e
    · subst he
      have hreq : requestOf (ip, job.port) job = some .search := by
        cases t <;> simp [requestOf, hsender, htype, hcontent]
      simp [hreq, ClientMatchInfo.endpoint]
    · have hreq : requestOf e job = none := by
        unfold requestOf
        rw [if_neg]
        rintro ⟨hip, hport⟩
        rw [hsender, Option.some.injEq] at hip
        exact he (Prod.ext hip hport)
      rw [hreq]
      exact or_iff_right he
  | @cancelled _ _ ip htype hsender =>
    have hmem : Queued { s with
        normalQueue := s.normalQueue.filter fun p => p.endpoint ≠ (ip, job.port)
        rankedQueue := s.rankedQueue.filter fun p => p.endpoint ≠ (ip, job.port) } e
          ↔ s.Queued e ∧ e ≠ (ip, job.port) := by
      rw [queued_iff, queued_iff]
      constructor
      · rintro ⟨_ | _, p, hp, rfl⟩
        · obtain ⟨hp, hne⟩ := List.mem_filter.1 hp
          exact ⟨⟨.normal, p, hp, rfl⟩, by simpa using hne⟩
        · obtain ⟨hp, hne⟩ := List.mem_filter.1 hp
          exact ⟨⟨.ranked, p, hp, rfl⟩, by simpa using hne⟩
      · rintro ⟨⟨_ | _, p, hp, rfl⟩, hne⟩
        · exact ⟨.normal, p, List.mem_filter.2 ⟨hp, by simpa using hne⟩, rfl⟩
        · exact ⟨.ranked, p, List.mem_filter.2 ⟨hp, by simpa using hne⟩, rfl⟩
    rw [hmem]
    by_cases he : e = (ip, job.port)
    · subst he
      have hreq : requestOf (ip, job.port) job = some .cancel := by
        simp [requestOf, hsender, htype]
      simp [hreq]
    · have hreq : requestOf e job = none := by
        unfold requestOf
        rw [if_neg]
        rintro ⟨hip, hport⟩
        rw [hsender, Option.some.injEq] at hip
        exact he (Prod.ext hip.symm hport.symm)
      rw [hreq]
      exact and_iff_left he
  | acked htype => rw [hother (by simp [htype]) (by simp [htype])]; rfl
  | confirmed _ _ _ htype => rw [hother (by simp [htype]) (by simp [htype])]; rfl
  | rekeyed _ _ _ htype => rw [hother (by simp [htype]) (by simp [htype])]; rfl

end MatchmakingServer

namespace Service

/-! ## Receiving and handling -/

/-- The job a step receives. -/
def receivedJob : ServiceStep → Option RawPacketJob
  | .receive data ip port => parseRawDatagram data ip port
  | _ => none

/-- The job a step takes and handles. -/
def handledJob (v : Service) : ServiceStep → Option RawPacketJob
  | .dispatch _ => v.dispatcher.takeJob.map Prod.fst
  | _ => none

/-- Is a step a pass of the main loop, and not a datagram received or a job
handled? -/
def IsPass : ServiceStep → Prop
  | .receive .. | .dispatch _ => False
  | _ => True

instance : DecidablePred IsPass
  | .receive .. => isFalse id
  | .dispatch _ => isFalse id
  | .processMatchmaking .. => isTrue trivial
  | .processMatchCreations _ => isTrue trivial
  | .processMatchSessionsACKS _ => isTrue trivial

/-- A run of the whole service. -/
abbrev History := List (Transition Service ServiceStep (List Datagram))

/-- The request of `e` that was handled last. -/
def lastRequest (e : Endpoint) (h : History) : Option Request :=
  (h.flatMap fun t => ((handledJob t.pre t.label).bind (requestOf e)).toList).getLast?

/-- A service that was started, each of whose queues holds jobs of its class. -/
structure Ready (v : Service) : Prop where
  started : v.Started
  sorted : v.dispatcher.Sorted

theorem ready_initial : initial.Ready := by
  refine ⟨started_initial, ?_⟩
  rintro (_ | _ | _) job hjob <;> simp [initial, PacketDispatcher.waiting] at hjob

/-- What receiving does to the dispatcher. -/
theorem receive_eq {H : Type} (d : PacketDispatcher H) (data : Bytes) (ip : IpAddress)
    (port : UInt16) :
    receive d data ip port = (receivedJob (.receive data ip port)).elim d d.enqueuePacket := by
  show receive d data ip port = (parseRawDatagram data ip port).elim d d.enqueuePacket
  unfold receive
  cases parseRawDatagram data ip port with
  | none => rfl
  | some job => rfl

/-- A round of the dispatcher takes nothing, or handles the job it takes. -/
theorem dispatchRound_cases {v v' : Service} {now : Nat → Micros} {out : List Datagram}
    (hv : v.Started) (h : v.dispatchRound now = .ok (v', out)) :
    (v.dispatcher.takeJob = none ∧ v' = v) ∨ ∃ job,
      v.dispatcher.takeJob = some (job, v'.dispatcher) ∧
        v.server.step (.handle now job) = .ok (v'.server, out) := by
  cases ht : v.dispatcher.takeJob with
  | none =>
    simp only [dispatchRound, ht, Except.ok.injEq, Prod.mk.injEq] at h
    exact .inl ⟨rfl, h.1.symm⟩
  | some r =>
    obtain ⟨job, d⟩ := r
    rw [dispatchRound_eq hv ht] at h
    cases hdis : v.server.dispatch now job with
    | error e => simp [hdis, Except.map] at h
    | ok q =>
      simp only [hdis, Except.map, Except.ok.injEq, Prod.mk.injEq] at h
      obtain ⟨rfl, rfl⟩ := h
      exact .inr ⟨job, rfl, hdis⟩

theorem ready_step {v v' : Service} {l : ServiceStep} {out : List Datagram} (hv : v.Ready)
    (h : v.step l = .ok (v', out)) : v'.Ready := by
  refine ⟨started_step hv.started h, ?_⟩
  cases l with
  | receive data ip port =>
    cases h
    show (receive v.dispatcher data ip port).Sorted
    rw [receive_eq]
    cases receivedJob (.receive data ip port) with
    | none => exact hv.sorted
    | some job => exact hv.sorted.enqueuePacket job
  | dispatch now =>
    rcases dispatchRound_cases hv.started h with ⟨-, rfl⟩ | ⟨job, ht, -⟩
    · exact hv.sorted
    · exact (PacketDispatcher.takeJob_eq_some hv.sorted ht).2.2.1
  | processMatchmaking t now => cases h; exact hv.sorted
  | processMatchCreations now => cases h; exact hv.sorted
  | processMatchSessionsACKS now => cases h; exact hv.sorted

/-- **The step lemma**: between passes only a handled request of `e` changes whether
`e` is queued. -/
theorem queued_step {v v' : Service} {l : ServiceStep} {out : List Datagram} {e : Endpoint}
    (hv : v.Ready) (hl : ¬ IsPass l) (h : v.step l = .ok (v', out)) :
    v'.server.Queued e ↔ match (handledJob v l).bind (requestOf e) with
      | some .search => True
      | some .cancel => False
      | none => v.server.Queued e := by
  cases l with
  | receive data ip port =>
    cases h
    exact Iff.rfl
  | dispatch now =>
    rcases dispatchRound_cases hv.started h with ⟨ht, rfl⟩ | ⟨job, ht, hs⟩
    · simp [handledJob, ht]
    · simp only [handledJob, ht, Option.map_some, Option.bind_some]
      exact MatchmakingServer.queued_handle hs
  | processMatchmaking t now => exact absurd trivial hl
  | processMatchCreations now => exact absurd trivial hl
  | processMatchSessionsACKS now => exact absurd trivial hl

/-- **The run lemma**: between passes `e` is queued when its last handled request was
a search. -/
theorem queued_run {v v' : Service} {h : History} {e : Endpoint} (hv : v.Ready)
    (hr : machine.Run v h v') (hsteps : ∀ t ∈ h, ¬ IsPass t.label)
    (he : ¬ v.server.Queued e) :
    v'.Ready ∧ (v'.server.Queued e ↔ lastRequest e h = some .search) := by
  induction hr with
  | nil => exact ⟨hv, by simpa [lastRequest] using he⟩
  | @snoc h w w' l out _ hstep ih =>
    rw [List.forall_mem_append, List.forall_mem_singleton] at hsteps
    obtain ⟨hw, hqueued⟩ := ih hsteps.1
    refine ⟨ready_step hw hstep, ?_⟩
    rw [queued_step hw hsteps.2 hstep, lastRequest, List.flatMap_append, List.flatMap_singleton]
    cases hreq : (handledJob w l).bind (requestOf e) with
    | none => simpa [lastRequest] using hqueued
    | some r => cases r <;> simp

/-! ## The request received last -/

/-- The job waits; behind it in its class, and in every lower class, no request of `e`
does. -/
def WaitsLast (e : Endpoint) (job : RawPacketJob) (d : PacketDispatcher MatchmakingServer.Handler) :
    Prop :=
  (∃ before after,
      d.waiting (PacketDispatcher.classOf job.headerMask) = before ++ job :: after ∧
      ∀ x ∈ after, requestOf e x = none) ∧
    ∀ b : PacketHeader, b.mask < (PacketDispatcher.classOf job.headerMask).mask →
      ∀ x ∈ d.waiting b, requestOf e x = none

/-- No request of `e` waits, and the job was the last of them. -/
def HandledLast (e : Endpoint) (job : RawPacketJob) (v : Service) : Prop :=
  (∀ c, ∀ x ∈ v.dispatcher.waiting c, requestOf e x = none) ∧
    (v.server.Queued e ↔ requestOf e job = some .search)

/-- A job that is not a request of `e` is enqueued: the last request stays the last. -/
theorem WaitsLast.enqueuePacket {e : Endpoint} {job x : RawPacketJob}
    {d : PacketDispatcher MatchmakingServer.Handler} (hd : WaitsLast e job d)
    (hx : requestOf e x = none) : WaitsLast e job (d.enqueuePacket x) := by
  obtain ⟨⟨before, after, hwaiting, hafter⟩, hlower⟩ := hd
  have hof : ∀ c, ∀ y ∈ PacketDispatcher.ofClass c x, requestOf e y = none := by
    intro c y hy
    unfold PacketDispatcher.ofClass at hy
    split at hy
    · rw [List.mem_singleton.1 hy]
      exact hx
    · simp at hy
  refine ⟨⟨before,
    after ++ PacketDispatcher.ofClass (PacketDispatcher.classOf job.headerMask) x, ?_, ?_⟩, ?_⟩
  · rw [PacketDispatcher.waiting_enqueuePacket, hwaiting]
    simp
  · intro y hy
    rcases List.mem_append.1 hy with hy | hy
    · exact hafter y hy
    · exact hof _ y hy
  · intro b hb y hy
    rw [PacketDispatcher.waiting_enqueuePacket, List.mem_append] at hy
    rcases hy with hy | hy
    · exact hlower b hb y hy
    · exact hof b y hy

/-- A job is taken: the last request stays the last, or it is the one taken and no
other waits. -/
theorem WaitsLast.takeJob {e : Endpoint} {job x : RawPacketJob}
    {d d' : PacketDispatcher MatchmakingServer.Handler} (hsorted : d.Sorted)
    (hd : WaitsLast e job d) (ht : d.takeJob = some (x, d')) :
    WaitsLast e job d' ∨ x = job ∧ ∀ c, ∀ y ∈ d'.waiting c, requestOf e y = none := by
  obtain ⟨⟨before, after, hwaiting, hafter⟩, hlower⟩ := hd
  obtain ⟨hqueues, habove, -, -⟩ := PacketDispatcher.takeJob_eq_some hsorted ht
  have hsame : ∀ b, b ≠ PacketDispatcher.classOf x.headerMask → d.waiting b = d'.waiting b := by
    intro b hb
    rw [hqueues b, PacketDispatcher.ofClass, if_neg (Ne.symm hb), List.nil_append]
  have hhead : d.waiting (PacketDispatcher.classOf x.headerMask)
      = x :: d'.waiting (PacketDispatcher.classOf x.headerMask) := by
    rw [hqueues, PacketDispatcher.ofClass, if_pos rfl, List.singleton_append]
  have hsub : ∀ b, ∀ y ∈ d'.waiting b, y ∈ d.waiting b := by
    intro b y hy
    rw [hqueues b]
    exact List.mem_append_right _ hy
  by_cases hclass : PacketDispatcher.classOf x.headerMask = PacketDispatcher.classOf job.headerMask
  · rw [hclass] at hhead habove
    rw [hwaiting] at hhead
    cases before with
    | nil =>
      -- the last request itself is taken
      obtain ⟨rfl, hrest⟩ := List.cons.inj hhead
      refine .inr ⟨rfl, ?_⟩
      intro b y hy
      by_cases hb : b = PacketDispatcher.classOf job.headerMask
      · subst hb
        rw [← hrest] at hy
        exact hafter y hy
      · by_cases hlt : b.mask < (PacketDispatcher.classOf job.headerMask).mask
        · exact hlower b hlt y (hsub b y hy)
        · have hgt : (PacketDispatcher.classOf job.headerMask).mask < b.mask := by
            revert hb hlt
            cases b <;> cases PacketDispatcher.classOf job.headerMask <;> decide
          have hmem := hsub b y hy
          rw [habove b hgt] at hmem
          simp at hmem
    | cons b before =>
      obtain ⟨-, hrest⟩ := List.cons.inj hhead
      refine .inl ⟨⟨before, after, hrest.symm, hafter⟩, ?_⟩
      intro b' hb' y hy
      exact hlower b' hb' y (hsub b' y hy)
  · refine .inl ⟨⟨before, after, ?_, hafter⟩, ?_⟩
    · rw [← hsame _ (Ne.symm hclass)]
      exact hwaiting
    · intro b hb y hy
      exact hlower b hb y (hsub b y hy)

/-- **The last request stays the last**, as long as `e` sends no other. -/
theorem last_step {v v' : Service} {l : ServiceStep} {out : List Datagram} {e : Endpoint}
    {job : RawPacketJob} (hv : v.Ready) (hl : ¬ IsPass l)
    (hreceived : ∀ x ∈ receivedJob l, requestOf e x = none)
    (hreq : (requestOf e job).isSome)
    (hlast : WaitsLast e job v.dispatcher ∨ HandledLast e job v)
    (h : v.step l = .ok (v', out)) : WaitsLast e job v'.dispatcher ∨ HandledLast e job v' := by
  have hqueued := queued_step (e := e) hv hl h
  cases l with
  | receive data ip port =>
    cases h
    show WaitsLast e job (receive v.dispatcher data ip port) ∨ _
    rw [HandledLast]
    simp only [receive_eq]
    cases hx : receivedJob (.receive data ip port) with
    | none => exact hlast
    | some x =>
      have hnone := hreceived x hx
      rcases hlast with hwait | ⟨hnothing, hdone⟩
      · exact .inl (hwait.enqueuePacket hnone)
      · refine .inr ⟨?_, hdone⟩
        intro c y hy
        rw [Option.elim_some, PacketDispatcher.waiting_enqueuePacket, List.mem_append] at hy
        rcases hy with hy | hy
        · exact hnothing c y hy
        · unfold PacketDispatcher.ofClass at hy
          split at hy
          · rw [List.mem_singleton.1 hy]
            exact hnone
          · simp at hy
  | dispatch now =>
    rcases dispatchRound_cases hv.started h with ⟨-, rfl⟩ | ⟨x, ht, -⟩
    · exact hlast
    · simp only [handledJob, ht, Option.map_some, Option.bind_some] at hqueued
      rcases hlast with hwait | ⟨hnothing, hdone⟩
      · rcases hwait.takeJob hv.sorted ht with hwait' | ⟨rfl, hnothing'⟩
        · exact .inl hwait'
        · refine .inr ⟨hnothing', hqueued.trans ?_⟩
          obtain ⟨r, hr⟩ := Option.isSome_iff_exists.1 hreq
          rw [hr]
          cases r <;> simp
      · have hqueues := (PacketDispatcher.takeJob_eq_some hv.sorted ht).1
        have hx : requestOf e x = none := by
          refine hnothing (PacketDispatcher.classOf x.headerMask) x ?_
          rw [hqueues, PacketDispatcher.ofClass, if_pos rfl]
          exact List.mem_append_left _ (List.mem_singleton_self x)
        rw [hx] at hqueued
        refine .inr ⟨?_, hqueued.trans hdone⟩
        intro c y hy
        refine hnothing c y ?_
        rw [hqueues c]
        exact List.mem_append_right _ hy
  | processMatchmaking t now => exact absurd trivial hl
  | processMatchCreations now => exact absurd trivial hl
  | processMatchSessionsACKS now => exact absurd trivial hl

theorem mem_jobs_iff {H : Type} {d : PacketDispatcher H} {x : RawPacketJob} :
    x ∈ d.jobs ↔ ∃ c, x ∈ d.waiting c := by
  simp only [PacketDispatcher.jobs, List.mem_append]
  constructor
  · rintro ((h | h) | h)
    · exact ⟨.urgent, h⟩
    · exact ⟨.critic, h⟩
    · exact ⟨.normal, h⟩
  · rintro ⟨_ | _ | _, h⟩
    · exact .inr h
    · exact .inl (.inr h)
    · exact .inl (.inl h)

/-- The request a client sends last overtakes no other if none of them waits in a lower
class. -/
theorem waitsLast_receive {v v' : Service} {l : ServiceStep} {out : List Datagram} {e : Endpoint}
    {job : RawPacketJob} (hv : v.Ready) (hjob : receivedJob l = some job)
    (hnone : ∀ x ∈ v.dispatcher.jobs, (requestOf e x).isSome →
      ¬ (PacketDispatcher.classOf x.headerMask).mask
        < (PacketDispatcher.classOf job.headerMask).mask)
    (h : v.step l = .ok (v', out)) : WaitsLast e job v'.dispatcher := by
  cases l with
  | receive data ip port =>
    cases h
    show WaitsLast e job (receive v.dispatcher data ip port)
    rw [receive_eq, hjob, Option.elim_some]
    refine ⟨⟨v.dispatcher.waiting (PacketDispatcher.classOf job.headerMask), [], ?_, by simp⟩,
      ?_⟩
    · rw [PacketDispatcher.waiting_enqueuePacket, PacketDispatcher.ofClass, if_pos rfl]
    · intro b hb x hx
      have hne : PacketDispatcher.classOf job.headerMask ≠ b := by
        rintro rfl
        exact absurd hb (UInt8.lt_irrefl _)
      rw [PacketDispatcher.waiting_enqueuePacket, PacketDispatcher.ofClass, if_neg hne,
        List.append_nil] at hx
      by_contra hreq
      rw [← ne_eq, Option.ne_none_iff_isSome] at hreq
      refine hnone x (mem_jobs_iff.2 ⟨b, hx⟩) hreq ?_
      rw [hv.sorted b x hx]
      exact hb
  | dispatch now => simp [receivedJob] at hjob
  | processMatchmaking t now => simp [receivedJob] at hjob
  | processMatchCreations now => simp [receivedJob] at hjob
  | processMatchSessionsACKS now => simp [receivedJob] at hjob

/-- **The request handled last decides.**  A client that stands nowhere sends searches
and cancels under any headers, others send what they like, and no pass runs.  When
nothing waits any more, the client is queued if its request that was handled last was a
search.  That is the request received last, unless an earlier one of the client still
waited in a lower class when it came. -/
theorem last_handled_wins {v v' : Service} {h : History} {e : Endpoint}
    (hv : machine.Reachable initial v) (he : e ∉ v.server.endpoints)
    (hr : machine.Run v h v') (hsteps : ∀ t ∈ h, ¬ IsPass t.label)
    (hidle : v'.dispatcher.jobs = []) :
    (v'.server.Queued e ↔ lastRequest e h = some .search) ∧
      ∀ h₁ t h₂ job, h = h₁ ++ t :: h₂ → receivedJob t.label = some job →
        (requestOf e job).isSome → (∀ u ∈ h₂, ∀ x ∈ receivedJob u.label, requestOf e x = none) →
        (∀ x ∈ t.pre.dispatcher.jobs, (requestOf e x).isSome →
          ¬ (PacketDispatcher.classOf x.headerMask).mask
            < (PacketDispatcher.classOf job.headerMask).mask) →
        (v'.server.Queued e ↔ requestOf e job = some .search) := by
  have hready : v.Ready := by
    obtain ⟨k, hk⟩ := hv
    exact hk.invariant (P := Ready) ready_initial fun _ _ _ _ => ready_step
  have hout : ¬ v.server.Queued e := not_not.2 (MatchmakingServer.not_mem_endpoints.1 he).1
  refine ⟨(queued_run hready hr hsteps hout).2, ?_⟩
  rintro h₁ t h₂ job rfl hjob hreq hlater hlower
  obtain ⟨hr₁, hstep, hr₂⟩ := hr.mem_split
  rw [List.forall_mem_append, List.forall_mem_cons] at hsteps
  have hpre := (queued_run hready hr₁ hsteps.1 hout).1
  have hpost := ready_step hpre hstep
  obtain ⟨⟨-, hlast⟩, -⟩ := hr₂.invariant_of_mem
    (P := fun w => w.Ready ∧ (WaitsLast e job w.dispatcher ∨ HandledLast e job w))
    (R := fun _ l => ¬ IsPass l ∧ ∀ x ∈ receivedJob l, requestOf e x = none)
    ⟨hpost, .inl (waitsLast_receive hpre hjob hlower hstep)⟩
    (by
      rintro w l w' out ⟨hw, hlast⟩ ⟨hl, hx⟩ hs
      exact ⟨ready_step hw hs, last_step hw hl hx hreq hlast hs⟩)
    (fun u hu => ⟨hsteps.2.2 u hu, hlater u hu⟩)
  rcases hlast with ⟨⟨before, after, hwaiting, -⟩, -⟩ | hdone
  · have hmem : job ∈ v'.dispatcher.jobs := by
      refine mem_jobs_iff.2 ⟨PacketDispatcher.classOf job.headerMask, ?_⟩
      rw [hwaiting]
      exact List.mem_append_right _ (List.mem_cons_self ..)
    rw [hidle] at hmem
    simp at hmem
  · exact hdone.2

/-- A client searches and then cancels, both as `NORMAL`: it is not queued. -/
theorem last_handled_wins_normal : ∃ h v', machine.Run initial h v' ∧
    v'.dispatcher.jobs = [] ∧ (lastRequest (⟨10, 0, 0, 1⟩, 5000) h) = some .cancel ∧
    ¬ v'.server.Queued (⟨10, 0, 0, 1⟩, 5000) := by
  let e : Endpoint := (⟨10, 0, 0, 1⟩, 5000)
  obtain ⟨h, v', hr, hp⟩ := Machine.exists_run_of_exec (M := machine) (s := initial)
    (l := [.receive (createRawDatagram 1 .findMatch MatchType.normal.name) e.1 e.2,
      .receive (createRawDatagram 1 .cancelSearch []) e.1 e.2,
      .dispatch fun _ => 0, .dispatch fun _ => 0])
    (P := fun h v' => (∀ t ∈ h, ¬ IsPass t.label) ∧ v'.dispatcher.jobs = [] ∧
      lastRequest e h = some .cancel) (by decide +kernel)
  obtain ⟨hsteps, hidle, hlast⟩ := hp
  have hwins := last_handled_wins (e := e) ⟨[], .nil⟩ (by decide) hr hsteps hidle
  refine ⟨h, v', hr, hidle, hlast, ?_⟩
  intro hqueued
  rw [hwins.1, hlast] at hqueued
  cases hqueued

/-- **An urgent cancel overtakes the search it was to cancel**: the search is sent as
`NORMAL` and the cancel after it as `URGENT`, both are received before the dispatcher
comes round, and in the end the client is queued. -/
theorem cancel_overtakes_search : ∃ h v', machine.Run initial h v' ∧
    (∀ t ∈ h, ¬ IsPass t.label) ∧ v'.dispatcher.jobs = [] ∧
    h.flatMap (fun t => ((receivedJob t.label).bind (requestOf (⟨10, 0, 0, 1⟩, 5000))).toList)
      = [.search, .cancel] ∧
    (⟨10, 0, 0, 1⟩, 5000) ∉ initial.server.endpoints ∧
    v'.server.Queued (⟨10, 0, 0, 1⟩, 5000) := by
  let e : Endpoint := (⟨10, 0, 0, 1⟩, 5000)
  obtain ⟨h, v', hr, hp⟩ := Machine.exists_run_of_exec (M := machine) (s := initial)
    (l := [.receive (createRawDatagram 1 .findMatch MatchType.normal.name) e.1 e.2,
      .receive (createRawDatagram 4 .cancelSearch []) e.1 e.2,
      .dispatch fun _ => 0, .dispatch fun _ => 0])
    (P := fun h v' => (∀ t ∈ h, ¬ IsPass t.label) ∧ v'.dispatcher.jobs = [] ∧
      h.flatMap (fun t => ((receivedJob t.label).bind (requestOf e)).toList)
        = [.search, .cancel] ∧ e ∉ initial.server.endpoints ∧ v'.server.Queued e)
    (by decide +kernel)
  exact ⟨h, v', hr, hp⟩

end Service

end ServiceServer
