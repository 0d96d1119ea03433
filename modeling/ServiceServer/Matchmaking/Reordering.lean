import ServiceServer.Lib.Reordering
import ServiceServer.Matchmaking.Steps

/-!
# The order of requests from different clients

The dispatcher takes urgent jobs first, so the requests of two clients may be handled
in another order than they came in.

* `Action` — what a request does to the service once it has been read.
* `commutes_of_apart` — two requests of different clients can be handled in either
  order, unless both search.
* `handleAll_eq` — so the order across clients does not matter.
-/

namespace ServiceServer

open Lib

/-- The three requests a client sends. -/
def RawPacketJob.IsRequest (job : RawPacketJob) : Prop :=
  job.type = .findMatch ∨ job.type = .cancelSearch ∨ job.type = .ackMatchFound

instance (job : RawPacketJob) : Decidable job.IsRequest := inferInstanceAs (Decidable (_ ∨ _))

/-- Where a job comes from. -/
def RawPacketJob.origin (job : RawPacketJob) : Option IpAddress × UInt16 := (job.sender, job.port)

namespace MatchmakingServer

/-- Run the handlers over a sequence of jobs.  An exception ends the sequence. -/
def handleAll : (Nat → Nat → Micros) → List RawPacketJob → MatchmakingServer →
    Except Exception MatchmakingServer
  | _, [], s => .ok s
  | now, job :: jobs, s =>
    match s.dispatch (now 0) job with
    | .error e => .error e
    | .ok (s', _) => handleAll (fun i => now (i + 1)) jobs s'

/-- What a request does to the service. -/
inductive Action where
  | nothing
  | push (t : MatchType) (p : ClientMatchInfo)
  | remove (e : Endpoint)
  | acknowledge (job : RawPacketJob)

/-- Do it. -/
def Action.apply : Action → MatchmakingServer → MatchmakingServer
  | .nothing, s => s
  | .push t p, s => s.pushQueue t p
  | .remove e, s =>
    { s with
      normalQueue := removeFromQueue e s.normalQueue
      rankedQueue := removeFromQueue e s.rankedQueue }
  | .acknowledge job, s => { s with pendingSessions := s.pendingSessions.map (ackSession job) }

/-- The mode a search names. -/
def searchedMode (content : Bytes) : Option MatchType :=
  if content = MatchType.normal.name then some .normal
  else if content = MatchType.ranked.name then some .ranked
  else none

/-- What a request asks for.  A sender that is missing is found out when it is used. -/
def actionOf (job : RawPacketJob) : Except Exception Action :=
  match job.type with
  | .findMatch =>
    match searchedMode job.content with
    | none => .ok .nothing
    | some t => (value job.sender).map fun ip => .push t { ip := ip, port := job.port }
  | .cancelSearch => (value job.sender).map fun ip => .remove (ip, job.port)
  | .ackMatchFound => .ok (.acknowledge job)
  | _ => .ok .nothing

/-- Handle one request. -/
def handleRequest (s : MatchmakingServer) (job : RawPacketJob) :
    Except Exception MatchmakingServer := do
  let action ← actionOf job
  return action.apply s

/-- **A handled request does what it asks for.** -/
theorem dispatch_request {job : RawPacketJob} (hjob : job.IsRequest) (s : MatchmakingServer)
    (now : Nat → Micros) : (s.dispatch now job).map Prod.fst = s.handleRequest job := by
  rcases hjob with htype | htype | htype
  · simp only [dispatch, htype, subcribeActionHandlers, findMatchHandler, enqueueSearch,
      handleRequest, actionOf, searchedMode]
    split_ifs
    · cases job.sender <;> rfl
    · cases job.sender <;> rfl
    · rfl
  · simp only [dispatch, htype, subcribeActionHandlers, cancelSearchHandler, handleRequest,
      actionOf]
    cases job.sender <;> rfl
  · simp only [dispatch, htype, subcribeActionHandlers, ackMatchFoundHandler, handleRequest,
      actionOf]
    rfl

theorem handleAll_eq_foldlM {jobs : List RawPacketJob} (hjobs : ∀ job ∈ jobs, job.IsRequest)
    (now : Nat → Nat → Micros) (s : MatchmakingServer) :
    handleAll now jobs s = jobs.foldlM handleRequest s := by
  induction jobs generalizing now s with
  | nil => rfl
  | cons job jobs ih =>
    have hrest : ∀ job ∈ jobs, job.IsRequest := fun j hj => hjobs j (List.mem_cons_of_mem _ hj)
    rw [List.foldlM_cons, ← dispatch_request (hjobs job List.mem_cons_self) s (now 0), handleAll]
    cases hstep : s.dispatch (now 0) job with
    | error e => rfl
    | ok r => exact ih hrest _ _

/-! ## Which requests commute -/

/-- Two actions that do not both join a queue, and of which neither joins a queue for
the client that the other removes. -/
def Action.Apart : Action → Action → Prop
  | .push _ _, .push _ _ => False
  | .push _ p, .remove e => p.endpoint ≠ e
  | .remove e, .push _ p => p.endpoint ≠ e
  | _, _ => True

theorem removeFromQueue_append (e : Endpoint) {p : ClientMatchInfo} (hp : p.endpoint ≠ e)
    (q : List ClientMatchInfo) : removeFromQueue e (q ++ [p]) = removeFromQueue e q ++ [p] := by
  rw [removeFromQueue_eq_filter, removeFromQueue_eq_filter, List.filter_append]
  simp [hp]

theorem removeFromQueue_comm (e e' : Endpoint) (q : List ClientMatchInfo) :
    removeFromQueue e (removeFromQueue e' q) = removeFromQueue e' (removeFromQueue e q) := by
  simp only [removeFromQueue_eq_filter, List.filter_filter, Bool.and_comm]

theorem push_remove_comm (t : MatchType) {p : ClientMatchInfo} {e : Endpoint}
    (hp : p.endpoint ≠ e) (s : MatchmakingServer) :
    (Action.remove e).apply ((Action.push t p).apply s)
      = (Action.push t p).apply ((Action.remove e).apply s) := by
  cases t
  · simp [Action.apply, pushQueue, setQueue, queueOf, removeFromQueue_append e hp]
  · simp [Action.apply, pushQueue, setQueue, queueOf, removeFromQueue_append e hp]

/-- Acknowledging is done player by player, and says yes whatever was there. -/
theorem ackSession_comm (job job' : RawPacketJob) (session : MatchSession) :
    ackSession job (ackSession job' session) = ackSession job' (ackSession job session) := by
  have hplayer : ∀ p, ackPlayer job (ackPlayer job' p) = ackPlayer job' (ackPlayer job p) := by
    intro p
    unfold ackPlayer
    split_ifs <;> simp_all
  simp [ackSession, hplayer]

/-- **Actions apart can be done in either order.** -/
theorem Action.apply_comm {a b : Action} (h : a.Apart b) (s : MatchmakingServer) :
    b.apply (a.apply s) = a.apply (b.apply s) := by
  cases a with
  | nothing => rfl
  | push t p =>
    cases b with
    | nothing => rfl
    | push u q => exact absurd h id
    | remove e => exact push_remove_comm t h s
    | acknowledge job => cases t <;> rfl
  | remove e =>
    cases b with
    | nothing => rfl
    | push t p => exact (push_remove_comm t h s).symm
    | remove e' => simp [Action.apply, removeFromQueue_comm e']
    | acknowledge job => rfl
  | acknowledge job =>
    cases b with
    | nothing => rfl
    | push t p => cases t <;> rfl
    | remove e => rfl
    | acknowledge job' => simp [Action.apply, ackSession_comm job']

/-- Only a missing sender keeps a request from being read. -/
theorem actionOf_error {job : RawPacketJob} {e : Exception} (h : actionOf job = .error e) :
    e = .badOptionalAccess := by
  unfold actionOf at h
  split at h
  · split at h
    · cases h
    · cases hsender : job.sender <;> rw [hsender] at h <;> cases h
      rfl
  · cases hsender : job.sender <;> rw [hsender] at h <;> cases h
    rfl
  · cases h
  · cases h

theorem actionOf_push {job : RawPacketJob} {t : MatchType} {p : ClientMatchInfo}
    (h : actionOf job = .ok (.push t p)) :
    job.type = .findMatch ∧ job.origin = (some p.ip, p.port) := by
  unfold actionOf at h
  split at h
  · rename_i htype
    split at h
    · cases h
    · cases hsender : job.sender <;> rw [hsender] at h <;> cases h
      exact ⟨htype, by rw [RawPacketJob.origin, hsender]⟩
  · cases hsender : job.sender <;> rw [hsender] at h <;> cases h
  · cases h
  · cases h

theorem actionOf_remove {job : RawPacketJob} {e : Endpoint} (h : actionOf job = .ok (.remove e)) :
    job.origin = (some e.1, e.2) := by
  unfold actionOf at h
  split at h
  · split at h
    · cases h
    · cases hsender : job.sender <;> rw [hsender] at h <;> cases h
  · cases hsender : job.sender <;> rw [hsender] at h <;> cases h
    rw [RawPacketJob.origin, hsender]
  · cases h
  · cases h

/-- Requests of different clients that do not both search ask for actions apart. -/
theorem apart_of_actionOf {job job' : RawPacketJob} {a b : Action}
    (hsearch : ¬ (job.type = .findMatch ∧ job'.type = .findMatch))
    (horigin : job.origin ≠ job'.origin) (ha : actionOf job = .ok a) (hb : actionOf job' = .ok b) :
    a.Apart b := by
  cases a with
  | nothing => trivial
  | push t p =>
    obtain ⟨htype, hp⟩ := actionOf_push ha
    cases b with
    | nothing => trivial
    | push u q => exact hsearch ⟨htype, (actionOf_push hb).1⟩
    | remove e =>
      rintro rfl
      exact horigin (hp.trans (actionOf_remove hb).symm)
    | acknowledge job => trivial
  | remove e =>
    cases b with
    | nothing => trivial
    | push t p =>
      rintro rfl
      exact horigin ((actionOf_remove ha).trans (actionOf_push hb).2.symm)
    | remove e' => trivial
    | acknowledge job => trivial
  | acknowledge job =>
    cases b with
    | nothing => trivial
    | push t p => trivial
    | remove e => trivial
    | acknowledge job' => trivial

/-- **Requests of different clients can be handled in either order**, unless both
search.  If one of them has no sender, both orders fail. -/
theorem commutes_of_apart {job job' : RawPacketJob}
    (hsearch : ¬ (job.type = .findMatch ∧ job'.type = .findMatch))
    (horigin : job.origin ≠ job'.origin) : Commutes handleRequest job job' := by
  intro s
  unfold handleRequest
  cases ha : actionOf job with
  | error e =>
    obtain rfl := actionOf_error ha
    cases hb : actionOf job' with
    | error e =>
      obtain rfl := actionOf_error hb
      rfl
    | ok b => rfl
  | ok a =>
    cases hb : actionOf job' with
    | error e => rfl
    | ok b =>
      show Except.ok (b.apply (a.apply s)) = Except.ok (a.apply (b.apply s))
      rw [Action.apply_comm (apart_of_actionOf hsearch horigin ha hb)]

/-- The searches are one class of requests, and those of each client another. -/
def requestClass : Option (Option IpAddress × UInt16) → RawPacketJob → Bool
  | none, job => job.type = .findMatch
  | some origin, job => job.origin = origin

/-- **The order across clients does not matter.**  Two sequences of requests in which
the searches stand in the same order, and the requests of each client do, lead to the
same queues, pending creations and pending sessions, from any state and whatever the
clock shows.  Such sequences are permutations of each other. -/
theorem handleAll_eq {jobs₁ jobs₂ : List RawPacketJob} (hjobs : ∀ job ∈ jobs₁, job.IsRequest)
    (hsearch : jobs₁.filter (fun job => job.type = .findMatch)
      = jobs₂.filter fun job => job.type = .findMatch)
    (hclient : ∀ origin, jobs₁.filter (fun job => job.origin = origin)
      = jobs₂.filter fun job => job.origin = origin)
    (now₁ now₂ : Nat → Nat → Micros) (s : MatchmakingServer) :
    handleAll now₁ jobs₁ s = handleAll now₂ jobs₂ s := by
  have hclass : ∀ job : RawPacketJob, ∃ k, requestClass k job = true := fun job =>
    ⟨some job.origin, by simp [requestClass]⟩
  have hsame : ∀ k, jobs₁.filter (requestClass k) = jobs₂.filter (requestClass k) := by
    rintro (_ | origin)
    · exact hsearch
    · exact hclient origin
  have hjobs₂ : ∀ job ∈ jobs₂, job.IsRequest := fun job hj =>
    hjobs job (mem_of_filter_eq hclass (fun k => (hsame k).symm) hj)
  rw [handleAll_eq_foldlM hjobs, handleAll_eq_foldlM hjobs₂]
  refine foldlM_eq_of_filter_eq hclass ?_ hsame s
  intro job hjob job' hjob' hapart
  refine commutes_of_apart ?_ ?_
  · rintro ⟨h, h'⟩
    have hnone := hapart none (by simp [requestClass, h])
    simp [requestClass, h'] at hnone
  · intro heq
    have hnone := hapart (some job.origin) (by simp [requestClass])
    simp [requestClass, heq] at hnone

/-- The urgent cancel of one player overtakes the search of another. -/
theorem handleAll_eq_overtaken :
    let search := jobOf .findMatch MatchType.normal.name (⟨10, 0, 0, 1⟩, 5000)
    let cancel := jobOf .cancelSearch [] (⟨10, 0, 0, 2⟩, 5000)
    ∀ s, handleAll (fun _ _ => 0) [search, cancel] s = handleAll (fun _ _ => 0) [cancel, search] s := by
  intro search cancel s
  refine handleAll_eq (by decide) (by decide) ?_ _ _ s
  intro origin
  by_cases horigin : search.origin = origin
  · subst horigin
    decide
  · simp [List.filter_cons, horigin]

end MatchmakingServer

end ServiceServer
