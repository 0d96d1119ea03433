import ServiceServer.Lib.Ledger
import ServiceServer.Login.LoginServer

/-!
# The responses of the login server (`LoginServer.cpp`)

A client reads one stream of bytes, and finds the responses in it by their frames.  The
sockets of the clients are not blocking, so a packet may be sent in part or not at all,
and SFML asks for the same packet again before anything else is sent.  `HandleCommand`
does not look at what `send` reports.

* `answers` — each well-formed request of a client is answered once, in order.
* `responses_stay_framed` — what is written to a client are the first bytes of its
  framed responses, for as long as no response follows one that was not sent whole.
* `response_in_the_middle` — otherwise a response may begin in the middle of another.
-/

namespace ServiceServer

open Lib
open Bcrypt (Blowfish)

namespace LoginServer

/-! ## Requests -/

/-- The request a packet carries, if it is well formed: the command, the nickname and
the password. -/
def request (input : ClientInput) : Option (Bytes × Bytes × Bytes) :=
  match input.packet with
  | command :: nick :: pass :: _ =>
    if command = login ∨ command = register then some (command, nick, pass) else none
  | _ => none

instance (s : LoginServer) (i : Iteration) (client : SocketId) (status : Status) :
    Decidable (Receives s i client status) := by
  unfold Receives
  infer_instance

/-- What a client's socket was like when one of its requests was handled. -/
def handled (client : SocketId) (t : Transition LoginServer Iteration (List Event)) :
    Option ClientInput :=
  if Receives t.pre t.label client .done ∧ (request (t.label.client client)).isSome then
    some (t.label.client client)
  else none

/-- The requests of a client that were handled in a run. -/
def requests (client : SocketId) (h : History) : List ClientInput := h.filterMap (handled client)

/-! ## Responses -/

/-- The response an event is for a client. -/
def responseTo (client : SocketId) : Event → Option Response
  | .responded k response => if k = client then some response else none
  | _ => none

/-- The responses to a client. -/
def responses (client : SocketId) (log : List Event) : List Response :=
  log.filterMap (responseTo client)

/-- The bytes that were written to a client. -/
def written (client : SocketId) (log : List Event) : Bytes :=
  (responses client log).flatMap (·.written)

/-- The framed responses to a client. -/
def framed (frame : Bytes → Bytes) (client : SocketId) (log : List Event) : Bytes :=
  (responses client log).flatMap fun response => frame response.text

/-- A response answers a request: it says whether the command succeeded, and of its frame
it writes what the socket takes. -/
def Answers (frame : Bytes → Bytes) (response : Response) (input : ClientInput) : Prop :=
  request input = some (response.command, response.nick, response.pass) ∧
    (∃ success, response.text = responseText response.command success) ∧
    response.status = input.send.status ∧
    response.written = input.send.written (frame response.text)

variable {B : Blowfish} {frame : Bytes → Bytes} {s : LoginServer} {i : Iteration}

variable (B frame) in
/-- **A well-formed request is answered once**, and nothing else is. -/
theorem handlePacket_answers (table : UsersTable) (input : ClientInput) :
    List.Forall₂ (Answers frame) (handlePacket B frame table input).2
      (if (request input).isSome then [input] else []) := by
  unfold handlePacket
  cases hpacket : input.packet with
  | nil => simp [request, hpacket]
  | cons command rest =>
    by_cases hcommand : command = login ∨ command = register
    · cases rest with
      | nil => simp [request, hpacket]
      | cons nick rest =>
        cases rest with
        | nil => simp [request, hpacket]
        | cons pass rest =>
          have hrequest : request input = some (command, nick, pass) := by
            simp [request, hpacket, hcommand]
          simp only [if_pos hcommand, hrequest, Option.isSome_some, if_true]
          unfold handleCommand
          by_cases hregister : command = register
          · subst hregister
            simp only [if_true]
            exact .cons ⟨hrequest, ⟨_, rfl⟩, rfl, rfl⟩ .nil
          · have hlogin : command = login := hcommand.resolve_right hregister
            subst hlogin
            simp only [if_neg hregister, if_true]
            exact .cons ⟨hrequest, ⟨_, rfl⟩, rfl, rfl⟩ .nil
    · have hrequest : request input = none := by
        unfold request
        rw [hpacket]
        cases rest with
        | nil => rfl
        | cons nick rest =>
          cases rest with
          | nil => rfl
          | cons pass rest => exact if_neg hcommand
      simp [hcommand, hrequest]

@[simp] theorem responses_append (client : SocketId) (log log' : List Event) :
    responses client (log ++ log') = responses client log ++ responses client log' :=
  List.filterMap_append

/-- Nothing is sent to a client unless it is received from. -/
theorem responses_eq_nil {client : SocketId} {log : List Event}
    (h : ∀ response, .responded client response ∉ log) : responses client log = [] := by
  rw [responses, List.filterMap_eq_nil_iff]
  intro e he
  cases e with
  | accepted k => rfl
  | received k status => rfl
  | responded k response =>
    refine if_neg ?_
    rintro rfl
    exact h response he

theorem responses_receiveData (table : UsersTable) (client : SocketId) (input : ClientInput) :
    responses client (receiveData B frame table client input).2
      = if input.status = .done then (handlePacket B frame table input).2 else [] := by
  unfold receiveData
  by_cases hdone : input.status = .done
  · rw [if_pos hdone, if_pos hdone]
    show List.filterMap (responseTo client) (List.map (.responded client) _) = _
    rw [List.filterMap_map]
    have hall : responseTo client ∘ Event.responded client = some := by
      funext response
      exact if_pos rfl
    rw [hall, List.filterMap_some]
  · rw [if_neg hdone, if_neg hdone]
    rfl

variable (B frame) in
/-- The loop comes by a client once. -/
theorem responses_receiveFrom {clients : List SocketId} (hnodup : clients.Nodup) {client : SocketId}
    (hclient : client ∈ clients) (hready : s.isReady i client) (table : UsersTable) :
    ∃ table', responses client (receiveFrom B frame s i clients table).2
      = responses client (receiveData B frame table' client (i.client client)).2 := by
  induction clients generalizing table with
  | nil => cases hclient
  | cons c clients ih =>
    rw [List.nodup_cons] at hnodup
    unfold receiveFrom
    rcases List.mem_cons.1 hclient with rfl | hlater
    · refine ⟨table, ?_⟩
      have hnone : responses client (receiveFrom B frame s i clients
          (receiveData B frame table client (i.client client)).1).2 = [] := by
        refine responses_eq_nil fun response hresponse => ?_
        obtain ⟨k, hk, -, h | ⟨response', h⟩⟩ := mem_receiveFrom hresponse
        · cases h
        · cases h
          exact hnodup.1 hk
      simp only [if_pos hready, responses_append, hnone, List.append_nil]
    · by_cases hc : s.isReady i c
      · have hne : c ≠ client := fun h => hnodup.1 (h ▸ hlater)
        have hnone : responses client (receiveData B frame table c (i.client c)).2 = [] := by
          refine responses_eq_nil fun response hresponse => ?_
          rcases mem_receiveData hresponse with h | ⟨response', h⟩
          · cases h
          · cases h
            exact hne rfl
        simp only [if_pos hc, responses_append, hnone, List.nil_append]
        exact ih hnodup.2 hlater _
      · rw [if_neg hc]
        exact ih hnodup.2 hlater _

/-- **An iteration answers the request it receives**, if there is one. -/
theorem iterate_answers {t : Transition LoginServer Iteration (List Event)}
    (h : iterate B frame t.pre t.label = (t.post, t.out)) (hnodup : t.pre.clients.Nodup)
    (client : SocketId) :
    List.Forall₂ (Answers frame) (responses client t.out) (handled client t).toList := by
  by_cases hreceives : Receives t.pre t.label client (t.label.client client).status
  · obtain ⟨table, htable⟩ := responses_receiveFrom B frame hnodup hreceives.2.1 hreceives.2.2.1
      t.pre.table
    rw [eq_receiveFrom_of_receives h hreceives, htable, responses_receiveData]
    by_cases hdone : (t.label.client client).status = .done
    · have hanswers := handlePacket_answers B frame table (t.label.client client)
      rw [hdone] at hreceives
      rw [if_pos hdone, handled]
      by_cases hrequest : (request (t.label.client client)).isSome
      · rw [if_pos hrequest] at hanswers
        rw [if_pos ⟨hreceives, hrequest⟩]
        exact hanswers
      · rw [if_neg hrequest] at hanswers
        rw [if_neg fun h => hrequest h.2]
        exact hanswers
    · rw [if_neg hdone, handled, if_neg fun h => hdone h.1.2.2.2]
      exact .nil
  · have hnone : responses client t.out = [] := by
      refine responses_eq_nil fun response hresponse => hreceives ?_
      rcases receives_of_mem h hresponse with ⟨k, heq⟩ | ⟨c, hc, heq | ⟨response', heq⟩⟩
      · cases heq
      · cases heq
      · cases heq
        exact hc
    have hhandled : handled client t = none := by
      refine if_neg fun h => hreceives ?_
      rw [h.1.2.2.2]
      exact h.1
    rw [hnone, hhandled]
    exact .nil

/-! ## Runs -/

variable {table : UsersTable} {h : History}

/-- Every socket is a new one. -/
theorem clients_nodup (hr : (machine B frame).Run (initial table) h s) :
    s.clients.Nodup ∧ ∀ k ∈ s.clients, k < s.sockets := by
  refine hr.invariant (P := fun s => s.clients.Nodup ∧ ∀ k ∈ s.clients, k < s.sockets)
    ⟨List.nodup_nil, by simp [initial]⟩ ?_
  rintro s i s' out ⟨hnodup, hold⟩ hs
  cases iterates_of_iterate (step_iff.1 hs) with
  | accepts =>
    constructor
    · rw [List.nodup_append]
      refine ⟨hnodup, List.nodup_singleton _, ?_⟩
      rintro k hk j hj rfl
      rw [List.mem_singleton.1 hj] at hk
      exact Nat.lt_irrefl _ (hold _ hk)
    · intro k hk
      rcases List.mem_append.1 hk with hk | hk
      · exact Nat.lt_succ_of_lt (hold k hk)
      · rw [List.mem_singleton.1 hk]
        exact Nat.lt_succ_self _
  | refuses => exact ⟨hnodup, fun k hk => Nat.lt_succ_of_lt (hold k hk)⟩
  | serves => exact ⟨hnodup, hold⟩
  | sleeps => exact ⟨hnodup, hold⟩

/-- **Each well-formed request of a client is answered once, in order.** -/
theorem answers (hr : (machine B frame).Run (initial table) h s) (client : SocketId) :
    List.Forall₂ (Answers frame) (responses client (log h)) (requests client h) := by
  induction hr with
  | nil => exact .nil
  | @snoc h s s' i out hr hs ih =>
    have hlast := iterate_answers (t := ⟨s, i, out, s'⟩) (step_iff.1 hs) (clients_nodup hr).1 client
    rw [log_append, log_singleton, responses_append, requests, List.filterMap_append]
    refine List.rel_append ih ?_
    cases hhandled : handled client ⟨s, i, out, s'⟩ with
    | none =>
      rw [hhandled] at hlast
      simpa [hhandled] using hlast
    | some input =>
      rw [hhandled] at hlast
      simpa [hhandled] using hlast

/-- What is written of a response. -/
theorem written_prefix {response : Response} {input : ClientInput}
    (h : Answers frame response input) : response.written <+: frame response.text := by
  obtain ⟨-, -, -, hwritten⟩ := h
  rw [hwritten, SendOutcome.written]
  cases input.send.status with
  | done => exact List.prefix_rfl
  | notReady => exact List.nil_prefix
  | partly => exact (List.take_prefix _ _).trans (List.dropLast_prefix _)
  | disconnected => exact List.nil_prefix
  | error => exact List.nil_prefix

theorem written_of_done {response : Response} {input : ClientInput}
    (h : Answers frame response input) (hdone : response.status = .done) :
    response.written = frame response.text := by
  obtain ⟨-, -, hstatus, hwritten⟩ := h
  rw [hstatus] at hdone
  rw [hwritten, SendOutcome.written, hdone]

/-- **Responses stay framed for as long as none follows one that was not sent whole.**  The
requests of a client are answered one by one.  If every response to it but the last was
sent whole, what has been written to it at any time are the first bytes of its framed
responses, one for each request, in order. -/
theorem responses_stay_framed (hr : (machine B frame).Run (initial table) h s) (client : SocketId)
    (hdone : ∀ input ∈ (requests client h).dropLast, input.send.status = .done) :
    List.Forall₂ (Answers frame) (responses client (log h)) (requests client h) ∧
      ∀ sofar, sofar <+: log h → written client sofar <+: framed frame client sofar := by
  have hanswers := answers hr client
  refine ⟨hanswers, ?_⟩
  rintro sofar hsofar
  have hstatus : (responses client (log h)).map (·.status)
      = (requests client h).map (·.send.status) := by
    rw [← List.forall₂_eq_eq_eq, List.forall₂_map_left_iff, List.forall₂_map_right_iff]
    exact hanswers.imp fun _ _ hanswer => hanswer.2.2.1
  have hearlier : responses client sofar <+: responses client (log h) := hsofar.filterMap _
  have hpiece : ∀ response ∈ responses client sofar, ∃ input, Answers frame response input := by
    have hall := (List.forall₂_and_left _ _).1 (hanswers.imp fun response input hanswer =>
      (⟨⟨input, hanswer⟩, hanswer⟩ :
        (∃ input, Answers frame response input) ∧ Answers frame response input))
    exact fun response hresponse => hall.1 response (hearlier.subset hresponse)
  refine flatMap_prefix_flatMap ?_ ?_
  · intro response hresponse
    obtain ⟨input, hanswer⟩ := hpiece response hresponse
    exact written_prefix hanswer
  · intro response hresponse
    obtain ⟨input, hanswer⟩ := hpiece response (List.dropLast_subset _ hresponse)
    refine written_of_done hanswer ?_
    -- what is not last among the responses so far is not last among all of them
    have hlater : response ∈ (responses client (log h)).dropLast := by
      obtain ⟨rest, hrest⟩ := hearlier
      rw [← hrest]
      by_cases hnil : rest = []
      · rw [hnil, List.append_nil]
        exact hresponse
      · rw [List.dropLast_append_of_ne_nil hnil]
        exact List.mem_append_left _ (List.dropLast_subset _ hresponse)
    have hmem : response.status ∈ ((requests client h).dropLast).map (·.send.status) := by
      rw [List.map_dropLast, ← hstatus, ← List.map_dropLast]
      exact List.mem_map_of_mem hlater
    obtain ⟨input', hinput', heq⟩ := List.mem_map.1 hmem
    rw [← heq]
    exact hdone input' hinput'

/-! ## A response that is cut off -/

/-- The first client asks to log in, and the response meets this fate. -/
def asks (outcome : SendOutcome) : Iteration :=
  first
    { silent with
      ready := true
      status := .done
      packet := [login, ascii ['a', 'n', 'a'], ascii ['m', 'i', 'n', 'e']]
      send := outcome }

/-- It asks twice. -/
def askedTwice (first second : SendOutcome) : History :=
  let t := took connected.post (asks first)
  [connected, t, took t.post (asks second)]

/-- What the server is like then. -/
def afterTwo (first second : SendOutcome) : LoginServer :=
  (took (took connected.post (asks first)).post (asks second)).post

theorem run_askedTwice (first second : SendOutcome) :
    (machine DatabaseManager.sampleBlowfish framedString).Run (initial fun _ => none)
      (askedTwice first second) (afterTwo first second) :=
  .snoc (.snoc (.snoc .nil rfl) rfl) rfl

theorem responses_stay_framed_askedTwice :
    List.Forall₂ (Answers framedString) (responses 0 (log (askedTwice ⟨.done, 0⟩ ⟨.partly, 3⟩)))
        (requests 0 (askedTwice ⟨.done, 0⟩ ⟨.partly, 3⟩)) ∧
      ∀ sofar, sofar <+: log (askedTwice ⟨.done, 0⟩ ⟨.partly, 3⟩) →
        written 0 sofar <+: framed framedString 0 sofar := by
  have hall : ((requests 0 (askedTwice ⟨.done, 0⟩ ⟨.partly, 3⟩)).dropLast.all
      fun input => decide (input.send.status = .done)) = true := by decide +kernel
  refine responses_stay_framed (run_askedTwice _ _) 0 ?_
  intro input hinput
  exact of_decide_eq_true (List.all_eq_true.1 hall input hinput)

/-- Of the first response three bytes are written.  The second one then begins in the
middle of the first. -/
theorem response_in_the_middle :
    (machine DatabaseManager.sampleBlowfish framedString).Run (initial fun _ => none)
        (askedTwice ⟨.partly, 3⟩ ⟨.done, 0⟩) (afterTwo ⟨.partly, 3⟩ ⟨.done, 0⟩) ∧
      ((requests 0 (askedTwice ⟨.partly, 3⟩ ⟨.done, 0⟩)).map fun input => input.send.status)
        = [.partly, .done] ∧
      ¬ written 0 (log (askedTwice ⟨.partly, 3⟩ ⟨.done, 0⟩))
        <+: framed framedString 0 (log (askedTwice ⟨.partly, 3⟩ ⟨.done, 0⟩)) :=
  ⟨run_askedTwice _ _, by decide +kernel, by decide +kernel⟩

end LoginServer

end ServiceServer
