import ServiceServer.Login.DatabaseManager
import Mathlib.Data.List.Infix

/-!
# The login server (`LoginServer.cpp`, `ClientLR.h`)

One thread accepts connections and answers the requests of its clients.  An iteration
of its loop either accepts one connection or looks at every client once.  What the
sockets report is not the server's: an iteration is given it.  A received packet is
given as the strings that can be extracted from it one after the other, and the framed
packet that carries a response is a function of its text.

* `received_iff` — what an iteration receives, and from whom.
* `Run.clients_eq` — the clients and the selector hold the sockets accepted so far, in
  the order of their acceptance.
* `keeps_live_clients_iff` — so the server keeps exactly its live clients for as long
  as no client leaves.
-/

namespace ServiceServer

open Lib
open Bcrypt (Blowfish)

/-- A socket, by its number among those the server made. -/
abbrev SocketId := ℕ

/-- `sf::Socket::Status`. -/
inductive Status where
  | done
  | notReady
  | partly
  | disconnected
  | error
  deriving DecidableEq, Repr

/-- What becomes of a packet that is sent: the status, and of an unfinished one how
much went out. -/
structure SendOutcome where
  status : Status
  sent : ℕ

/-- The bytes that are written: all, a part that leaves some out, or none. -/
def SendOutcome.written (o : SendOutcome) (framed : Bytes) : Bytes :=
  match o.status with
  | .done => framed
  | .partly => framed.dropLast.take o.sent
  | _ => []

/-- What a client's socket is like in one iteration. -/
structure ClientInput where
  /-- Is there something to receive? -/
  ready : Bool
  /-- What `receive` reports. -/
  status : Status
  /-- The strings that can be extracted from the packet. -/
  packet : List Bytes
  /-- What becomes of a response. -/
  send : SendOutcome
  /-- What a call of the database finds. -/
  context : CallContext

/-- What the sockets are like in one iteration. -/
structure Iteration where
  /-- Is there a connection to accept? -/
  listenerReady : Bool
  /-- What `accept` reports. -/
  accept : Status
  client : SocketId → ClientInput

/-- A response: the request, the text it is answered with, what `send` reported and the
bytes it wrote. -/
structure Response where
  command : Bytes
  nick : Bytes
  pass : Bytes
  text : Bytes
  status : Status
  written : Bytes
  deriving DecidableEq

/-- What the server does with a socket. -/
inductive Event where
  | accepted (socket : SocketId)
  | received (socket : SocketId) (status : Status)
  | responded (socket : SocketId) (response : Response)
  deriving DecidableEq

/-- `LoginServer`, the table of users, and how many sockets were made. -/
structure LoginServer where
  sockets : ℕ
  /-- The client sockets in `_selector`. -/
  selector : List SocketId
  /-- The sockets of `_clients`. -/
  clients : List SocketId
  table : UsersTable

namespace LoginServer

/-- Nobody is connected. -/
def initial (table : UsersTable) : LoginServer := ⟨0, [], [], table⟩

def login : Bytes := ascii ['L', 'O', 'G', 'I', 'N']

def register : Bytes := ascii ['R', 'E', 'G', 'I', 'S', 'T', 'E', 'R']

/-- The text of a response. -/
def responseText (command : Bytes) (success : Bool) : Bytes :=
  command ++ if success then ascii ['_', 'O', 'K'] else ascii ['_', 'F', 'A', 'I', 'L']

variable (B : Blowfish) (frame : Bytes → Bytes)

/-- `response << text`, and `send`. -/
def respond (input : ClientInput) (command nick pass text : Bytes) : Response where
  command := command
  nick := nick
  pass := pass
  text := text
  status := input.send.status
  written := input.send.written (frame text)

/-- `HandleCommand`: the table, and what is sent. -/
def handleCommand (table : UsersTable) (input : ClientInput) (command nick pass : Bytes) :
    UsersTable × List Response :=
  if command = register then
    let (success, table) := DatabaseManager.registerUser B table input.context nick pass
    (table, [respond frame input command nick pass (responseText register success)])
  else if command = login then
    let success := DatabaseManager.loginUser B table input.context nick pass
    (table, [respond frame input command nick pass (responseText login success)])
  else (table, [])

/-- What `ReceiveData` does with a packet. -/
def handlePacket (table : UsersTable) (input : ClientInput) : UsersTable × List Response :=
  match input.packet with
  | [] => (table, [])
  | command :: rest =>
    if command = login ∨ command = register then
      match rest with
      | nick :: pass :: _ => handleCommand B frame table input command nick pass
      | _ => (table, [])
    else (table, [])

/-- `ReceiveData`. -/
def receiveData (table : UsersTable) (client : SocketId) (input : ClientInput) :
    UsersTable × List Event :=
  if input.status = .done then
    let r := handlePacket B frame table input
    (r.1, .received client input.status :: r.2.map (.responded client))
  else (table, [.received client input.status])

variable (s : LoginServer) (i : Iteration)

/-- `_selector.isReady`, of a client's socket. -/
def isReady (client : SocketId) : Bool := client ∈ s.selector && (i.client client).ready

/-- `_selector.wait`: is any socket ready? -/
def wait : Bool := i.listenerReady || s.selector.any fun client => (i.client client).ready

/-- `AcceptNewConnection`. -/
def acceptNewConnection : LoginServer × List Event :=
  if i.accept = .done then
    ({ s with
        sockets := s.sockets + 1
        selector := s.selector ++ [s.sockets]
        clients := s.clients ++ [s.sockets] },
      [.accepted s.sockets])
  else ({ s with sockets := s.sockets + 1 }, [])

/-- The loop over the clients, from some of them on. -/
def receiveFrom : List SocketId → UsersTable → UsersTable × List Event
  | [], table => (table, [])
  | client :: clients, table =>
    if s.isReady i client then
      let r := receiveData B frame table client (i.client client)
      let rest := receiveFrom clients r.1
      (rest.1, r.2 ++ rest.2)
    else receiveFrom clients table

/-- One iteration of `Run`. -/
def iterate : LoginServer × List Event :=
  if s.wait i then
    if i.listenerReady then s.acceptNewConnection i
    else
      let r := receiveFrom B frame s i s.clients s.table
      ({ s with table := r.1 }, r.2)
  else (s, [])

/-- The iterations, as a machine; it emits what the server does. -/
def machine : Machine LoginServer Iteration (List Event) Empty :=
  ⟨fun s i => .ok (iterate B frame s i)⟩

variable {B frame}

/-! ## What an iteration does -/

/-- The socket that is accepted, if this is an acceptance. -/
def acceptedSocket : Event → Option SocketId
  | .accepted k => some k
  | _ => none

/-- The sockets accepted in a list of events. -/
def acceptedSockets (log : List Event) : List SocketId := log.filterMap acceptedSocket

theorem mem_acceptedSockets {log : List Event} {k : SocketId} :
    k ∈ acceptedSockets log ↔ .accepted k ∈ log := by
  rw [acceptedSockets, List.mem_filterMap]
  constructor
  · rintro ⟨e, he, hk⟩
    cases e with
    | accepted j =>
      cases hk
      exact he
    | received j status => cases hk
    | responded j response => cases hk
  · intro h
    exact ⟨_, h, rfl⟩

/-- A client's packet is received once, and nothing is accepted meanwhile. -/
theorem mem_receiveData {table : UsersTable} {client : SocketId} {input : ClientInput} {e : Event}
    (he : e ∈ (receiveData B frame table client input).2) :
    e = .received client input.status ∨ ∃ response, e = .responded client response := by
  unfold receiveData at he
  by_cases hdone : input.status = .done
  · rw [if_pos hdone] at he
    rcases List.mem_cons.1 he with rfl | he
    · exact .inl rfl
    · obtain ⟨response, -, rfl⟩ := List.mem_map.1 he
      exact .inr ⟨response, rfl⟩
  · rw [if_neg hdone] at he
    exact .inl (List.mem_singleton.1 he)

theorem received_mem_receiveData (table : UsersTable) (client : SocketId) (input : ClientInput) :
    .received client input.status ∈ (receiveData B frame table client input).2 := by
  unfold receiveData
  by_cases hdone : input.status = .done
  · rw [if_pos hdone]
    exact List.mem_cons_self
  · rw [if_neg hdone]
    exact List.mem_singleton_self _

variable {s : LoginServer} {i : Iteration}

/-- What the loop over the clients does, it does with one of them that is ready. -/
theorem mem_receiveFrom {clients : List SocketId} {table : UsersTable} {e : Event}
    (he : e ∈ (receiveFrom B frame s i clients table).2) :
    ∃ client ∈ clients, s.isReady i client ∧
      (e = .received client (i.client client).status ∨ ∃ response, e = .responded client response) := by
  induction clients generalizing table with
  | nil => cases he
  | cons client clients ih =>
    unfold receiveFrom at he
    by_cases hready : s.isReady i client
    · rw [if_pos hready] at he
      rcases List.mem_append.1 he with he | he
      · exact ⟨client, List.mem_cons_self, hready, mem_receiveData he⟩
      · obtain ⟨c, hc, h⟩ := ih he
        exact ⟨c, List.mem_cons_of_mem _ hc, h⟩
    · rw [if_neg hready] at he
      obtain ⟨c, hc, h⟩ := ih he
      exact ⟨c, List.mem_cons_of_mem _ hc, h⟩

/-- Every client that is ready is received from. -/
theorem received_mem_receiveFrom {clients : List SocketId} {client : SocketId}
    (hclient : client ∈ clients) (hready : s.isReady i client) (table : UsersTable) :
    .received client (i.client client).status ∈ (receiveFrom B frame s i clients table).2 := by
  induction clients generalizing table with
  | nil => cases hclient
  | cons c clients ih =>
    unfold receiveFrom
    rcases List.mem_cons.1 hclient with rfl | hclient
    · rw [if_pos hready]
      exact List.mem_append_left _ (received_mem_receiveData _ _ _)
    · by_cases hc : s.isReady i c
      · rw [if_pos hc]
        exact List.mem_append_right _ (ih hclient _)
      · rw [if_neg hc]
        exact ih hclient _

variable {s' : LoginServer} {out : List Event}

/-- What an iteration can be. -/
inductive Iterates (B : Blowfish) (frame : Bytes → Bytes) (s : LoginServer) (i : Iteration) :
    LoginServer → List Event → Prop
  | accepts : i.listenerReady = true → Iterates B frame s i
      { s with
        sockets := s.sockets + 1
        selector := s.selector ++ [s.sockets]
        clients := s.clients ++ [s.sockets] }
      [.accepted s.sockets]
  | refuses : i.listenerReady = true → Iterates B frame s i { s with sockets := s.sockets + 1 } []
  | serves : i.listenerReady = false → Iterates B frame s i
      { s with table := (receiveFrom B frame s i s.clients s.table).1 }
      (receiveFrom B frame s i s.clients s.table).2
  | sleeps : s.wait i = false → Iterates B frame s i s []

theorem iterates_of_iterate (h : iterate B frame s i = (s', out)) :
    Iterates B frame s i s' out := by
  unfold iterate at h
  by_cases hwait : s.wait i = true
  · rw [if_pos hwait] at h
    by_cases hlistener : i.listenerReady = true
    · rw [if_pos hlistener, acceptNewConnection] at h
      by_cases haccept : i.accept = .done
      · rw [if_pos haccept] at h
        cases h
        exact .accepts hlistener
      · rw [if_neg haccept] at h
        cases h
        exact .refuses hlistener
    · rw [if_neg hlistener] at h
      cases h
      exact .serves (by simpa using hlistener)
  · rw [if_neg hwait] at h
    cases h
    exact .sleeps (by simpa using hwait)

/-- Nothing is accepted while the clients are looked at. -/
theorem acceptedSockets_receiveFrom (clients : List SocketId) (table : UsersTable) :
    acceptedSockets (receiveFrom B frame s i clients table).2 = [] := by
  rw [List.eq_nil_iff_forall_not_mem]
  intro k hk
  obtain ⟨client, -, -, h | ⟨response, h⟩⟩ := mem_receiveFrom (mem_acceptedSockets.1 hk)
  · cases h
  · cases h

/-- An iteration adds the sockets it accepts to both collections and takes none away. -/
theorem iterate_clients (h : iterate B frame s i = (s', out)) :
    s'.clients = s.clients ++ acceptedSockets out ∧
      s'.selector = s.selector ++ acceptedSockets out := by
  cases iterates_of_iterate h with
  | accepts => exact ⟨rfl, rfl⟩
  | refuses => exact ⟨(List.append_nil _).symm, (List.append_nil _).symm⟩
  | serves =>
    rw [acceptedSockets_receiveFrom]
    exact ⟨(List.append_nil _).symm, (List.append_nil _).symm⟩
  | sleeps => exact ⟨(List.append_nil _).symm, (List.append_nil _).symm⟩

/-- Does an iteration receive from a client, and what does `receive` report? -/
def Receives (s : LoginServer) (i : Iteration) (client : SocketId) (status : Status) : Prop :=
  i.listenerReady = false ∧ client ∈ s.clients ∧ s.isReady i client ∧
    (i.client client).status = status

/-- A client that an iteration receives from is looked at. -/
theorem eq_receiveFrom_of_receives {client : SocketId} {status : Status}
    (h : iterate B frame s i = (s', out)) (hreceives : Receives s i client status) :
    out = (receiveFrom B frame s i s.clients s.table).2 := by
  obtain ⟨hlistener, -, hready, -⟩ := hreceives
  have hwait : s.wait i = true := by
    rw [isReady, Bool.and_eq_true, decide_eq_true_eq] at hready
    rw [wait, hlistener, Bool.false_or, List.any_eq_true]
    exact ⟨client, hready.1, hready.2⟩
  cases iterates_of_iterate h with
  | accepts htrue =>
    rw [hlistener] at htrue
    cases htrue
  | refuses htrue =>
    rw [hlistener] at htrue
    cases htrue
  | serves => rfl
  | sleeps hfalse =>
    rw [hwait] at hfalse
    cases hfalse

/-- What an iteration does with a client, it does because it receives from it. -/
theorem receives_of_mem {e : Event} (h : iterate B frame s i = (s', out)) (he : e ∈ out) :
    (∃ k, e = .accepted k) ∨ ∃ client,
      Receives s i client (i.client client).status ∧
        (e = .received client (i.client client).status ∨
          ∃ response, e = .responded client response) := by
  cases iterates_of_iterate h with
  | accepts => exact .inl ⟨_, List.mem_singleton.1 he⟩
  | refuses => cases he
  | serves hlistener =>
    obtain ⟨client, hclient, hready, hevent⟩ := mem_receiveFrom he
    exact .inr ⟨client, ⟨hlistener, hclient, hready, rfl⟩, hevent⟩
  | sleeps => cases he

/-- **What an iteration receives, and from whom.** -/
theorem received_iff {client : SocketId} {status : Status}
    (h : iterate B frame s i = (s', out)) :
    .received client status ∈ out ↔ Receives s i client status := by
  constructor
  · intro hmem
    rcases receives_of_mem h hmem with ⟨k, heq⟩ | ⟨c, hreceives, heq | ⟨response, heq⟩⟩
    · cases heq
    · cases heq
      exact hreceives
    · cases heq
  · intro hreceives
    rw [eq_receiveFrom_of_receives h hreceives]
    obtain ⟨-, hclient, hready, rfl⟩ := hreceives
    exact received_mem_receiveFrom hclient hready _

/-! ## Runs -/

/-- A run of the server. -/
abbrev History := List (Transition LoginServer Iteration (List Event))

/-- Everything the server did. -/
def log (h : History) : List Event := h.flatMap (·.out)

@[simp] theorem log_append (h h' : History) : log (h ++ h') = log h ++ log h' :=
  List.flatMap_append

@[simp] theorem log_singleton (t : Transition LoginServer Iteration (List Event)) :
    log [t] = t.out := by
  simp [log]

theorem step_iff :
    (machine B frame).step s i = .ok (s', out) ↔ iterate B frame s i = (s', out) := by
  rw [machine, Except.ok.injEq]

variable {table : UsersTable} {h : History}

/-- **The clients and the selector hold the sockets accepted so far.** -/
theorem clients_eq (hr : (machine B frame).Run (initial table) h s) :
    s.clients = acceptedSockets (log h) ∧ s.selector = acceptedSockets (log h) := by
  induction hr with
  | nil => exact ⟨rfl, rfl⟩
  | @snoc h s s' i out _ hs ih =>
    obtain ⟨hclients, hselector⟩ := iterate_clients (step_iff.1 hs)
    rw [ih.1] at hclients
    rw [ih.2] at hselector
    rw [log_append, log_singleton, acceptedSockets, List.filterMap_append]
    exact ⟨hclients, hselector⟩

/-- Whoever was received from is a client still. -/
theorem mem_clients_of_received {client : SocketId} {status : Status}
    (hr : (machine B frame).Run (initial table) h s)
    (hlog : .received client status ∈ log h) : client ∈ s.clients := by
  induction hr with
  | nil => cases hlog
  | @snoc h s s' i out _ hs ih =>
    rw [log_append, log_singleton, List.mem_append] at hlog
    rw [(iterate_clients (step_iff.1 hs)).1]
    refine List.mem_append_left _ ?_
    rcases hlog with hlog | hlog
    · exact ih hlog
    · exact ((received_iff (step_iff.1 hs)).1 hlog).2.1

/-- A client that was accepted, and that no `receive` reported to have left. -/
def Live (log : List Event) (k : SocketId) : Prop :=
  .accepted k ∈ log ∧ .received k .disconnected ∉ log

/-- The clients are the live ones, and so are those of the selector. -/
def KeepsLive (s : LoginServer) (log : List Event) : Prop :=
  ∀ k, (k ∈ s.clients ↔ Live log k) ∧ (k ∈ s.selector ↔ Live log k)

/-- One state of a run: its clients are the live ones when none has left. -/
theorem keepsLive_iff (hr : (machine B frame).Run (initial table) h s) :
    KeepsLive s (log h) ↔ ∀ k, .received k .disconnected ∉ log h := by
  obtain ⟨hclients, hselector⟩ := clients_eq hr
  constructor
  · intro hkeeps k hleft
    exact ((hkeeps k).1.1 (mem_clients_of_received hr hleft)).2 hleft
  · intro hstays k
    rw [hclients, hselector, mem_acceptedSockets, Live]
    have hlive : .accepted k ∈ log h ↔
        .accepted k ∈ log h ∧ .received k .disconnected ∉ log h :=
      ⟨fun hk => ⟨hk, hstays k⟩, And.left⟩
    exact ⟨hlive, hlive⟩

/-- What was received in a run was received by one of its iterations. -/
theorem received_mem_log {client : SocketId} {status : Status}
    (hr : (machine B frame).Run (initial table) h s) :
    .received client status ∈ log h ↔ ∃ t ∈ h, Receives t.pre t.label client status := by
  rw [log, List.mem_flatMap]
  refine exists_congr fun t => and_congr_right fun ht => ?_
  exact received_iff (step_iff.1 (hr.step_of_mem ht))

/-- **The server keeps exactly its live clients for as long as none leaves.**  In a run,
the clients and the selector hold the live clients after each iteration if and only if
no `receive` of the run reported that its client has left. -/
theorem keeps_live_clients_iff (hr : (machine B frame).Run (initial table) h s) :
    (∀ h₁ t h₂, h = h₁ ++ t :: h₂ → KeepsLive t.post (log (h₁ ++ [t]))) ↔
      ∀ t ∈ h, ∀ client, ¬ Receives t.pre t.label client .disconnected := by
  have hsplit : ∀ h₁ t h₂, h = h₁ ++ t :: h₂ →
      (machine B frame).Run (initial table) (h₁ ++ [t]) t.post := by
    rintro h₁ t h₂ rfl
    obtain ⟨hpre, hstep, -⟩ := hr.mem_split
    exact Machine.Run.concat_iff.2 ⟨hpre, hstep, rfl⟩
  constructor
  · intro hkeeps t ht client hleft
    obtain ⟨h₁, h₂, heq⟩ := List.append_of_mem ht
    have hrun := hsplit h₁ t h₂ heq
    refine (keepsLive_iff hrun).1 (hkeeps h₁ t h₂ heq) client ?_
    exact (received_mem_log hrun).2 ⟨t, by simp, hleft⟩
  · intro hstays h₁ t h₂ heq
    have hrun := hsplit h₁ t h₂ heq
    refine (keepsLive_iff hrun).2 fun client hleft => ?_
    obtain ⟨t', ht', hreceives⟩ := (received_mem_log hrun).1 hleft
    refine hstays t' ?_ client hreceives
    rw [heq, List.append_cons]
    exact List.mem_append_left _ ht'

/-! ## A client that leaves -/

/-- Four bytes, the most significant first. -/
def bigEndian (n : ℕ) : Bytes := [24, 16, 8, 0].map fun shift => UInt8.ofNat (n >>> shift)

/-- A packet that holds one string, as it goes over the wire: its size, the length of the
string and the string. -/
def framedString (text : Bytes) : Bytes :=
  bigEndian (4 + text.length) ++ bigEndian text.length ++ text

/-- Nothing to receive. -/
def silent : ClientInput where
  ready := false
  status := .notReady
  packet := []
  send := ⟨.notReady, 0⟩
  context := DatabaseManager.sampleContext

/-- Somebody connects. -/
def connects : Iteration := ⟨true, .done, fun _ => silent⟩

/-- The first client does something. -/
def first (input : ClientInput) : Iteration :=
  ⟨false, .notReady, fun k => if k = 0 then input else silent⟩

/-- It leaves. -/
def leaves : Iteration := first { silent with ready := true, status := .disconnected }

/-- An iteration from a state, in a run. -/
def took (s : LoginServer) (i : Iteration) : Transition LoginServer Iteration (List Event) :=
  let r := iterate DatabaseManager.sampleBlowfish framedString s i
  ⟨s, i, r.2, r.1⟩

/-- Somebody connects to a server without users. -/
def connected : Transition LoginServer Iteration (List Event) :=
  took (initial fun _ => none) connects

/-- And stays, with nothing to say. -/
def stayed : Transition LoginServer Iteration (List Event) := took connected.post (first silent)

/-- Or leaves. -/
def left : Transition LoginServer Iteration (List Event) := took connected.post leaves

theorem run_left : (machine DatabaseManager.sampleBlowfish framedString).Run
    (initial fun _ => none) [connected, left] left.post :=
  .snoc (.snoc .nil rfl) rfl

theorem keeps_live_clients_iff_stayed :
    (machine DatabaseManager.sampleBlowfish framedString).Run (initial fun _ => none)
        [connected, stayed] stayed.post ∧
      ∀ h₁ t h₂, [connected, stayed] = h₁ ++ t :: h₂ → KeepsLive t.post (log (h₁ ++ [t])) := by
  have hr : (machine DatabaseManager.sampleBlowfish framedString).Run (initial fun _ => none)
      [connected, stayed] stayed.post := .snoc (.snoc .nil rfl) rfl
  refine ⟨hr, (keeps_live_clients_iff hr).2 ?_⟩
  intro t ht client hleft
  have hstatus : (t.label.client client).status = .disconnected := hleft.2.2.2
  rcases List.mem_pair.1 ht with rfl | rfl
  · cases hstatus
  · have hsilent : ((first silent).client client).status = .notReady := by
      simp only [first, ite_self]
      rfl
    cases hsilent.symm.trans hstatus

/-- A client that has left is a client still, and the selector finds its socket ready
for ever. -/
theorem left_client_stays :
    (machine DatabaseManager.sampleBlowfish framedString).Run (initial fun _ => none)
        [connected, left] left.post ∧
      .received 0 .disconnected ∈ log [connected, left] ∧ 0 ∈ left.post.clients ∧
      0 ∈ left.post.selector ∧ ¬ KeepsLive left.post (log [connected, left]) := by
  have hleft : .received 0 .disconnected ∈ log [connected, left] := by decide +kernel
  have hclient : 0 ∈ left.post.clients := by decide +kernel
  refine ⟨run_left, hleft, hclient, by decide +kernel, ?_⟩
  intro hkeeps
  exact ((hkeeps 0).1.1 hclient).2 hleft

end LoginServer

end ServiceServer
