import ServiceServer.Login.LoginServer

/-!
# Accounts

What the answers of the login service say over a whole run.  The server takes its
requests one after the other from any number of clients; all it does to the table it
does through `RegisterUser` and `LoginUser`.  Everything here is under the assumption on
the table that `insertUser` states: a unique key, compared byte by byte.

* `row_iff` — the rows of a table are those it had and the registrations that were
  accepted; `rejected_of_registers` — and a nickname is registered once.
* `loginUser_iff` — so a login is accepted exactly when its nickname was registered and
  the two passwords are enciphered alike, or the row was there before.
* `serves_run` — the answers of the server are those of one run of the database, in order;
  `login_ok_registered` — nobody is let in who was not registered; `register_ok_once` —
  no nickname is given to two clients.
-/

namespace ServiceServer

open Lib Bcrypt

namespace Bcrypt

variable {B : Blowfish}

theorem encodeBase64_injective {a b : Bytes} (hlen : a.length = b.length)
    (h : encodeBase64 a = encodeBase64 b) : a = b := by
  have ha := decodeBase64_encodeBase64 a []
  have hb := decodeBase64_encodeBase64 b []
  rw [h, hlen, hb] at ha
  exact ha.symm

/-- Under one salt, two hashes are the same when what is enciphered is. -/
theorem hashText_eq_iff {logr : Nat} {csalt p q : Bytes} :
    hashText B logr csalt p = hashText B logr csalt q ↔
      (B.ciphertext csalt (2 ^ logr) (passwordWords 98 p)).take 23
        = (B.ciphertext csalt (2 ^ logr) (passwordWords 98 q)).take 23 := by
  constructor
  · intro h
    refine encodeBase64_injective ?_ (List.append_cancel_left h)
    rw [List.length_take, List.length_take, B.length_ciphertext, B.length_ciphertext]
  · intro h
    rw [hashText, hashText, h]

end Bcrypt

namespace DatabaseManager

variable {B : Blowfish}

/-- The calls and their answers, oldest first. -/
abbrev CallHistory := List (Transition UsersTable Call Bool)

/-- This call registered the nickname, with this password and these salt bytes. -/
def Registers (t : Transition UsersTable Call Bool) (nickname password : Bytes) (seed : SaltBytes) :
    Prop :=
  ∃ ctx : CallContext, ctx.seed = seed ∧ t.label = .registerUser ctx nickname password ∧
    t.out = true

/-- What a call can do to a row. -/
theorem step_row {table table' : UsersTable} {c : Call} {r : Bool}
    (h : step B table c = .ok (table', r)) (nickname : Bytes) :
    table' nickname = table nickname ∨
      ∃ ctx password, c = .registerUser ctx nickname password ∧ r = true ∧
        table nickname = none ∧ table' nickname = some (hashText B 10 ctx.seed password) := by
  cases c with
  | loginUser ctx n password =>
    cases h
    exact .inl rfl
  | registerUser ctx n password =>
    simp only [step, Except.ok.injEq, Prod.mk.injEq] at h
    obtain ⟨rfl, rfl⟩ := h
    rcases registerUser_cases (B := B) table ctx n password with hno | ⟨-, -, -, hfree, hyes⟩
    · exact .inl (by rw [hno])
    · rw [hyes]
      by_cases hn : nickname = n
      · subst hn
        exact .inr ⟨ctx, password, rfl, rfl, hfree, if_pos rfl⟩
      · exact .inl (if_neg hn)

/-- **The rows are those of the start and the registrations that were accepted.** -/
theorem row_iff {h : CallHistory} {table₀ table : UsersTable} (hr : (machine B).Run table₀ h table)
    {nickname hash : Bytes} :
    table nickname = some hash ↔
      table₀ nickname = some hash ∨ ∃ t ∈ h, ∃ password seed,
        Registers t nickname password seed ∧ hash = hashText B 10 seed password := by
  constructor
  · intro hrow
    induction hr with
    | nil => exact .inl hrow
    | @snoc h table table' c r hr hs ih =>
      rcases step_row hs nickname with hsame | ⟨ctx, password, hlabel, hout, -, hnew⟩
      · rcases ih (hsame ▸ hrow) with hrow₀ | ⟨t, ht, hreg⟩
        · exact .inl hrow₀
        · exact .inr ⟨t, List.mem_append_left _ ht, hreg⟩
      · refine .inr ⟨_, List.mem_append_right _ (List.mem_singleton_self _), password, ctx.seed,
          ⟨ctx, rfl, hlabel, hout⟩, ?_⟩
        rw [hnew, Option.some.injEq] at hrow
        exact hrow.symm
  · rintro (hrow₀ | ⟨t, ht, password, seed, ⟨ctx, rfl, hlabel, hout⟩, rfl⟩)
    · exact hr.invariant (P := fun table => table nickname = some hash) hrow₀
        fun _ _ _ _ => row_step
    · obtain ⟨h₁, h₂, rfl⟩ := List.append_of_mem ht
      exact (row_run hr hlabel hout).2.2

/-- **A nickname is registered once**: after a registration was accepted, every other one
for it is rejected. -/
theorem rejected_of_registers {table₀ table : UsersTable} {h₁ h₂ : CallHistory}
    {t u : Transition UsersTable Call Bool} {nickname password password' : Bytes}
    {seed : SaltBytes} {ctx : CallContext} (hr : (machine B).Run table₀ (h₁ ++ t :: h₂) table)
    (ht : Registers t nickname password seed) (hu : u ∈ h₂)
    (hlabel : u.label = .registerUser ctx nickname password') : u.out = false := by
  obtain ⟨ctx', -, htlabel, htout⟩ := ht
  obtain ⟨h₃, h₄, rfl⟩ := List.append_of_mem hu
  rw [show h₁ ++ t :: (h₃ ++ u :: h₄) = (h₁ ++ t :: h₃) ++ u :: h₄ by simp] at hr
  obtain ⟨hbefore, hstep, -⟩ := hr.mem_split
  have hrow := (row_run hbefore htlabel htout).2.2
  cases hout : u.out with
  | false => rfl
  | true =>
    rw [hlabel, hout] at hstep
    simp only [machine, step, Except.ok.injEq, Prod.mk.injEq] at hstep
    rw [(registerUser_true (Prod.ext hstep.2 rfl)).2.2.1] at hrow
    cases hrow

/-- The password `q` is as good as one that was registered for the nickname. -/
def Registered (B : Blowfish) (h : CallHistory) (nickname q : Bytes) : Prop :=
  ∃ t ∈ h, ∃ p seed, Registers t nickname p seed ∧
    (B.ciphertext seed (2 ^ 10) (passwordWords 98 p)).take 23
      = (B.ciphertext seed (2 ^ 10) (passwordWords 98 q)).take 23

/-- A password is tried against the hash of another. -/
theorem validatePassword_iff_same (p q : Bytes) (seed stale : SaltBytes) :
    validatePassword B q (hashText B 10 seed p) stale = true ↔
      (B.ciphertext seed (2 ^ 10) (passwordWords 98 p)).take 23
        = (B.ciphertext seed (2 ^ 10) (passwordWords 98 q)).take 23 := by
  rw [validatePassword_hashText (by decide) (by decide) seed.2 p q _ stale.2, decide_eq_true_eq,
    hashText_eq_iff]

/-- What a login that was accepted went through. -/
theorem loginUser_true {table : UsersTable} {ctx : CallContext} {nickname q : Bytes}
    (h : loginUser B table ctx nickname q = true) :
    ctx.succeeds = true ∧ nickname ≠ [] ∧ q ≠ [] ∧
      ∃ hash, table nickname = some hash ∧ validatePassword B q hash ctx.stale = true := by
  unfold loginUser at h
  split_ifs at h with hempty hsucceeds
  rw [not_or] at hempty
  cases hrow : table nickname with
  | none =>
    rw [hrow] at h
    cases h
  | some hash =>
    rw [hrow] at h
    exact ⟨hsucceeds, hempty.1, hempty.2, hash, rfl, h⟩

/-- Who was let in had a row at the start, or was registered. -/
theorem registered_of_loginUser {h : CallHistory} {table₀ table : UsersTable}
    (hr : (machine B).Run table₀ h table) {ctx : CallContext} {nickname q : Bytes}
    (hlogin : loginUser B table ctx nickname q = true) :
    (∃ hash, table₀ nickname = some hash ∧ validatePassword B q hash ctx.stale = true) ∨
      Registered B h nickname q := by
  obtain ⟨-, -, -, hash, hrow, hvalid⟩ := loginUser_true hlogin
  rcases (row_iff hr).1 hrow with hrow₀ | ⟨t, ht, p, seed, hreg, rfl⟩
  · exact .inl ⟨hash, hrow₀, hvalid⟩
  · exact .inr ⟨t, ht, p, seed, hreg, (validatePassword_iff_same p q seed ctx.stale).1 hvalid⟩

/-- **Who is let in**, under the unique key of the table.  After any run, a login is accepted
exactly when its statement goes through, nothing is empty, and the password is accepted by the
row the nickname had at the start or is enciphered like the one that was registered for it in
the run, under the salt bytes that were drawn then. -/
theorem loginUser_iff {h : CallHistory} {table₀ table : UsersTable}
    (hr : (machine B).Run table₀ h table) {ctx : CallContext} {nickname q : Bytes} :
    loginUser B table ctx nickname q = true ↔
      ctx.succeeds = true ∧ nickname ≠ [] ∧ q ≠ [] ∧
        ((∃ hash, table₀ nickname = some hash ∧ validatePassword B q hash ctx.stale = true) ∨
          Registered B h nickname q) := by
  constructor
  · intro hlogin
    obtain ⟨hsucceeds, hname, hq, -⟩ := loginUser_true hlogin
    exact ⟨hsucceeds, hname, hq, registered_of_loginUser hr hlogin⟩
  · rintro ⟨hsucceeds, hname, hq, hrow⟩
    have hvalid : ∃ hash, table nickname = some hash ∧
        validatePassword B q hash ctx.stale = true := by
      rcases hrow with ⟨hash, hrow₀, hvalid⟩ | ⟨t, ht, p, seed, hreg, hsame⟩
      · exact ⟨hash, (row_iff hr).2 (.inl hrow₀), hvalid⟩
      · exact ⟨_, (row_iff hr).2 (.inr ⟨t, ht, p, seed, hreg, rfl⟩),
          (validatePassword_iff_same p q seed ctx.stale).2 hsame⟩
    obtain ⟨hash, hrow, hvalid⟩ := hvalid
    rw [loginUser, if_neg (by simp [hname, hq]), if_pos hsucceeds, hrow]
    exact hvalid

theorem loginUser_iff_ana :
    loginUser sampleBlowfish sampleTable sampleContext (ascii ['a', 'n', 'a'])
      (ascii ['s', 'e', 'c', 'r', 'e', 't']) = true :=
  (loginUser_iff sampleRun).2 ⟨rfl, by decide, by decide, .inr
    ⟨_, List.mem_cons_self, _, sampleContext.seed, ⟨sampleContext, rfl, rfl, rfl⟩, rfl⟩⟩

end DatabaseManager

namespace LoginServer

open DatabaseManager

variable {B : Blowfish} {frame : Bytes → Bytes}

/-! ## The answers of the server -/

/-- What a response says: the command, the nickname and the password it answers, and the
text. -/
abbrev Answer := Bytes × Bytes × Bytes × Bytes

/-- The answer to a call of the database. -/
def callAnswer (t : Transition UsersTable Call Bool) : Answer :=
  match t.label with
  | .registerUser _ nickname password => (register, nickname, password, responseText register t.out)
  | .loginUser _ nickname password => (login, nickname, password, responseText login t.out)

/-- The answer a response gives. -/
def responseAnswer (r : Response) : Answer := (r.command, r.nick, r.pass, r.text)

/-- The answer an event is. -/
def eventAnswer : Event → Option Answer
  | .responded _ response => some (responseAnswer response)
  | _ => none

/-- Some run of the database leads from a table to a table with these answers. -/
def Serves (B : Blowfish) (table : UsersTable) (answers : List Answer) (table' : UsersTable) :
    Prop :=
  ∃ h, (DatabaseManager.machine B).Run table h table' ∧ h.map callAnswer = answers

namespace Serves

variable {table table' table'' : UsersTable} {answers answers' : List Answer}

theorem refl (table : UsersTable) : Serves B table [] table := ⟨[], .nil, rfl⟩

theorem trans (h : Serves B table answers table') (h' : Serves B table' answers' table'') :
    Serves B table (answers ++ answers') table'' := by
  obtain ⟨k, hr, rfl⟩ := h
  obtain ⟨k', hr', rfl⟩ := h'
  exact ⟨k ++ k', hr.append hr', List.map_append⟩

theorem single {c : Call} {r : Bool}
    (h : DatabaseManager.step B table c = .ok (table', r)) :
    Serves B table [callAnswer ⟨table, c, r, table'⟩] table' :=
  ⟨_, .single h, rfl⟩

end Serves

/-- A command that is handled is one call of the database, or none. -/
theorem serves_handleCommand (table : UsersTable) (input : ClientInput)
    (command nick pass : Bytes) :
    Serves B table ((handleCommand B frame table input command nick pass).2.map responseAnswer)
      (handleCommand B frame table input command nick pass).1 := by
  unfold handleCommand
  by_cases hregister : command = register
  · rw [if_pos hregister]
    subst hregister
    exact Serves.single (c := .registerUser input.context nick pass) rfl
  · rw [if_neg hregister]
    by_cases hlogin : command = login
    · rw [if_pos hlogin]
      subst hlogin
      exact Serves.single (c := .loginUser input.context nick pass) rfl
    · rw [if_neg hlogin]
      exact .refl table

theorem serves_handlePacket (table : UsersTable) (input : ClientInput) :
    Serves B table ((handlePacket B frame table input).2.map responseAnswer)
      (handlePacket B frame table input).1 := by
  unfold handlePacket
  cases input.packet with
  | nil => exact .refl table
  | cons command rest =>
    by_cases hcommand : command = login ∨ command = register
    · simp only [if_pos hcommand]
      cases rest with
      | nil => exact .refl table
      | cons nick rest =>
        cases rest with
        | nil => exact .refl table
        | cons pass rest => exact serves_handleCommand table input command nick pass
    · simp only [if_neg hcommand]
      exact .refl table

theorem serves_receiveData (table : UsersTable) (client : SocketId) (input : ClientInput) :
    Serves B table ((receiveData B frame table client input).2.filterMap eventAnswer)
      (receiveData B frame table client input).1 := by
  unfold receiveData
  by_cases hdone : input.status = .done
  · rw [if_pos hdone]
    have hanswers : (Event.received client input.status ::
        (handlePacket B frame table input).2.map (.responded client)).filterMap eventAnswer
          = (handlePacket B frame table input).2.map responseAnswer := by
      rw [List.filterMap_cons_none rfl, List.filterMap_map, ← List.filterMap_eq_map]
      rfl
    rw [hanswers]
    exact serves_handlePacket table input
  · rw [if_neg hdone]
    exact .refl table

/-- The loop over the clients calls the database for one after the other. -/
theorem serves_receiveFrom (s : LoginServer) (i : Iteration) (clients : List SocketId)
    (table : UsersTable) :
    Serves B table ((receiveFrom B frame s i clients table).2.filterMap eventAnswer)
      (receiveFrom B frame s i clients table).1 := by
  induction clients generalizing table with
  | nil => exact .refl table
  | cons client clients ih =>
    unfold receiveFrom
    by_cases hready : s.isReady i client
    · rw [if_pos hready, List.filterMap_append]
      exact (serves_receiveData table client (i.client client)).trans (ih _)
    · rw [if_neg hready]
      exact ih table

theorem serves_iterate {s s' : LoginServer} {i : Iteration} {out : List Event}
    (h : iterate B frame s i = (s', out)) :
    Serves B s.table (out.filterMap eventAnswer) s'.table := by
  cases iterates_of_iterate h with
  | accepts => exact .refl _
  | refuses => exact .refl _
  | serves => exact serves_receiveFrom s i s.clients s.table
  | sleeps => exact .refl _

/-- **The server serves the database.**  What a run of the server answers, to all of its
clients, are the answers of a run of the database, in order, and it leaves the same table. -/
theorem serves_run {table : UsersTable} {h : History} {s : LoginServer}
    (hr : (machine B frame).Run (initial table) h s) :
    Serves B table ((log h).filterMap eventAnswer) s.table := by
  induction hr with
  | nil => exact .refl table
  | @snoc h s s' i out _ hs ih =>
    rw [log_append, log_singleton, List.filterMap_append]
    exact ih.trans (serves_iterate (step_iff.1 hs))

/-- A response of a run is the answer of a call, and the responses before it and after it
are those of the calls before and after. -/
theorem exists_call {table : UsersTable} {h : History} {s : LoginServer}
    {before after : List Event} {k : SocketId} {r : Response}
    (hr : (machine B frame).Run (initial table) h s)
    (hlog : log h = before ++ .responded k r :: after) :
    ∃ h₁ t h₂, (DatabaseManager.machine B).Run table (h₁ ++ t :: h₂) s.table ∧
      h₁.map callAnswer = before.filterMap eventAnswer ∧ callAnswer t = responseAnswer r ∧
      h₂.map callAnswer = after.filterMap eventAnswer := by
  obtain ⟨h', hr', hanswers⟩ := serves_run hr
  have hresponse : eventAnswer (.responded k r) = some (responseAnswer r) := rfl
  rw [hlog, List.filterMap_append, List.filterMap_cons_some hresponse] at hanswers
  obtain ⟨h₁, h₂, rfl, hbefore, hafter⟩ := List.map_eq_append_iff.1 hanswers
  obtain ⟨t, h₂, rfl, ht, hafter⟩ := List.map_eq_cons_iff.1 hafter
  exact ⟨h₁, t, h₂, hr', hbefore, ht, hafter⟩

/-- An answer among the events is a response. -/
theorem exists_responded {log : List Event} {a : Answer} (h : a ∈ log.filterMap eventAnswer) :
    ∃ k r, .responded k r ∈ log ∧ responseAnswer r = a := by
  obtain ⟨e, he, ha⟩ := List.mem_filterMap.1 h
  cases e with
  | accepted k => cases ha
  | received k status => cases ha
  | responded k r => exact ⟨k, r, he, Option.some.inj ha⟩

/-- The text `LOGIN_OK` answers a login that was accepted. -/
theorem loginUser_of_callAnswer {t : Transition UsersTable Call Bool} {command nick pass : Bytes}
    (h : callAnswer t = (command, nick, pass, responseText login true)) :
    ∃ ctx, t.label = .loginUser ctx nick pass ∧ t.out = true := by
  obtain ⟨pre, label, out, post⟩ := t
  cases label with
  | registerUser ctx nickname password =>
    simp only [callAnswer, Prod.mk.injEq] at h
    cases out with
    | true => exact absurd h.2.2.2 (by decide)
    | false => exact absurd h.2.2.2 (by decide)
  | loginUser ctx nickname password =>
    simp only [callAnswer, Prod.mk.injEq] at h
    obtain ⟨-, rfl, rfl, htext⟩ := h
    cases out with
    | true => exact ⟨ctx, rfl, rfl⟩
    | false => exact absurd htext (by decide)

/-- The text `REGISTER_OK` answers a registration that was accepted. -/
theorem registerUser_of_callAnswer {t : Transition UsersTable Call Bool}
    {command nick pass : Bytes}
    (h : callAnswer t = (command, nick, pass, responseText register true)) :
    ∃ ctx, t.label = .registerUser ctx nick pass ∧ t.out = true := by
  obtain ⟨pre, label, out, post⟩ := t
  cases label with
  | registerUser ctx nickname password =>
    simp only [callAnswer, Prod.mk.injEq] at h
    obtain ⟨-, rfl, rfl, htext⟩ := h
    cases out with
    | true => exact ⟨ctx, rfl, rfl⟩
    | false => exact absurd htext (by decide)
  | loginUser ctx nickname password =>
    simp only [callAnswer, Prod.mk.injEq] at h
    cases out with
    | true => exact absurd h.2.2.2 (by decide)
    | false => exact absurd h.2.2.2 (by decide)

/-- **Nobody is let in who was not registered**, under the unique key of the table.  Before the
server answers `LOGIN_OK` to a client, the nickname had a row that accepts the password, or the
server had answered `REGISTER_OK` to a client, for this nickname and a password that is
enciphered like this one under some salt. -/
theorem login_ok_registered {table : UsersTable} {h : History} {s : LoginServer}
    {before after : List Event} {k : SocketId} {r : Response}
    (hr : (machine B frame).Run (initial table) h s)
    (hlog : log h = before ++ .responded k r :: after) (htext : r.text = responseText login true) :
    (∃ hash stale, table r.nick = some hash ∧ stale.length = maxSalt ∧
        validatePassword B r.pass hash stale = true) ∨
      ∃ j r', ∃ seed : SaltBytes, .responded j r' ∈ before ∧
        r'.text = responseText register true ∧ r'.nick = r.nick ∧
        (B.ciphertext seed (2 ^ 10) (passwordWords 98 r'.pass)).take 23
          = (B.ciphertext seed (2 ^ 10) (passwordWords 98 r.pass)).take 23 := by
  obtain ⟨h₁, t, h₂, hr', hbefore, ht, -⟩ := exists_call hr hlog
  rw [responseAnswer, htext] at ht
  obtain ⟨ctx, hlabel, hout⟩ := loginUser_of_callAnswer ht
  obtain ⟨hpre, hstep, -⟩ := hr'.mem_split
  rw [hlabel, hout] at hstep
  simp only [DatabaseManager.machine, DatabaseManager.step, Except.ok.injEq, Prod.mk.injEq] at hstep
  rcases registered_of_loginUser hpre hstep.2 with
    ⟨hash, hrow, hvalid⟩ | ⟨u, hu, p, seed, ⟨ctx', -, hulabel, huout⟩, hsame⟩
  · exact .inl ⟨hash, ctx.stale, hrow, ctx.stale.2, hvalid⟩
  · refine .inr ?_
    have hanswer : callAnswer u ∈ before.filterMap eventAnswer := by
      rw [← hbefore]
      exact List.mem_map_of_mem hu
    obtain ⟨j, r', hmem, hr''⟩ := exists_responded hanswer
    rw [callAnswer, hulabel, huout, responseAnswer, Prod.mk.injEq, Prod.mk.injEq,
      Prod.mk.injEq] at hr''
    obtain ⟨-, hnick, hpass, hregister⟩ := hr''
    exact ⟨j, r', seed, hmem, hregister, hnick, by rw [hpass]; exact hsame⟩

/-- **A nickname is given away once**, under the unique key of the table (`insertUser`).  Of
the responses of a run that say `REGISTER_OK`, to whichever clients, no two are for one
nickname. -/
theorem register_ok_once {table : UsersTable} {h : History} {s : LoginServer}
    {before after : List Event} {j k : SocketId} {r r' : Response}
    (hr : (machine B frame).Run (initial table) h s)
    (hlog : log h = before ++ .responded k r :: after) (htext : r.text = responseText register true)
    (hlater : .responded j r' ∈ after) (htext' : r'.text = responseText register true) :
    r'.nick ≠ r.nick := by
  intro hnick
  obtain ⟨h₁, t, h₂, hr', -, ht, hafter⟩ := exists_call hr hlog
  rw [responseAnswer, htext] at ht
  obtain ⟨ctx, hlabel, hout⟩ := registerUser_of_callAnswer ht
  have hanswer : responseAnswer r' ∈ h₂.map callAnswer := by
    rw [hafter]
    exact List.mem_filterMap.2 ⟨_, hlater, rfl⟩
  obtain ⟨u, hu, hur'⟩ := List.mem_map.1 hanswer
  rw [responseAnswer, htext', hnick] at hur'
  obtain ⟨ctx', hulabel, huout⟩ := registerUser_of_callAnswer hur'
  have hrejected := rejected_of_registers hr' ⟨ctx, rfl, hlabel, hout⟩ hu hulabel
  rw [huout] at hrejected
  cases hrejected

/-! ## A user who registers and logs in -/

/-- The first client sends a request. -/
def asksFor (command nick : Bytes) : Iteration :=
  first
    { silent with
      ready := true
      status := .done
      packet := [command, nick, ascii ['s', 'e', 'c', 'r', 'e', 't']] }

/-- The response that says that it was granted. -/
def granted (command nick : Bytes) : Response :=
  respond framedString silent command nick (ascii ['s', 'e', 'c', 'r', 'e', 't'])
    (responseText command true)

/-- `ana` registers, and then there is this request. -/
def registersAnd (command nick : Bytes) : History :=
  let t := took connected.post (asksFor register (ascii ['a', 'n', 'a']))
  [connected, t, took t.post (asksFor command nick)]

/-- What the server is like then. -/
def afterRegister (command nick : Bytes) : LoginServer :=
  (took (took connected.post (asksFor register (ascii ['a', 'n', 'a']))).post
    (asksFor command nick)).post

theorem run_registersAnd (command nick : Bytes) :
    (machine DatabaseManager.sampleBlowfish framedString).Run (initial fun _ => none)
      (registersAnd command nick) (afterRegister command nick) :=
  .snoc (.snoc (.snoc .nil rfl) rfl) rfl

theorem login_ok_registered_ana :
    ∃ j r', ∃ seed : SaltBytes, .responded j r' ∈ [Event.accepted 0, .received 0 .done,
        .responded 0 (granted register (ascii ['a', 'n', 'a'])), .received 0 .done] ∧
      r'.text = responseText register true ∧
      r'.nick = (granted login (ascii ['a', 'n', 'a'])).nick ∧
      (sampleBlowfish.ciphertext seed (2 ^ 10) (passwordWords 98 r'.pass)).take 23
        = (sampleBlowfish.ciphertext seed (2 ^ 10)
            (passwordWords 98 (granted login (ascii ['a', 'n', 'a'])).pass)).take 23 := by
  have hlog : log (registersAnd login (ascii ['a', 'n', 'a']))
      = [.accepted 0, .received 0 .done, .responded 0 (granted register (ascii ['a', 'n', 'a'])),
          .received 0 .done] ++ .responded 0 (granted login (ascii ['a', 'n', 'a'])) :: [] := by
    decide +kernel
  rcases login_ok_registered (run_registersAnd login (ascii ['a', 'n', 'a'])) hlog rfl with
    ⟨hash, stale, hrow, -⟩ | hregistered
  · cases hrow
  · exact hregistered

theorem register_ok_once_bea :
    (granted register (ascii ['b', 'e', 'a'])).nick
      ≠ (granted register (ascii ['a', 'n', 'a'])).nick := by
  have hlog : log (registersAnd register (ascii ['b', 'e', 'a']))
      = [.accepted 0, .received 0 .done] ++ .responded 0 (granted register (ascii ['a', 'n', 'a'])) ::
          [.received 0 .done, .responded 0 (granted register (ascii ['b', 'e', 'a']))] := by
    decide +kernel
  exact register_ok_once (j := 0) (run_registersAnd register (ascii ['b', 'e', 'a'])) hlog rfl
    (by decide) rfl

end LoginServer

end ServiceServer
