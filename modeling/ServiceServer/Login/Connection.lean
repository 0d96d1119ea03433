import ServiceServer.Login.LoginServer

/-!
# The connection to the database (`DatabaseManager.cpp`, `HandleCommand`)

The database is connected to once, before any request is served, and a failure to
connect is printed and forgotten.  What is left behind is two pointers.  This file looks
at `RegisterUser` and `LoginUser` call by call: any of their calls may throw, and the
first one goes through the pointer to the connection.

* `registerUser_valid`, `loginUser_valid` — with a connection, a call that throws is a
  statement that does not go through, and nothing else can be seen of it.
* `performRequest_null` — without one, a request with both fields filled in dereferences
  null.
* `served_iff` — so the requests are all answered exactly if there is a connection, or
  there is nothing to look up.
-/

namespace ServiceServer

open Lib
open Bcrypt (Blowfish generateHash validatePassword)

namespace DatabaseManager

/-! ## The pointers -/

/-- A pointer, as far as it matters. -/
inductive Pointer where
  | null
  | valid
  deriving DecidableEq, Repr

/-- The data members, as the constructor leaves them. -/
structure Members where
  driver : Pointer := .null
  con : Pointer := .null
  deriving DecidableEq, Repr

/-- The calls `ConnectDatabase` makes, in order. -/
inductive ConnectCall where
  | getDriverInstance
  | connect
  | setSchema
  deriving DecidableEq, Repr

/-- `ConnectDatabase`, when this call of it throws, or none.  What was assigned before
stays assigned. -/
def Members.connectDatabase (m : Members) (throws : Option ConnectCall) : Members :=
  if throws = some .getDriverInstance then m
  else
    let m := { m with driver := .valid }
    if throws = some .connect then m
    else { m with con := .valid } -- `setSchema` assigns nothing, whether it throws or not

/-- **There is a connection unless a call before `setSchema` throws.** -/
theorem connectDatabase_con (throws : Option ConnectCall) :
    (({} : Members).connectDatabase throws).con = .null ↔
      throws = some .getDriverInstance ∨ throws = some .connect := by
  rcases throws with _ | _ | _ | _ <;> decide

/-! ## The calls of a request -/

/-- The calls `RegisterUser` and `LoginUser` make to the database. -/
inductive DatabaseCall where
  | prepareStatement
  | setNickname
  | setPassword
  | execute
  | executeQuery
  | next
  | getString
  deriving DecidableEq, Repr

/-- How a function of the sources can fail to return. -/
inductive Failure where
  /-- A `sql::SQLException` that is not caught. -/
  | sqlException
  | nullDereference
  deriving DecidableEq, Repr

/-- What a request finds: which calls go through, and the bytes of a `CallContext`. -/
structure RequestContext where
  goesThrough : DatabaseCall → Bool
  seed : SaltBytes
  stale : SaltBytes

/-- A call to the database: it returns or throws. -/
def RequestContext.call (ctx : RequestContext) (c : DatabaseCall) : Except Failure Unit :=
  if ctx.goesThrough c then .ok () else .error .sqlException

/-- `_con->prepareStatement(query)`. -/
def Members.prepareStatement (m : Members) (ctx : RequestContext) : Except Failure Unit :=
  match m.con with
  | .null => .error .nullDereference
  | .valid => ctx.call .prepareStatement

/-- `stmt->execute()` of the insertion, which throws if the table rejects the row. -/
def executeInsert (table : UsersTable) (ctx : RequestContext) (nickname hashedPassword : Bytes) :
    Except Failure UsersTable := do
  ctx.call .execute
  match insertUser table nickname hashedPassword with
  | some table => .ok table
  | none => .error .sqlException

/-- `try { ... } catch (sql::SQLException& e) { ... }`, with what the handler returns. -/
def catchSQLException {α : Type} (body : Except Failure α) (handled : α) : Except Failure α :=
  match body with
  | .error .sqlException => .ok handled
  | r => r

variable (B : Blowfish)

/-- `RegisterUser`, call by call. -/
def Members.registerUser (m : Members) (table : UsersTable) (ctx : RequestContext)
    (nickname password : Bytes) : Except Failure (Bool × UsersTable) :=
  if nickname = [] ∨ password = [] then .ok (false, table)
  else
    let body : Except Failure (Bool × UsersTable) := do
      let hashedPassword := generateHash B password 10 ctx.seed ctx.stale
      m.prepareStatement ctx
      ctx.call .setNickname
      ctx.call .setPassword
      let table ← executeInsert table ctx nickname hashedPassword
      .ok (true, table)
    catchSQLException body (false, table)

/-- `LoginUser`, call by call. -/
def Members.loginUser (m : Members) (table : UsersTable) (ctx : RequestContext)
    (nickname password : Bytes) : Except Failure Bool :=
  if nickname = [] ∨ password = [] then .ok false
  else
    let body : Except Failure Bool := do
      m.prepareStatement ctx
      ctx.call .setNickname
      ctx.call .executeQuery
      ctx.call .next
      match table nickname with
      | none => .ok false
      | some storedHash =>
        ctx.call .getString
        .ok (validatePassword B password storedHash ctx.stale)
    catchSQLException body false

/-! ## The requests -/

/-- A request that `ReceiveData` passes on: it knows two commands. -/
structure Request where
  command : Bytes
  nick : Bytes
  pass : Bytes
  context : RequestContext
  known : command = LoginServer.login ∨ command = LoginServer.register

/-- The members, and the table behind them. -/
structure Database where
  members : Members
  table : UsersTable

/-- The call of the database a request leads to. -/
def performRequest (d : Database) (r : Request) : Except Failure (Bool × UsersTable) :=
  if r.command = LoginServer.register then d.members.registerUser B d.table r.context r.nick r.pass
  else (d.members.loginUser B d.table r.context r.nick r.pass).map fun success => (success, d.table)

/-- `HandleCommand`, with the texts of the responses it sends. -/
def handleCommand (d : Database) (r : Request) : Except Failure (Database × List Bytes) :=
  if r.command = LoginServer.register then
    match d.members.registerUser B d.table r.context r.nick r.pass with
    | .error e => .error e
    | .ok (success, table) =>
      .ok ({ d with table := table }, [LoginServer.responseText LoginServer.register success])
  else if r.command = LoginServer.login then
    match d.members.loginUser B d.table r.context r.nick r.pass with
    | .error e => .error e
    | .ok success => .ok (d, [LoginServer.responseText LoginServer.login success])
  else .ok (d, [])

/-- The requests, one after the other.  A failure takes the service down. -/
def requestMachine : Machine Database Request (List Bytes) Failure := ⟨handleCommand B⟩

/-- The database as the first request finds it. -/
def afterConnect (throws : Option ConnectCall) (table : UsersTable) : Database :=
  ⟨({} : Members).connectDatabase throws, table⟩

variable {B}

/-! ## With a connection -/

/-- The calls of a registration. -/
def registerCalls : List DatabaseCall := [.prepareStatement, .setNickname, .setPassword, .execute]

/-- The calls of a login; the last one is made if there is a row. -/
def loginCalls : List DatabaseCall :=
  [.prepareStatement, .setNickname, .executeQuery, .next, .getString]

/-- Several calls seen as one statement, which goes through if they all do. -/
def RequestContext.asOne (ctx : RequestContext) (calls : List DatabaseCall) : CallContext where
  succeeds := calls.all ctx.goesThrough
  seed := ctx.seed
  stale := ctx.stale

/-- A call inside a `try` goes through, or ends in the handler. -/
theorem catchSQLException_call {α : Type} (ctx : RequestContext) (c : DatabaseCall)
    (rest : Unit → Except Failure α) (handled : α) :
    catchSQLException (ctx.call c >>= rest) handled
      = if ctx.goesThrough c then catchSQLException (rest ()) handled else .ok handled := by
  unfold RequestContext.call
  split_ifs <;> rfl

theorem prepareStatement_valid {m : Members} (hcon : m.con = .valid) (ctx : RequestContext) :
    m.prepareStatement ctx = ctx.call .prepareStatement := by
  rw [Members.prepareStatement, hcon]

/-- **With a connection, a registration is what it is as one statement.** -/
theorem registerUser_valid {m : Members} (hcon : m.con = .valid) (table : UsersTable)
    (ctx : RequestContext) (nickname password : Bytes) :
    m.registerUser B table ctx nickname password
      = .ok (registerUser B table (ctx.asOne registerCalls) nickname password) := by
  unfold Members.registerUser registerUser
  by_cases hempty : nickname = [] ∨ password = []
  · rw [if_pos hempty, if_pos hempty]
  · rw [if_neg hempty, if_neg hempty]
    simp only [prepareStatement_valid hcon, executeInsert, bind_assoc, catchSQLException_call]
    cases hinsert : insertUser table nickname (generateHash B password 10 ctx.seed ctx.stale) with
    | none => split_ifs <;> simp_all [RequestContext.asOne, registerCalls, catchSQLException] <;> rfl
    | some table' =>
      split_ifs <;> simp_all [RequestContext.asOne, registerCalls, catchSQLException] <;> rfl

/-- **With a connection, a login is what it is as one statement.** -/
theorem loginUser_valid {m : Members} (hcon : m.con = .valid) (table : UsersTable)
    (ctx : RequestContext) (nickname password : Bytes) :
    m.loginUser B table ctx nickname password
      = .ok (loginUser B table (ctx.asOne loginCalls) nickname password) := by
  unfold Members.loginUser loginUser
  by_cases hempty : nickname = [] ∨ password = []
  · rw [if_pos hempty, if_pos hempty]
  · rw [if_neg hempty, if_neg hempty]
    simp only [prepareStatement_valid hcon, catchSQLException_call]
    cases hrow : table nickname with
    | none =>
      split_ifs <;> simp_all [RequestContext.asOne, loginCalls, catchSQLException]
    | some storedHash =>
      simp only [catchSQLException_call]
      split_ifs <;> simp_all [RequestContext.asOne, loginCalls, catchSQLException]

/-- The calls a request needs. -/
def Request.calls (r : Request) : List DatabaseCall :=
  if r.command = LoginServer.register then registerCalls else loginCalls

/-- A statement that does not go through is answered `false`. -/
theorem succeeds_of_registerUser {table table' : UsersTable} {ctx : CallContext}
    {nickname password : Bytes}
    (h : registerUser B table ctx nickname password = (true, table')) : ctx.succeeds = true := by
  rcases registerUser_cases (B := B) table ctx nickname password with hno | ⟨-, -, hsucceeds, -⟩
  · rw [hno] at h
    cases h
  · exact hsucceeds

theorem succeeds_of_loginUser {table : UsersTable} {ctx : CallContext} {nickname password : Bytes}
    (h : loginUser B table ctx nickname password = true) : ctx.succeeds = true := by
  unfold loginUser at h
  split_ifs at h with hempty hgoes
  exact hgoes

/-- **With a connection, every call returns a Bool**, and `false` if the database could
not do its part. -/
theorem performRequest_valid {d : Database} (hcon : d.members.con = .valid) (r : Request) :
    ∃ success table, performRequest B d r = .ok (success, table) ∧
      (success = true → ∀ c ∈ r.calls, r.context.goesThrough c = true) := by
  unfold performRequest Request.calls
  by_cases hregister : r.command = LoginServer.register
  · rw [if_pos hregister, if_pos hregister, registerUser_valid hcon]
    refine ⟨_, _, rfl, fun hsuccess => ?_⟩
    exact List.all_eq_true.1 (succeeds_of_registerUser (Prod.ext hsuccess rfl))
  · rw [if_neg hregister, if_neg hregister, loginUser_valid hcon]
    refine ⟨_, _, rfl, fun hsuccess => ?_⟩
    exact List.all_eq_true.1 (succeeds_of_loginUser hsuccess)

/-! ## Without one -/

/-- A request whose nickname or password is missing. -/
def Request.Blank (r : Request) : Prop := r.nick = [] ∨ r.pass = []

theorem performRequest_blank (d : Database) {r : Request} (hblank : r.Blank) :
    performRequest B d r = .ok (false, d.table) := by
  have hempty : r.nick = [] ∨ r.pass = [] := hblank
  unfold performRequest
  split_ifs
  · rw [Members.registerUser, if_pos hempty]
  · rw [Members.loginUser, if_pos hempty]
    rfl

/-- **Without a connection, any other request dereferences null.** -/
theorem performRequest_null {d : Database} (hcon : d.members.con = .null) {r : Request}
    (hfilled : ¬ r.Blank) : performRequest B d r = .error .nullDereference := by
  have hprepare : d.members.prepareStatement r.context = .error .nullDereference := by
    rw [Members.prepareStatement, hcon]
  have hempty : ¬ (r.nick = [] ∨ r.pass = []) := hfilled
  unfold performRequest
  split_ifs
  · rw [Members.registerUser, if_neg hempty, hprepare]
    rfl
  · rw [Members.loginUser, if_neg hempty, hprepare]
    rfl

/-! ## Serving the requests -/

variable (B)

/-- What a request should be answered: its call returns a Bool, `false` if the database
could not do its part, and the response says which. -/
def Answered (d : Database) (r : Request) (out : List Bytes) : Prop :=
  ∃ success table, performRequest B d r = .ok (success, table) ∧
    (success = true → ∀ c ∈ r.calls, r.context.goesThrough c = true) ∧
    out = [LoginServer.responseText r.command success]

/-- The requests are all handled, one after the other, and answered so. -/
def Served (d : Database) (rs : List Request) : Prop :=
  ∃ h d', (requestMachine B).exec d rs = .ok (h, d') ∧ h.map (·.label) = rs ∧
    ∀ t ∈ h, Answered B t.pre t.label t.out

variable {B}

theorem handleCommand_ok {d : Database} {r : Request} {success : Bool} {table : UsersTable}
    (h : performRequest B d r = .ok (success, table)) :
    handleCommand B d r
      = .ok ({ d with table := table }, [LoginServer.responseText r.command success]) := by
  unfold performRequest at h
  unfold handleCommand
  by_cases hregister : r.command = LoginServer.register
  · rw [if_pos hregister] at h
    rw [if_pos hregister, h, hregister]
  · have hlogin := r.known.resolve_right hregister
    rw [if_neg hregister] at h
    rw [if_neg hregister, if_pos hlogin, hlogin]
    cases hcall : d.members.loginUser B d.table r.context r.nick r.pass with
    | error e =>
      rw [hcall] at h
      cases h
    | ok b =>
      rw [hcall] at h
      cases h
      rfl

theorem handleCommand_error {d : Database} {r : Request} {e : Failure}
    (h : performRequest B d r = .error e) : handleCommand B d r = .error e := by
  unfold performRequest at h
  unfold handleCommand
  by_cases hregister : r.command = LoginServer.register
  · rw [if_pos hregister] at h
    rw [if_pos hregister, h]
  · rw [if_neg hregister] at h
    rw [if_neg hregister, if_pos (r.known.resolve_right hregister)]
    cases hcall : d.members.loginUser B d.table r.context r.nick r.pass with
    | error e' =>
      rw [hcall] at h
      cases h
      rfl
    | ok b =>
      rw [hcall] at h
      cases h

theorem served_nil (d : Database) : Served B d [] := ⟨[], d, rfl, rfl, by simp⟩

/-- The first request is answered, and then the others are. -/
theorem served_cons_iff {d : Database} {r : Request} {rs : List Request} :
    Served B d (r :: rs) ↔
      ∃ success table, performRequest B d r = .ok (success, table) ∧
        (success = true → ∀ c ∈ r.calls, r.context.goesThrough c = true) ∧
        Served B { d with table := table } rs := by
  constructor
  · rintro ⟨h, d', hexec, hlabels, hall⟩
    cases hcall : performRequest B d r with
    | error e => simp [Machine.exec, requestMachine, handleCommand_error hcall] at hexec
    | ok answer =>
      obtain ⟨success, table⟩ := answer
      simp only [Machine.exec, requestMachine, handleCommand_ok hcall] at hexec
      split at hexec
      · cases hexec
      · rename_i k d'' hrest
        simp only [Except.ok.injEq, Prod.mk.injEq] at hexec
        obtain ⟨rfl, rfl⟩ := hexec
        rw [List.forall_mem_cons] at hall
        obtain ⟨success', table', hcall', hfailed, -⟩ := hall.1
        rw [hcall] at hcall'
        cases hcall'
        exact ⟨success, table, rfl, hfailed, k, d'', hrest, (List.cons.inj hlabels).2, hall.2⟩
  · rintro ⟨success, table, hcall, hfailed, h, d', hexec, hlabels, hall⟩
    refine ⟨⟨d, r, [LoginServer.responseText r.command success], { d with table := table }⟩ :: h,
      d', ?_, by simp [hlabels], ?_⟩
    · simp only [requestMachine] at hexec
      simp only [Machine.exec, requestMachine, handleCommand_ok hcall, hexec]
    · rw [List.forall_mem_cons]
      exact ⟨⟨success, table, hcall, hfailed, rfl⟩, hall⟩

/-- With a connection, any requests are served. -/
theorem served_valid {d : Database} (hcon : d.members.con = .valid) (rs : List Request) :
    Served B d rs := by
  induction rs generalizing d with
  | nil => exact served_nil d
  | cons r rs ih =>
    obtain ⟨success, table, hcall, hfailed⟩ := performRequest_valid (B := B) hcon r
    exact served_cons_iff.2 ⟨success, table, hcall, hfailed, ih hcon⟩

/-- Without one, blank ones are. -/
theorem served_null_iff {d : Database} (hcon : d.members.con = .null) {rs : List Request} :
    Served B d rs ↔ ∀ r ∈ rs, r.Blank := by
  induction rs generalizing d with
  | nil => simp [served_nil]
  | cons r rs ih =>
    rw [served_cons_iff, List.forall_mem_cons]
    constructor
    · rintro ⟨success, table, hcall, -, hrest⟩
      refine ⟨?_, (ih (d := { d with table := table }) hcon).1 hrest⟩
      by_contra hfilled
      rw [performRequest_null hcon hfilled] at hcall
      cases hcall
    · rintro ⟨hblank, hrest⟩
      refine ⟨false, d.table, performRequest_blank d hblank, fun h => ?_, (ih hcon).2 hrest⟩
      cases h

/-- **The requests are all answered exactly if there is a connection or nothing to look
up.**  However the database was connected to, and whichever of its later calls throw,
every call returns a Bool and every request is answered, unless the driver could not be
had or the connection not be made, and some request has both fields filled in. -/
theorem served_iff (throws : Option ConnectCall) (table : UsersTable) (rs : List Request) :
    Served B (afterConnect throws table) rs ↔
      ¬ (throws = some .getDriverInstance ∨ throws = some .connect) ∨ ∀ r ∈ rs, r.Blank := by
  have hnull : (afterConnect throws table).members.con = .null ↔ _ := connectDatabase_con throws
  cases hcon : (afterConnect throws table).members.con with
  | null =>
    rw [served_null_iff hcon, or_iff_right (not_not.2 (hnull.1 hcon))]
  | valid =>
    refine iff_of_true (served_valid hcon rs) (.inl fun hthrows => ?_)
    rw [hnull.2 hthrows] at hcon
    cases hcon

/-- `ana` logs in with the password `secret`. -/
def anaLogsIn : Request where
  command := LoginServer.login
  nick := ascii ['a', 'n', 'a']
  pass := ascii ['s', 'e', 'c', 'r', 'e', 't']
  context := ⟨fun _ => true, sampleContext.seed, sampleContext.stale⟩
  known := .inl rfl

/-- **The first login after a failed connection takes the service down**: the database was
not there when the service started, and the pointer that was never set is dereferenced. -/
theorem failed_connection_dereferenced :
    handleCommand sampleBlowfish (afterConnect (some .connect) fun _ => none) anaLogsIn
      = .error .nullDereference ∧
    ¬ Served sampleBlowfish (afterConnect (some .connect) fun _ => none) [anaLogsIn] := by
  have hcall : performRequest sampleBlowfish (afterConnect (some .connect) fun _ => none) anaLogsIn
      = .error .nullDereference := by
    refine performRequest_null rfl ?_
    rintro (h | h) <;> cases h
  refine ⟨handleCommand_error hcall, fun hserved => ?_⟩
  obtain ⟨success, table, hok, -⟩ := served_cons_iff.1 hserved
  rw [hcall] at hok
  cases hok

end DatabaseManager

end ServiceServer
