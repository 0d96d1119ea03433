import ServiceServer.Lib.Machine
import ServiceServer.Login.Bcrypt

/-!
# The users (`DatabaseManager.cpp`)

The table of users is not part of the program.  It is assumed to have a unique key, the
nickname, and to compare and return byte strings exactly: `insertUser` says so, and all
that follows rests on it.  A statement may fail for reasons of its own: then both functions
answer `false`.

* `registerUser_cases` — a registration is refused, or adds a row for a nickname that had
  none.
* `registered_can_login` — a registered password is accepted for as long as the table
  stands, whatever is registered in between.
-/

namespace ServiceServer

open Lib Bcrypt

/-- The table of users: the stored hash of each nickname. -/
abbrev UsersTable := Bytes → Option Bytes

/-- Sixteen bytes. -/
abbrev SaltBytes := { s : Bytes // s.length = maxSalt }

/-- What a call of the database finds: whether its statement goes through, the bytes
that are drawn for a salt, and what the buffer for a decoded salt held. -/
structure CallContext where
  succeeds : Bool
  seed : SaltBytes
  stale : SaltBytes

namespace DatabaseManager

/-- `INSERT INTO users(nickname, password) VALUES (?,?)`, under the unique key: it is
rejected if there is a row for exactly these bytes. -/
def insertUser (table : UsersTable) (nickname hashedPassword : Bytes) : Option UsersTable :=
  if table nickname = none then
    some fun n => if n = nickname then some hashedPassword else table n
  else none

variable (B : Blowfish)

/-- `RegisterUser`: the answer, and the table it leaves. -/
def registerUser (table : UsersTable) (ctx : CallContext) (nickname password : Bytes) :
    Bool × UsersTable :=
  if nickname = [] ∨ password = [] then (false, table)
  else
    let hashedPassword := generateHash B password 10 ctx.seed ctx.stale
    match if ctx.succeeds then insertUser table nickname hashedPassword else none with
    | some table => (true, table)
    | none => (false, table)

/-- `LoginUser`. -/
def loginUser (table : UsersTable) (ctx : CallContext) (nickname password : Bytes) : Bool :=
  if nickname = [] ∨ password = [] then false
  else if ctx.succeeds then
    match table nickname with
    | none => false
    | some storedHash => validatePassword B password storedHash ctx.stale
  else false

/-- A call of the database. -/
inductive Call where
  | registerUser (ctx : CallContext) (nickname password : Bytes)
  | loginUser (ctx : CallContext) (nickname password : Bytes)

/-- What a call does. -/
def step (table : UsersTable) : Call → Except Empty (UsersTable × Bool)
  | .registerUser ctx nickname password =>
    let r := registerUser B table ctx nickname password
    .ok (r.2, r.1)
  | .loginUser ctx nickname password => .ok (table, loginUser B table ctx nickname password)

/-- The table and the calls, as a machine that answers. -/
def machine : Machine UsersTable Call Bool Empty := ⟨step B⟩

variable {B}

/-- **What a registration does**: it is refused and changes nothing, or it finds no row for
the nickname and leaves one with the hash. -/
theorem registerUser_cases (table : UsersTable) (ctx : CallContext) (nickname password : Bytes) :
    registerUser B table ctx nickname password = (false, table) ∨
      (nickname ≠ [] ∧ password ≠ [] ∧ ctx.succeeds = true ∧ table nickname = none ∧
        registerUser B table ctx nickname password
          = (true, fun n => if n = nickname then some (hashText B 10 ctx.seed password)
              else table n)) := by
  unfold registerUser insertUser
  by_cases hempty : nickname = [] ∨ password = []
  · exact .inl (if_pos hempty)
  · rw [if_neg hempty]
    rw [not_or] at hempty
    by_cases hsucceeds : ctx.succeeds = true
    · by_cases hfree : table nickname = none
      · refine .inr ⟨hempty.1, hempty.2, hsucceeds, hfree, ?_⟩
        simp only [if_pos hsucceeds, if_pos hfree, generateHash_eq ctx.seed.2 ctx.stale.2]
        rfl
      · exact .inl (by simp only [if_pos hsucceeds, if_neg hfree])
    · exact .inl (by simp only [if_neg hsucceeds])

/-- What a registration that was accepted found and stores. -/
theorem registerUser_true {table table' : UsersTable} {ctx : CallContext}
    {nickname password : Bytes}
    (h : registerUser B table ctx nickname password = (true, table')) :
    nickname ≠ [] ∧ password ≠ [] ∧ table nickname = none ∧
      table' nickname = some (hashText B 10 ctx.seed password) := by
  rcases registerUser_cases (B := B) table ctx nickname password with hno | ⟨hn, hp, -, hfree, hyes⟩
  · rw [hno] at h
    cases h
  · rw [hyes, Prod.mk.injEq] at h
    refine ⟨hn, hp, hfree, ?_⟩
    rw [← h.2]
    exact if_pos rfl

/-- **A row stays what it is**: a second registration is rejected. -/
theorem row_step {table table' : UsersTable} {c : Call} {r : Bool} {nickname hash : Bytes}
    (hrow : table nickname = some hash) (h : step B table c = .ok (table', r)) :
    table' nickname = some hash := by
  cases c with
  | loginUser ctx n password =>
    cases h
    exact hrow
  | registerUser ctx n password =>
    simp only [step, Except.ok.injEq, Prod.mk.injEq] at h
    obtain ⟨rfl, -⟩ := h
    rcases registerUser_cases (B := B) table ctx n password with hno | ⟨-, -, -, hfree, hyes⟩
    · rw [hno]
      exact hrow
    · have hother : nickname ≠ n := by
        rintro rfl
        rw [hfree] at hrow
        cases hrow
      rw [hyes]
      exact (if_neg hother).trans hrow

/-- The row an accepted registration left is there after any run. -/
theorem row_run {table₀ table : UsersTable} {h₁ h₂ : List (Transition UsersTable Call Bool)}
    {t : Transition UsersTable Call Bool} {ctx : CallContext} {nickname password : Bytes}
    (hr : (machine B).Run table₀ (h₁ ++ t :: h₂) table)
    (hlabel : t.label = .registerUser ctx nickname password) (hout : t.out = true) :
    nickname ≠ [] ∧ password ≠ [] ∧
      table nickname = some (hashText B 10 ctx.seed password) := by
  obtain ⟨-, hstep, hr₂⟩ := hr.mem_split
  rw [hlabel, hout] at hstep
  simp only [machine, step, Except.ok.injEq, Prod.mk.injEq] at hstep
  obtain ⟨hn, hp, -, hrow⟩ := registerUser_true (Prod.ext hstep.2 hstep.1)
  exact ⟨hn, hp, hr₂.invariant (P := fun table => table nickname = _) hrow
    fun _ _ _ _ => row_step⟩

/-- The row of a password lets that password in. -/
theorem loginUser_of_row {table : UsersTable} {nickname password : Bytes} {seed : SaltBytes}
    (hn : nickname ≠ []) (hp : password ≠ [])
    (hrow : table nickname = some (hashText B 10 seed password)) {later : CallContext}
    (hlater : later.succeeds = true) : loginUser B table later nickname password = true := by
  rw [loginUser, if_neg (by simp [hn, hp]), if_pos hlater, hrow]
  simp only []
  rw [validatePassword_hashText (by decide) (by decide) seed.2 _ _ _ later.stale.2]
  exact decide_eq_true rfl

/-- **A registered user can log in.**  After a registration was accepted, and whatever
was called since, a login with the same password whose statement goes through is
accepted.  The stored hash has sixty bytes, and given back as a salt it is read to the
version, the rounds and the salt bytes it was made with. -/
theorem registered_can_login {table₀ table : UsersTable}
    {h₁ h₂ : List (Transition UsersTable Call Bool)} {t : Transition UsersTable Call Bool}
    {ctx : CallContext} {nickname password : Bytes}
    (hr : (machine B).Run table₀ (h₁ ++ t :: h₂) table)
    (hlabel : t.label = .registerUser ctx nickname password) (hout : t.out = true)
    {later : CallContext} (hlater : later.succeeds = true) :
    loginUser B table later nickname password = true ∧
      ∃ hash, table nickname = some hash ∧
        hash = generateHash B password 10 ctx.seed ctx.stale ∧ hash.length = 60 ∧
        hash.take 4 = ascii ['$', '2', 'b', '$'] ∧
        parseSalt (cString hash) later.stale = some ⟨98, 10, ctx.seed⟩ := by
  obtain ⟨hn, hp, hrow⟩ := row_run hr hlabel hout
  have hhash : generateHash B password 10 ctx.seed ctx.stale = hashText B 10 ctx.seed password :=
    generateHash_eq ctx.seed.2 ctx.stale.2
  refine ⟨loginUser_of_row hn hp hrow hlater, _, hrow, hhash.symm,
    length_hashText (by decide) ctx.seed.2 _, ?_,
    parseSalt_hashText (by decide) (by decide) ctx.seed.2 _ _ later.stale.2⟩
  rfl

/-! ## A registration that holds -/

/-- What Blowfish makes of `secret` under sixteen zero bytes and `2 ^ 10` rounds; the
last byte is not written down. -/
def sampleBlowfish : Blowfish where
  ciphertext _ _ _ :=
    [115, 237, 4, 105, 31, 122, 63, 177, 61, 57, 213, 216, 123, 169, 47, 64, 135, 31, 17, 223,
      233, 10, 2, 0]
  length_ciphertext _ _ _ := rfl

/-- Sixteen zero bytes are drawn, and the statement goes through. -/
def sampleContext : CallContext where
  succeeds := true
  seed := ⟨List.replicate 16 0, rfl⟩
  stale := ⟨List.replicate 16 0, rfl⟩

/-- `ana` registers with the password `secret`. -/
def sampleCall : Call :=
  .registerUser sampleContext (ascii ['a', 'n', 'a']) (ascii ['s', 'e', 'c', 'r', 'e', 't'])

/-- Somebody else tries to have the name. -/
def rejectedCall : Call :=
  .registerUser sampleContext (ascii ['a', 'n', 'a']) (ascii ['m', 'i', 'n', 'e'])

/-- What a call answers, and the table it leaves. -/
def sampleStep (table : UsersTable) (c : Call) : Transition UsersTable Call Bool :=
  match step sampleBlowfish table c with
  | .ok r => ⟨table, c, r.2, r.1⟩

/-- The table after the two calls. -/
def sampleTable : UsersTable :=
  (sampleStep (sampleStep (fun _ => none) sampleCall).post rejectedCall).post

theorem sampleRun : (machine sampleBlowfish).Run (fun _ => none)
    ([] ++ sampleStep (fun _ => none) sampleCall ::
      [sampleStep (sampleStep (fun _ => none) sampleCall).post rejectedCall]) sampleTable :=
  .snoc (.snoc .nil rfl) rfl

theorem registered_can_login_ana :
    loginUser sampleBlowfish sampleTable sampleContext (ascii ['a', 'n', 'a'])
        (ascii ['s', 'e', 'c', 'r', 'e', 't']) = true ∧
      ∃ hash, sampleTable (ascii ['a', 'n', 'a']) = some hash ∧
        hash = generateHash sampleBlowfish (ascii ['s', 'e', 'c', 'r', 'e', 't']) 10
          sampleContext.seed sampleContext.stale ∧ hash.length = 60 ∧
        hash.take 4 = ascii ['$', '2', 'b', '$'] ∧
        parseSalt (cString hash) sampleContext.stale = some ⟨98, 10, sampleContext.seed⟩ :=
  registered_can_login sampleRun rfl rfl rfl

end DatabaseManager

end ServiceServer
