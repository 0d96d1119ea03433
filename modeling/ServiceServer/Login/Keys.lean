import ServiceServer.Lib.Cyclic
import ServiceServer.Login.DatabaseManager

/-!
# The key of a password (`blowfish.cpp`)

The key schedule takes eighteen words from a password, four bytes a word, and reads
its bytes over and over: the first 72 of them with the zero byte that ends a C
string.  Nothing else of a password counts.

* `keyWords_eq_iff` — the words of two keys are the same when 72 bytes read from them
  are.
* `same_key_iff` — a second password opens an account whenever that is so.  Of passwords
  without a zero byte the first 72 bytes count; a zero byte may be taken for the end.
-/

namespace ServiceServer

open Lib

namespace Bcrypt

/-! ## Words and bytes -/

theorem pushByte_toNat {w : UInt32} (h : w.toNat < 2 ^ 24) (b : UInt8) :
    ((w <<< 8) ||| b.toUInt32).toNat = w.toNat * 256 + b.toNat := by
  have hb : b.toNat < 2 ^ 8 := b.toNat_lt
  have h8 : (8 : UInt32).toNat % 32 = 8 := rfl
  rw [UInt32.toNat_or, UInt32.toNat_shiftLeft, UInt8.toNat_toUInt32, h8, Nat.shiftLeft_eq,
    Nat.mod_eq_of_lt (by omega), ← Nat.shiftLeft_eq, ← Nat.shiftLeft_add_eq_or_of_lt hb,
    Nat.shiftLeft_eq]

/-- The word of four bytes. -/
def wordOf (a b c d : UInt8) : UInt32 :=
  (((((((((0 : UInt32) <<< 8) ||| a.toUInt32) <<< 8) ||| b.toUInt32) <<< 8) |||
    c.toUInt32) <<< 8) ||| d.toUInt32)

theorem wordOf_toNat (a b c d : UInt8) :
    (wordOf a b c d).toNat = ((a.toNat * 256 + b.toNat) * 256 + c.toNat) * 256 + d.toNat := by
  have ha := a.toNat_lt
  have hb := b.toNat_lt
  have hc := c.toNat_lt
  have h₁ := pushByte_toNat (w := 0) (by decide) a
  rw [show (0 : UInt32).toNat = 0 from rfl, Nat.zero_mul, Nat.zero_add] at h₁
  have h₂ := pushByte_toNat (by rw [h₁]; omega) b
  rw [h₁] at h₂
  have h₃ := pushByte_toNat (by rw [h₂]; omega) c
  rw [h₂] at h₃
  rw [wordOf, pushByte_toNat (by rw [h₃]; omega) d, h₃]

/-- A word has one set of bytes. -/
theorem wordOf_eq_iff {a b c d a' b' c' d' : UInt8} :
    wordOf a b c d = wordOf a' b' c' d' ↔ a = a' ∧ b = b' ∧ c = c' ∧ d = d' := by
  constructor
  · intro h
    have hnat := congrArg UInt32.toNat h
    rw [wordOf_toNat, wordOf_toNat] at hnat
    have hb := b.toNat_lt
    have hc := c.toNat_lt
    have hd := d.toNat_lt
    have hb' := b'.toNat_lt
    have hc' := c'.toNat_lt
    have hd' := d'.toNat_lt
    simp only [← UInt8.toNat_inj]
    omega
  · rintro ⟨rfl, rfl, rfl, rfl⟩
    rfl

/-! ## Keys -/

variable {key key' : Bytes} {n n' : ℕ}

/-- One byte is read from its place in the key, read over and over. -/
theorem streamByte_eq {w : UInt32} {j k : ℕ} (hj : wrap n j = k % n) :
    streamByte key n (w, j) = ((w <<< 8) ||| (cyclic key 0 n k).toUInt32, k % n + 1) := by
  show ((w <<< 8) ||| (key.getD (wrap n j) 0).toUInt32, wrap n j + 1) = _
  rw [hj]
  rfl

/-- And so is a word. -/
theorem stream2word_eq (hn : 0 < n) {j k : ℕ} (hj : wrap n j = k % n) :
    stream2word key n j =
      (wordOf (cyclic key 0 n k) (cyclic key 0 n (k + 1)) (cyclic key 0 n (k + 2))
        (cyclic key 0 n (k + 3)), (k + 3) % n + 1) := by
  rw [stream2word, streamByte_eq hj, streamByte_eq (wrap_succ hn), streamByte_eq (wrap_succ hn),
    streamByte_eq (wrap_succ hn), wordOf]

/-- Words are the same when the bytes they are read from are. -/
theorem streamWords_eq_iff (hn : 0 < n) (hn' : 0 < n') {count j j' k : ℕ}
    (hj : wrap n j = k % n) (hj' : wrap n' j' = k % n') :
    streamWords key n count j = streamWords key' n' count j' ↔
      ∀ i < 4 * count, cyclic key 0 n (k + i) = cyclic key' 0 n' (k + i) := by
  induction count generalizing j j' k with
  | zero => simp [streamWords]
  | succ count ih =>
    have hrest := ih (k := k + 4) (wrap_succ hn (k := k + 3)) (wrap_succ hn' (k := k + 3))
    simp only [streamWords, stream2word_eq hn hj, stream2word_eq hn' hj', List.cons.injEq,
      wordOf_eq_iff, hrest]
    constructor
    · rintro ⟨⟨h₀, h₁, h₂, h₃⟩, hlater⟩ i hi
      by_cases hfour : i < 4
      · have hcases : i = 0 ∨ i = 1 ∨ i = 2 ∨ i = 3 := by omega
        rcases hcases with rfl | rfl | rfl | rfl
        · exact h₀
        · exact h₁
        · exact h₂
        · exact h₃
      · have h := hlater (i - 4) (by omega)
        rwa [show k + 4 + (i - 4) = k + i by omega] at h
    · intro h
      refine ⟨⟨h 0 (by omega), h 1 (by omega), h 2 (by omega), h 3 (by omega)⟩, ?_⟩
      intro i hi
      have hlater := h (4 + i) (by omega)
      rwa [show k + (4 + i) = k + 4 + i by omega] at hlater

/-- **The words of two keys are the same exactly when 72 bytes read from them are.** -/
theorem keyWords_eq_iff (hn : 0 < n) (hn' : 0 < n') :
    keyWords key n = keyWords key' n' ↔ ∀ k < 72, cyclic key 0 n k = cyclic key' 0 n' k := by
  have h : streamWords key n 18 0 = streamWords key' n' 18 0 ↔
      ∀ i < 4 * 18, cyclic key 0 n (0 + i) = cyclic key' 0 n' (0 + i) :=
    streamWords_eq_iff hn hn' (by simp [wrap]) (by simp [wrap])
  simpa only [keyWords, Nat.zero_add] using h

/-- Byte `k` that the key schedule takes from a password. -/
def passwordByte (password : Bytes) (k : ℕ) : UInt8 :=
  cyclic (password ++ [0]) 0 (min password.length 72 + 1) k

theorem keyLength_eq (length : ℕ) : keyLength 98 length = min length 72 + 1 := by
  rw [keyLength, if_neg (by decide)]
  by_cases hlong : 72 < length
  · rw [if_pos hlong]
    omega
  · rw [if_neg hlong]
    omega

theorem passwordWords_eq_iff {p q : Bytes} :
    passwordWords 98 q = passwordWords 98 p ↔ ∀ k < 72, passwordByte q k = passwordByte p k := by
  rw [passwordWords, passwordWords, keyLength_eq, keyLength_eq,
    keyWords_eq_iff (Nat.succ_pos _) (Nat.succ_pos _)]
  rfl

/-! ## What is hashed -/

/-- What `node_bcrypt` hands to the key schedule under a salt; `none` where it gives
up on the salt. -/
def keyMaterial (password salt stale : Bytes) : Option (List UInt32) :=
  (parseSalt salt stale).map fun s => passwordWords s.minor password

/-- A password counts for its key material only. -/
theorem nodeBcrypt_congr (B : Blowfish) {p q salt stale : Bytes}
    (h : keyMaterial q salt stale = keyMaterial p salt stale) :
    nodeBcrypt B q salt stale = nodeBcrypt B p salt stale := by
  unfold keyMaterial at h
  unfold nodeBcrypt
  cases hparse : parseSalt salt stale with
  | none => rfl
  | some s =>
    simp only [hparse, Option.map_some, Option.some.injEq] at h
    simp only [h]

theorem keyMaterial_hashText {B : Blowfish} {logr : ℕ} (hmin : 4 ≤ logr) (hmax : logr ≤ 31)
    {csalt : Bytes} (hcsalt : csalt.length = maxSalt) (p q : Bytes) {stale : Bytes}
    (hstale : stale.length = maxSalt) :
    keyMaterial q (cString (hashText B logr csalt p)) stale = some (passwordWords 98 q) := by
  rw [keyMaterial, parseSalt_hashText hmin hmax hcsalt p stale hstale]
  rfl

end Bcrypt

namespace DatabaseManager

open Bcrypt

variable {B : Blowfish}

/-- What a login tells, it tells of the key material. -/
theorem loginUser_congr {table : UsersTable} {ctx : CallContext} {nickname p q hash : Bytes}
    (hq : q ≠ []) (hrow : table nickname = some hash)
    (hkey : keyMaterial q (cString hash) ctx.stale = keyMaterial p (cString hash) ctx.stale)
    (hlogin : loginUser B table ctx nickname p = true) :
    loginUser B table ctx nickname q = true := by
  unfold loginUser at hlogin ⊢
  by_cases hempty : nickname = [] ∨ p = []
  · rw [if_pos hempty] at hlogin
    cases hlogin
  · rw [if_neg hempty] at hlogin
    rw [not_or] at hempty
    rw [if_neg (by simp [hempty.1, hq])]
    simp only [hrow] at hlogin ⊢
    simp only [validatePassword, nodeBcrypt_congr B hkey]
    exact hlogin

/-- **Which passwords open an account.**  A password that was registered and a second
one give the same key material exactly when the key schedule takes the same 72 bytes
from both: where neither holds a zero byte, when their first 72 bytes are the same.
The second one is then accepted, whatever Blowfish is. -/
theorem same_key_iff {table₀ table : UsersTable}
    {h₁ h₂ : List (Transition UsersTable Call Bool)} {t : Transition UsersTable Call Bool}
    {ctx : CallContext} {nickname password : Bytes}
    (hr : (machine B).Run table₀ (h₁ ++ t :: h₂) table)
    (hlabel : t.label = .registerUser ctx nickname password) (hout : t.out = true)
    {q : Bytes} (hq : q ≠ []) (later : CallContext) :
    ∃ hash, table nickname = some hash ∧
      (keyMaterial q (cString hash) later.stale = keyMaterial password (cString hash) later.stale ↔
        ∀ k < 72, passwordByte q k = passwordByte password k) ∧
      (0 ∉ q → 0 ∉ password →
        (keyMaterial q (cString hash) later.stale
            = keyMaterial password (cString hash) later.stale ↔
          q.take 72 = password.take 72)) ∧
      (keyMaterial q (cString hash) later.stale = keyMaterial password (cString hash) later.stale →
        later.succeeds = true → loginUser B table later nickname q = true) := by
  obtain ⟨hn, hp, hrow⟩ := row_run hr hlabel hout
  have hkey : ∀ pass, keyMaterial pass (cString (hashText B 10 ctx.seed password)) later.stale
      = some (passwordWords 98 pass) := fun pass =>
    keyMaterial_hashText (by decide) (by decide) ctx.seed.2 password pass later.stale.2
  have hbytes := passwordWords_eq_iff (p := password) (q := q)
  refine ⟨_, hrow, ?_, ?_, ?_⟩
  · rw [hkey, hkey, Option.some.injEq, hbytes]
  · intro hzero hzero'
    rw [hkey, hkey, Option.some.injEq, hbytes]
    exact cyclic_eq_iff_take_eq hzero hzero'
  · intro hsame hlater
    exact loginUser_congr hq hrow hsame (loginUser_of_row hn hp hrow hlater)

theorem same_key_iff_mine :
    ∃ hash, sampleTable (ascii ['a', 'n', 'a']) = some hash ∧
      (keyMaterial (ascii ['m', 'i', 'n', 'e']) (cString hash) sampleContext.stale
          = keyMaterial (ascii ['s', 'e', 'c', 'r', 'e', 't']) (cString hash) sampleContext.stale ↔
        ∀ k < 72, passwordByte (ascii ['m', 'i', 'n', 'e']) k
          = passwordByte (ascii ['s', 'e', 'c', 'r', 'e', 't']) k) ∧
      (0 ∉ ascii ['m', 'i', 'n', 'e'] → 0 ∉ ascii ['s', 'e', 'c', 'r', 'e', 't'] →
        (keyMaterial (ascii ['m', 'i', 'n', 'e']) (cString hash) sampleContext.stale
            = keyMaterial (ascii ['s', 'e', 'c', 'r', 'e', 't']) (cString hash)
              sampleContext.stale ↔
          (ascii ['m', 'i', 'n', 'e']).take 72 = (ascii ['s', 'e', 'c', 'r', 'e', 't']).take 72)) ∧
      (keyMaterial (ascii ['m', 'i', 'n', 'e']) (cString hash) sampleContext.stale
          = keyMaterial (ascii ['s', 'e', 'c', 'r', 'e', 't']) (cString hash) sampleContext.stale →
        sampleContext.succeeds = true →
        loginUser sampleBlowfish sampleTable sampleContext (ascii ['a', 'n', 'a'])
          (ascii ['m', 'i', 'n', 'e']) = true) :=
  same_key_iff sampleRun rfl rfl (by decide) sampleContext

/-- `ana` registers with this password, in an empty table. -/
def accountOf (password : Bytes) : Transition UsersTable Call Bool :=
  sampleStep (fun _ => none) (.registerUser sampleContext (ascii ['a', 'n', 'a']) password)

/-- With `password` registered, another password gives the same key material. -/
def Opens (password q : Bytes) : Prop :=
  q ≠ password ∧ q ≠ [] ∧ (accountOf password).out = true ∧
    (machine sampleBlowfish).Run (fun _ => none) [accountOf password] (accountOf password).post ∧
    ∃ hash, (accountOf password).post (ascii ['a', 'n', 'a']) = some hash ∧
      keyMaterial q (cString hash) sampleContext.stale
        = keyMaterial password (cString hash) sampleContext.stale

/-- The byte after the 72nd does not count, and neither does one more copy of a password
behind a zero byte. -/
theorem second_password_opens :
    Opens (List.replicate 72 97) (List.replicate 73 97) ∧ Opens [97] [97, 0, 97] := by
  have hopens : ∀ password q : Bytes, password ≠ [] → q ≠ password → q ≠ [] →
      passwordWords 98 q = passwordWords 98 password → Opens password q := by
    intro password q hp hne hq hwords
    have hstep : registerUser sampleBlowfish (fun _ => none) sampleContext (ascii ['a', 'n', 'a'])
        password = (true, (accountOf password).post) := by
      unfold accountOf sampleStep step registerUser insertUser
      simp [hp, ascii, sampleContext]
    have hout : (accountOf password).out = true := congrArg Prod.fst hstep
    refine ⟨hne, hq, hout, .snoc .nil rfl, _, (registerUser_true hstep).2.2.2, ?_⟩
    rw [keyMaterial_hashText (by decide) (by decide) sampleContext.seed.2 _ _ sampleContext.stale.2,
      keyMaterial_hashText (by decide) (by decide) sampleContext.seed.2 _ _ sampleContext.stale.2,
      hwords]
  constructor
  · exact hopens _ _ (by decide) (by decide) (by decide) (by decide +kernel)
  · exact hopens _ _ (by decide) (by decide) (by decide) (by decide +kernel)

end DatabaseManager

end ServiceServer
