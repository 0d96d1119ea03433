import ServiceServer.Login.KeySchedule

/-!
# Hashing, down to the cipher (`bcrypt.cpp`)

`node_bcrypt` keys a context with the salt and the password, over and over, and
enciphers a fixed text with it.  `blowfish` is what all of this makes of a salt, a
number of rounds and the words of a key.

* `nodeBcryptBytes_eq` — the function of the sources, that hands bytes to the key
  schedule, is the one that was left open, with `blowfish` for the open part.
* `getRounds_of_parseSalt` — the second reader of hashes agrees with the first one.
* `validatePassword_iff` — which strings are accepted as the hash of a password.
* `passwordWords_repeated`, `passwordWords_wraparound` — under the versions before `b`, other
  passwords count the same.
-/

namespace ServiceServer

namespace Bcrypt

open Lib

/-! ## The computation -/

/-- The fixed text: `"OrpheanBeholderScryDoubt"`. -/
def plaintext : Bytes :=
  ascii ['O', 'r', 'p', 'h', 'e', 'a', 'n', 'B', 'e', 'h', 'o', 'l', 'd', 'e', 'r', 'S', 'c', 'r',
    'y', 'D', 'o', 'u', 'b', 't']

/-- The context `node_bcrypt` sets up. -/
def setUp (csalt key : Bytes) (keybytes rounds : Nat) : BlfCtx :=
  (fun state => (state.expand0state key keybytes).expand0state csalt maxSalt)^[rounds]
    (BlfCtx.initstate.expandstate csalt maxSalt key keybytes)

/-- `cdata`, before it is encrypted. -/
def cdata : List UInt32 := streamWords plaintext plaintext.length 6 0

/-- How a word is written back to `ciphertext`: the lowest byte first, from behind. -/
def serializeWord (w : UInt32) : Bytes :=
  let byte3 := (w &&& 0xff).toUInt8
  let w := w >>> 8
  let byte2 := (w &&& 0xff).toUInt8
  let w := w >>> 8
  let byte1 := (w &&& 0xff).toUInt8
  let w := w >>> 8
  let byte0 := (w &&& 0xff).toUInt8
  [byte0, byte1, byte2, byte3]

/-- What is left in `ciphertext`. -/
def encryptText (state : BlfCtx) : Bytes :=
  ((fun data => state.blfEnc data 3)^[64] cdata).flatMap serializeWord

/-- `node_bcrypt`, down to the cipher. -/
def nodeBcryptBytes (key salt stale : Bytes) : Bytes :=
  match parseSalt salt stale with
  | none => ascii [':']
  | some s =>
    let keybytes := keyLength s.minor key.length
    let state := setUp s.csalt (key ++ [0]) keybytes (2 ^ s.logr)
    ascii ['$', '2'] ++ (if s.minor ≠ 0 then [s.minor] else []) ++ ascii ['$'] ++
      printRounds (s.logr % 32) ++ encodeBase64 (s.csalt.take maxSalt) ++
      encodeBase64 ((encryptText state).take 23)

/-- `bcrypt_get_rounds`: what is read of a string that ends in a zero byte. -/
def getRounds (hash : Bytes) : UInt32 :=
  let byte (i : Nat) := hash.getD i 0
  if byte 0 ≠ 36 then 0
  else if byte 1 = 0 then 0
  else
    let rest := if byte 2 ≠ 0 ∧ byte 2 ≠ 36 then hash.drop 3 else hash.drop 2
    if rest.getD 0 0 ≠ 36 then 0 else UInt32.ofInt (atoi (rest.drop 1))

/-! ## The cipher in the place that was left open -/

/-- The context, given the words of the key. -/
def setUpWords (csalt : Bytes) (key : List UInt32) (rounds : Nat) : BlfCtx :=
  (fun state => (state.expand0Words key).expand0state csalt maxSalt)^[rounds]
    (BlfCtx.initstate.expandWords csalt maxSalt key)

theorem setUp_eq (csalt key : Bytes) (keybytes rounds : Nat) :
    setUp csalt key keybytes rounds = setUpWords csalt (keyWords key keybytes) rounds := by
  rw [setUp, BlfCtx.expandstate_eq, setUpWords]
  simp only [BlfCtx.expand0state_eq _ key keybytes]

@[simp] theorem length_serializeWord (w : UInt32) : (serializeWord w).length = 4 := rfl

/-- Encrypting over and over keeps to six words. -/
theorem length_iterate_blfEnc (state : BlfCtx) (k : Nat) :
    ((fun data => state.blfEnc data 3)^[k] cdata).length = 6 := by
  induction k with
  | zero => rfl
  | succ k ih =>
    rw [Function.iterate_succ_apply', BlfCtx.blfEnc, BlfCtx.words.length_eachBlock _ (by rw [ih]; rfl),
      ih]

theorem length_encryptText (state : BlfCtx) : (encryptText state).length = 24 := by
  have hconst : ∀ ws : List UInt32, (ws.flatMap serializeWord).length = 4 * ws.length := by
    intro ws
    induction ws with
    | nil => rfl
    | cons w ws ih =>
      rw [List.flatMap_cons, List.length_append, ih, length_serializeWord, List.length_cons]
      omega
  rw [encryptText, hconst, length_iterate_blfEnc]

/-- What `node_bcrypt` makes of a salt, a number of rounds and the words of a key. -/
def blowfish : Blowfish where
  ciphertext csalt rounds key := encryptText (setUpWords csalt key rounds)
  length_ciphertext _ _ _ := length_encryptText _

/-- **Down to the cipher, `node_bcrypt` is what it was taken for**: a function of the
eighteen words of the password, with `blowfish` for what was left open. -/
theorem nodeBcryptBytes_eq (key salt stale : Bytes) :
    nodeBcryptBytes key salt stale = nodeBcrypt blowfish key salt stale := by
  unfold nodeBcryptBytes nodeBcrypt
  cases parseSalt salt stale with
  | none => rfl
  | some s =>
    simp only [setUp_eq]
    rfl

/-! ## Salts that are accepted -/

/-- The version of a salt, or none, and its rest from behind the version. -/
theorem readMinor_cases {salt rest : Bytes} {minor : UInt8}
    (h : readMinor salt = some (minor, rest)) :
    (minor = 0 ∧ salt.getD 1 0 = 36 ∧ rest = salt) ∨
      ((minor = 97 ∨ minor = 98) ∧ salt.getD 1 0 = minor ∧ rest = salt.drop 1) := by
  unfold readMinor at h
  by_cases hdollar : salt.getD 1 0 = 36
  · rw [if_neg (not_not_intro hdollar)] at h
    obtain ⟨rfl, rfl⟩ := Prod.mk.inj (Option.some.inj h)
    exact .inl ⟨rfl, hdollar, rfl⟩
  · rw [if_pos hdollar] at h
    by_cases hversion : salt.getD 1 0 = 97 ∨ salt.getD 1 0 = 98
    · rw [if_pos hversion] at h
      obtain ⟨rfl, rfl⟩ := Prod.mk.inj (Option.some.inj h)
      exact .inr ⟨hversion, rfl, rfl⟩
    · rw [if_neg hversion] at h
      cases h

/-- What `node_bcrypt` has checked when it goes on. -/
theorem parseSalt_some {salt stale : Bytes} {s : ParsedSalt} (h : parseSalt salt stale = some s) :
    ∃ rest, readMinor (salt.drop 1) = some (s.minor, rest) ∧ (rest.drop 2).getD 2 0 = 36 ∧
      atoi (rest.drop 2) = s.logr ∧ 4 ≤ s.logr ∧ s.logr ≤ 31 ∧
      s.csalt = decodeBase64 maxSalt ((rest.drop 2).drop 3) ++
        stale.drop (decodeBase64 maxSalt ((rest.drop 2).drop 3)).length := by
  unfold parseSalt at h
  simp only [] at h
  split_ifs at h with hversion
  cases hminor : readMinor (salt.drop 1) with
  | none =>
    rw [hminor] at h
    cases h
  | some r =>
    obtain ⟨minor, rest⟩ := r
    rw [hminor] at h
    simp only [] at h
    split_ifs at h with hsync hrange hfew hshort
    obtain rfl := Option.some.inj h
    rw [not_or] at hrange
    have hlogr : ((atoi (rest.drop 2)).toNat : Int) = atoi (rest.drop 2) :=
      Int.toNat_of_nonneg (by omega)
    have hmin : 4 ≤ (atoi (rest.drop 2)).toNat := by
      by_contra hless
      have hpow : 2 ^ (atoi (rest.drop 2)).toNat ≤ 2 ^ 3 :=
        Nat.pow_le_pow_right (by decide) (by omega)
      omega
    have hmax : (atoi (rest.drop 2)).toNat ≤ 31 := by omega
    exact ⟨rest, rfl, not_not.1 hsync, hlogr.symm, hmin, hmax, rfl⟩

/-- What is decoded is no longer than the buffer. -/
theorem length_decodeBase64_le (len : Nat) (data : Bytes) : (decodeBase64 len data).length ≤ len := by
  induction len using Nat.strong_induction_on generalizing data with
  | _ len ih =>
    match len with
    | 0 => exact Nat.le_refl _
    | 1 =>
      rw [decodeBase64]
      split_ifs
      · exact Nat.zero_le _
      · exact Nat.le_refl _
    | 2 =>
      rw [decodeBase64]
      split_ifs
      · exact Nat.zero_le _
      · simp only []
        split_ifs
        · exact Nat.le_succ _
        · exact Nat.le_refl _
    | len + 3 =>
      have hrest := ih len (by omega) (data.drop 4)
      rw [decodeBase64]
      split_ifs
      · exact Nat.zero_le _
      · simp only []
        split_ifs <;> simp only [List.length_cons, List.length_nil] <;> omega

theorem length_csalt {salt stale : Bytes} {s : ParsedSalt} (hstale : stale.length = maxSalt)
    (h : parseSalt salt stale = some s) : s.csalt.length = maxSalt := by
  obtain ⟨rest, -, -, -, -, -, hcsalt⟩ := parseSalt_some h
  have hle := length_decodeBase64_le maxSalt ((rest.drop 2).drop 3)
  rw [hcsalt, List.length_append, List.length_drop, hstale]
  omega

/-- The versions that are accepted: none, `a` and `b`. -/
def IsVersion (minor : UInt8) : Prop := minor = 0 ∨ minor = 97 ∨ minor = 98

theorem isVersion_of_parseSalt {salt stale : Bytes} {s : ParsedSalt}
    (h : parseSalt salt stale = some s) : IsVersion s.minor := by
  obtain ⟨rest, hminor, -⟩ := parseSalt_some h
  rcases readMinor_cases hminor with ⟨h₀, -⟩ | ⟨h₁, -⟩
  · exact .inl h₀
  · exact .inr h₁

/-- What stands between the version and the salt bytes is found where it is looked for. -/
theorem parseSalt_of_readMinor {salt rest stale csalt more : Bytes} {minor : UInt8} {logr : Nat}
    (hversion : (salt.drop 1).getD 0 0 = 50)
    (hminor : readMinor (salt.drop 1) = some (minor, rest))
    (hrest : rest.drop 2 = printRounds logr ++ (encodeBase64 csalt ++ more))
    (hmin : 4 ≤ logr) (hmax : logr ≤ 31) (hcsalt : csalt.length = maxSalt)
    (hstale : stale.length = maxSalt) : parseSalt salt stale = some ⟨minor, logr, csalt⟩ := by
  have hatoi := atoi_printRounds (show logr < 32 by omega) (encodeBase64 csalt ++ more)
  have hdigits := printRounds_eq (show logr < 32 by omega)
  have hsync : (printRounds logr ++ (encodeBase64 csalt ++ more)).getD 2 0 = 36 := by
    rw [hdigits]
    rfl
  have hsalt : (printRounds logr ++ (encodeBase64 csalt ++ more)).drop 3
      = encodeBase64 csalt ++ more := by
    rw [hdigits]
    rfl
  have hrounds : ¬ 2 ^ logr < 16 := by
    have h : 2 ^ 4 ≤ 2 ^ logr := Nat.pow_le_pow_right (by decide) hmin
    omega
  have hlong : ¬ (encodeBase64 csalt ++ more).length * 3 / 4 < maxSalt := by
    rw [List.length_append, length_encodeBase64, hcsalt, maxSalt]
    omega
  have hdecode : decodeBase64 maxSalt (encodeBase64 csalt ++ more) = csalt := by
    rw [← hcsalt]
    exact decodeBase64_encodeBase64 csalt more
  have hnew : ¬ ((50 : UInt8) < 50 ∧ (50 : UInt8) < 128) := by decide
  unfold parseSalt
  simp only [hversion, hnew, if_false, hminor, hrest, hsync, ne_eq, not_true_eq_false, hatoi, hsalt,
    hlong, hdecode]
  rw [if_neg (by omega), Int.toNat_natCast, if_neg hrounds, hcsalt, ← hstale, List.drop_length,
    List.append_nil]

/-! ## Hashes that are accepted -/

section Accepted

variable (B : Blowfish)

/-- The text `node_bcrypt` writes. -/
def versionText (minor : UInt8) (logr : Nat) (csalt password : Bytes) : Bytes :=
  ascii ['$', '2'] ++ (if minor ≠ 0 then [minor] else []) ++ ascii ['$'] ++ printRounds logr ++
    encodeBase64 csalt ++
    encodeBase64 ((B.ciphertext csalt (2 ^ logr) (passwordWords minor password)).take 23)

/-- What is left where a salt is rejected: the error mark, and zero bytes. -/
def errorHash : Bytes := 58 :: List.replicate 59 0

variable {B}

theorem nodeBcrypt_of_none {password salt stale : Bytes} (h : parseSalt salt stale = none) :
    nodeBcrypt B password salt stale = [58] := by
  rw [nodeBcrypt, h]
  rfl

theorem nodeBcrypt_of_parseSalt {password salt stale : Bytes} (hstale : stale.length = maxSalt)
    {s : ParsedSalt} (h : parseSalt salt stale = some s) :
    nodeBcrypt B password salt stale = versionText B s.minor s.logr s.csalt password := by
  have hcsalt := length_csalt hstale h
  obtain ⟨-, -, -, -, -, hmax, -⟩ := parseSalt_some h
  have hall : s.csalt.take maxSalt = s.csalt := by rw [← hcsalt, List.take_length]
  rw [nodeBcrypt, h]
  simp only [Nat.mod_eq_of_lt (show s.logr < 32 by omega), hall, versionText]

/-- The text, byte by byte up to the rounds. -/
theorem versionText_eq (minor : UInt8) (logr : Nat) (csalt password : Bytes) :
    versionText B minor logr csalt password =
      36 :: 50 :: ((if minor ≠ 0 then [minor] else []) ++ 36 :: (printRounds logr ++
        (encodeBase64 csalt ++
          encodeBase64 ((B.ciphertext csalt (2 ^ logr) (passwordWords minor password)).take 23)))) := by
  have hopen : ascii ['$', '2'] = [36, 50] := by decide
  have hclose : ascii ['$'] = [36] := by decide
  simp only [versionText, hopen, hclose, List.append_assoc, List.cons_append, List.nil_append]

/-- **The text is read as the salt it was made from.** -/
theorem parseSalt_versionText {minor : UInt8} (hminor : IsVersion minor) {logr : Nat}
    (hmin : 4 ≤ logr) (hmax : logr ≤ 31) {csalt : Bytes} (hcsalt : csalt.length = maxSalt)
    (password : Bytes) {stale : Bytes} (hstale : stale.length = maxSalt) :
    parseSalt (versionText B minor logr csalt password) stale = some ⟨minor, logr, csalt⟩ := by
  rw [versionText_eq]
  generalize encodeBase64 ((B.ciphertext csalt (2 ^ logr) (passwordWords minor password)).take 23)
    = more
  by_cases hnone : minor = 0
  · subst hnone
    have hread : readMinor (50 :: 36 :: (printRounds logr ++ (encodeBase64 csalt ++ more)))
        = some (0, 50 :: 36 :: (printRounds logr ++ (encodeBase64 csalt ++ more))) := rfl
    exact parseSalt_of_readMinor rfl hread rfl hmin hmax hcsalt hstale
  · have hnamed : minor = 97 ∨ minor = 98 := hminor.resolve_left hnone
    have hne : minor ≠ 36 := by
      rintro rfl
      revert hnamed
      decide
    rw [if_pos hnone]
    have hread : readMinor (50 :: minor :: 36 :: (printRounds logr ++ (encodeBase64 csalt ++ more)))
        = some (minor, minor :: 36 :: (printRounds logr ++ (encodeBase64 csalt ++ more))) := by
      simp [readMinor, hne, hnamed]
    exact parseSalt_of_readMinor rfl hread rfl hmin hmax hcsalt hstale

theorem ne_zero_of_mem_printRounds {logr : Nat} (hmax : logr ≤ 31) {b : UInt8}
    (hb : b ∈ printRounds logr) : b ≠ 0 := by
  have hdigit : ∀ k < 10, 48 + UInt8.ofNat k ≠ 0 := by decide +kernel
  rw [printRounds_eq (show logr < 32 by omega)] at hb
  simp only [List.mem_cons, List.not_mem_nil, or_false] at hb
  rcases hb with rfl | rfl | rfl
  · exact hdigit _ (by omega)
  · exact hdigit _ (by omega)
  · decide

/-- The text holds no zero byte. -/
theorem ne_zero_of_mem_versionText {minor : UInt8} {logr : Nat} (hmax : logr ≤ 31)
    {csalt password : Bytes} {b : UInt8} (hb : b ∈ versionText B minor logr csalt password) :
    b ≠ 0 := by
  rw [versionText_eq] at hb
  simp only [List.mem_cons, List.mem_append] at hb
  rcases hb with rfl | rfl | h | rfl | h | h | h
  · decide
  · decide
  · by_cases hnone : minor = 0
    · rw [if_neg (not_not_intro hnone)] at h
      cases h
    · rw [if_pos hnone, List.mem_singleton] at h
      rwa [h]
  · decide
  · exact ne_zero_of_mem_printRounds hmax h
  · exact ne_zero_of_mem_encodeBase64 h
  · exact ne_zero_of_mem_encodeBase64 h

theorem length_versionText {minor : UInt8} {logr : Nat} (hmax : logr ≤ 31) {csalt : Bytes}
    (hcsalt : csalt.length = maxSalt) (password : Bytes) :
    (versionText B minor logr csalt password).length ≤ 60 := by
  rw [versionText_eq, printRounds_eq (show logr < 32 by omega)]
  simp only [List.length_cons, List.length_append, List.length_nil, length_encodeBase64, hcsalt,
    maxSalt, List.length_take, B.length_ciphertext]
  split_ifs <;> simp

/-- What is left in a string of sixty bytes is read back as a C string. -/
theorem cString_toHash {written : Bytes} (hlen : written.length ≤ 60) (hne : ∀ b ∈ written, b ≠ 0) :
    cString (toHash written) = written := by
  have hshort : toHash written = written ++ List.replicate (60 - written.length) 0 := by
    rw [toHash, List.take_append, List.take_of_length_le hlen, List.take_replicate]
    congr 2
    omega
  have hzeros : (List.replicate (60 - written.length) (0 : UInt8)).takeWhile (· ≠ 0) = [] := by
    cases 60 - written.length with
    | zero => rfl
    | succ k => rfl
  rw [cString, hshort, List.takeWhile_append_of_pos (fun b hb => decide_eq_true (hne b hb)), hzeros,
    List.append_nil]

/-- **Which strings are accepted as the hash of a password**: the texts that hashing it
leaves, under some version, number of rounds and salt bytes, and the error mark. -/
theorem validatePassword_iff {password hash stale : Bytes} (hstale : stale.length = maxSalt) :
    validatePassword B password hash stale = true ↔
      hash = errorHash ∨
        ∃ minor logr csalt, IsVersion minor ∧ 4 ≤ logr ∧ logr ≤ 31 ∧ csalt.length = maxSalt ∧
          hash = toHash (versionText B minor logr csalt password) := by
  rw [validatePassword, decide_eq_true_eq]
  constructor
  · intro hgot
    cases hparse : parseSalt (cString hash) stale with
    | none =>
      rw [nodeBcrypt_of_none hparse] at hgot
      exact .inl (hgot.trans (by decide))
    | some s =>
      obtain ⟨-, -, -, -, hmin, hmax, -⟩ := parseSalt_some hparse
      rw [nodeBcrypt_of_parseSalt hstale hparse] at hgot
      exact .inr ⟨s.minor, s.logr, s.csalt, isVersion_of_parseSalt hparse, hmin, hmax,
        length_csalt hstale hparse, hgot⟩
  · rintro (rfl | ⟨minor, logr, csalt, hminor, hmin, hmax, hcsalt, rfl⟩)
    · have hmark : cString errorHash = [58] := by decide
      have hparse : parseSalt [58] stale = none := rfl
      rw [hmark, nodeBcrypt_of_none hparse]
      decide
    · have hparse := parseSalt_versionText (B := B) hminor hmin hmax hcsalt password hstale
      rw [cString_toHash (length_versionText hmax hcsalt password)
        fun b hb => ne_zero_of_mem_versionText hmax hb, nodeBcrypt_of_parseSalt hstale hparse]

/-- The error mark, as a hash. -/
theorem validatePassword_iff_mark :
    validatePassword blowfish [97] errorHash (List.replicate 16 0) = true :=
  (validatePassword_iff (by decide)).2 (.inl rfl)

end Accepted

/-! ## The rounds of a hash -/

theorem getD_drop (salt : Bytes) (k i : Nat) : (salt.drop k).getD i 0 = salt.getD (k + i) 0 := by
  rw [List.getD_eq_getElem?_getD, List.getElem?_drop, List.getD_eq_getElem?_getD]

/-- **The two readers of a hash agree.**  Of a text that `node_bcrypt` accepts,
`bcrypt_get_rounds` reads the number of rounds that are run, as a binary logarithm; and
`0` where the dollar signs that `node_bcrypt` skips unseen are something else. -/
theorem getRounds_of_parseSalt {salt stale : Bytes} {s : ParsedSalt}
    (h : parseSalt salt stale = some s) :
    getRounds salt =
      if salt.getD 0 0 = 36 ∧ salt.getD 1 0 ≠ 0 ∧ (s.minor ≠ 0 → salt.getD 3 0 = 36) then
        UInt32.ofNat s.logr
      else 0 := by
  obtain ⟨rest, hminor, -, hatoi, -, hmax, -⟩ := parseSalt_some h
  have hlogr : UInt32.ofInt (s.logr : Int) = UInt32.ofNat s.logr := by
    have hall : ∀ k < 32, UInt32.ofInt ((k : Nat) : Int) = UInt32.ofNat k := by decide
    exact hall s.logr (by omega)
  unfold getRounds
  simp only []
  by_cases hfirst : salt.getD 0 0 = 36
  · by_cases hversion : salt.getD 1 0 = 0
    · simp only [hfirst, hversion, ne_eq, not_true_eq_false, if_false, if_true, false_and, and_false]
    · simp only [hfirst, hversion, ne_eq, not_true_eq_false, if_false, not_false_eq_true, true_and]
      rcases readMinor_cases hminor with ⟨hnone, hdollar, rfl⟩ | ⟨hnamed, hnext, rfl⟩
      · rw [getD_drop] at hdollar
        rw [List.drop_drop] at hatoi
        have hskip : ¬ (¬ salt.getD 2 0 = 0 ∧ ¬ salt.getD 2 0 = 36) := fun h => h.2 hdollar
        rw [if_neg hskip, getD_drop, if_neg (not_not_intro hdollar), List.drop_drop, hatoi, hlogr,
          if_pos fun h => absurd hnone h]
      · rw [getD_drop] at hnext
        rw [List.drop_drop, List.drop_drop] at hatoi
        have hne : s.minor ≠ 0 ∧ s.minor ≠ 36 := by
          constructor
          · intro h
            rw [h] at hnamed
            revert hnamed
            decide
          · intro h
            rw [h] at hnamed
            revert hnamed
            decide
        have hskip : ¬ salt.getD 2 0 = 0 ∧ ¬ salt.getD 2 0 = 36 := by
          rw [hnext]
          exact hne
        rw [if_pos hskip, getD_drop, List.drop_drop, hatoi, hlogr]
        by_cases hdollar : salt.getD 3 0 = 36
        · rw [if_neg (not_not_intro hdollar), if_pos fun _ => hdollar]
        · rw [if_pos hdollar, if_neg fun h => hdollar (h hne.1)]
  · simp only [hfirst, ne_eq, not_false_eq_true, if_true, false_and, if_false]

/-- A text of version `b`, with 32 rounds and sixteen zero bytes. -/
theorem getRounds_of_parseSalt_five :
    getRounds (saltText 98 5 (List.replicate 16 0)) =
      if (saltText 98 5 (List.replicate 16 0)).getD 0 0 = 36 ∧
          (saltText 98 5 (List.replicate 16 0)).getD 1 0 ≠ 0 ∧
          ((98 : UInt8) ≠ 0 → (saltText 98 5 (List.replicate 16 0)).getD 3 0 = 36) then
        UInt32.ofNat 5
      else 0 :=
  have hparse : parseSalt (saltText 98 5 (List.replicate 16 0)) (List.replicate 16 0)
      = some ⟨98, 5, List.replicate 16 0⟩ := by decide +kernel
  getRounds_of_parseSalt hparse

/-! ## Passwords under the versions -/

theorem keyWords_append {key : Bytes} (hkey : key ≠ []) (rest : Bytes) :
    keyWords (key ++ rest) key.length = keyWords key key.length := by
  have hlen := List.length_pos_iff.2 hkey
  rw [keyWords_eq_iff hlen hlen]
  intro k _
  exact List.getD_append _ _ _ _ (Nat.mod_lt k hlen)

/-- Two keys differ where one shows its end and the other goes on. -/
theorem keyWords_ne {key key' : Bytes} {n n' k : Nat} (hk : k < 72) (hn : k < n) (hn' : k < n')
    (h : key.getD k 0 ≠ key'.getD k 0) : keyWords key n ≠ keyWords key' n' := by
  intro heq
  have hall := (keyWords_eq_iff (by omega) (by omega)).1 heq k hk
  rw [cyclic, cyclic, Nat.mod_eq_of_lt hn, Nat.mod_eq_of_lt hn'] at hall
  exact h hall

/-- A password written down several times goes on where the password ends. -/
theorem getD_repeated {p : Bytes} (hp : p ≠ []) (hzero : 0 ∉ p) {m : Nat} (hm : 2 ≤ m) :
    ((List.replicate m p).flatten ++ [0]).getD p.length 0 ≠ (p ++ [0]).getD p.length 0 := by
  have hpos := List.length_pos_iff.2 hp
  have hlonger : p.length < m * p.length :=
    calc p.length = 1 * p.length := (Nat.one_mul _).symm
      _ < m * p.length := Nat.mul_lt_mul_of_pos_right (by omega) hpos
  have hlen : (List.replicate m p).flatten.length = m * p.length := by
    simp
  rw [List.getD_append _ _ _ _ (by omega), getD_flatten_replicate 0 hlonger, Nat.mod_self,
    List.getD_append_right _ _ _ _ (Nat.le_refl _), Nat.sub_self, List.getD_eq_getElem _ _ hpos]
  intro h
  have hmem : p[0] ∈ p := List.getElem_mem hpos
  rw [h] at hmem
  exact hzero hmem

/-- **`ab` and `abab`.**  Without a version letter a password and the same password
written down several times are one key, as long as it has fewer than 255 bytes in all, so
that its length fits the source's `u_int8_t`.  The versions `a` and `b` tell them apart. -/
theorem passwordWords_repeated {p : Bytes} (hp : p ≠ []) (hzero : 0 ∉ p) (hshort : p.length < 72)
    {m : Nat} (hm : 2 ≤ m) (hlen : m * p.length < 255) :
    passwordWords 0 (List.replicate m p).flatten = passwordWords 0 p ∧
      passwordWords 97 (List.replicate m p).flatten ≠ passwordWords 97 p ∧
      passwordWords 98 (List.replicate m p).flatten ≠ passwordWords 98 p := by
  have hpos := List.length_pos_iff.2 hp
  have hlonger : p.length < m * p.length :=
    calc p.length = 1 * p.length := (Nat.one_mul _).symm
      _ < m * p.length := Nat.mul_lt_mul_of_pos_right (by omega) hpos
  have hlength : (List.replicate m p).flatten.length = m * p.length := by
    simp
  have hne : (List.replicate m p).flatten ≠ [] := by
    rw [← List.length_pos_iff, hlength]
    omega
  have hend := getD_repeated hp hzero hm
  refine ⟨?_, ?_, ?_⟩
  · have hold : ∀ q : Bytes, q.length < 255 → keyLength 0 q.length = q.length := by
      intro q hq
      rw [keyLength, if_pos (by decide), if_neg (by decide), Nat.add_zero, Nat.mod_eq_of_lt (by omega)]
    rw [passwordWords, passwordWords, hold _ (by omega), hold _ (by omega), keyWords_append hne,
      keyWords_append hp, hlength, BlfCtx.keyWords_replicate hp (by omega)]
  · have ha : ∀ q : Bytes, q.length < 255 → keyLength 97 q.length = q.length + 1 := by
      intro q hq
      rw [keyLength, if_pos (by decide), if_pos (by decide), Nat.mod_eq_of_lt (by omega)]
    rw [passwordWords, passwordWords, ha _ (by omega), ha _ (by omega)]
    exact keyWords_ne hshort (by omega) (by omega) hend
  · rw [passwordWords, passwordWords, keyLength_eq, keyLength_eq]
    exact keyWords_ne hshort (by omega) (by omega) hend

theorem passwordWords_repeated_ab :
    passwordWords 0 (List.replicate 2 (ascii ['a', 'b'])).flatten
        = passwordWords 0 (ascii ['a', 'b']) ∧
      passwordWords 97 (List.replicate 2 (ascii ['a', 'b'])).flatten
        ≠ passwordWords 97 (ascii ['a', 'b']) ∧
      passwordWords 98 (List.replicate 2 (ascii ['a', 'b'])).flatten
        ≠ passwordWords 98 (ascii ['a', 'b']) :=
  passwordWords_repeated (by decide) (by decide) (by decide) (by decide) (by decide)

/-- A key of no bytes is its first byte, over and over. -/
theorem streamWords_zero (key : Bytes) (count current : Nat) :
    streamWords key 0 count current
      = List.replicate count
        (wordOf (key.getD 0 0) (key.getD 0 0) (key.getD 0 0) (key.getD 0 0)) := by
  induction count generalizing current with
  | zero => rfl
  | succ count ih =>
    have hbyte : ∀ s : UInt32 × Nat,
        (streamByte key 0 s).1 = (s.1 <<< 8) ||| (key.getD 0 0).toUInt32 := by
      intro s
      rw [streamByte]
      simp only [Nat.zero_le, if_true]
    have hword : (stream2word key 0 current).1
        = wordOf (key.getD 0 0) (key.getD 0 0) (key.getD 0 0) (key.getD 0 0) := by
      rw [stream2word, hbyte, hbyte, hbyte, hbyte, wordOf]
    rw [streamWords, List.replicate_succ, ← ih (stream2word key 0 current).2, ← hword]

/-- **Where the length goes round.**  Under version `a` a password of 255 bytes, or of
any length that is 255 beyond a multiple of 256, counts for its first byte only. -/
theorem passwordWords_wraparound {p q : Bytes} (hp : p.length % 256 = 255)
    (hq : q.length % 256 = 255) :
    passwordWords 97 p = passwordWords 97 q ↔ p.getD 0 0 = q.getD 0 0 := by
  have hround : ∀ q : Bytes, q.length % 256 = 255 →
      passwordWords 97 q
        = List.replicate 18 (wordOf (q.getD 0 0) (q.getD 0 0) (q.getD 0 0) (q.getD 0 0)) := by
    intro q hq
    have hlength : keyLength 97 q.length = 0 := by
      rw [keyLength, if_pos (by decide), if_pos (by decide)]
      omega
    rw [passwordWords, hlength, keyWords, streamWords_zero,
      List.getD_append _ _ _ _ (show 0 < q.length by omega)]
  rw [hround p hp, hround q hq, List.replicate_right_inj (by decide)]
  simp [wordOf_eq_iff]

theorem passwordWords_wraparound_long :
    passwordWords 97 (List.replicate 255 65) = passwordWords 97 (65 :: List.replicate 510 66) ↔
      (List.replicate 255 (65 : UInt8)).getD 0 0 = (65 :: List.replicate 510 66).getD 0 0 :=
  passwordWords_wraparound (by rw [List.length_replicate])
    (by rw [List.length_cons, List.length_replicate])

end Bcrypt

end ServiceServer
