import ServiceServer.Runtime
import Mathlib.Data.FinEnum
import Mathlib.Data.List.TakeWhile

/-!
# Password hashes (`bcrypt.cpp`, `node_blf.h`)

`generateHash` draws a salt, writes it down as a text and hashes the password with
it; the hash carries the salt.  `validatePassword` hands the stored hash to the same
function as if it were a salt.  What that reads back must be what was drawn.

Blowfish itself is left open: of the key it sees the eighteen words that
`Blowfish_stream2word` takes from it.

* `decodeBase64_encodeBase64` — base 64 is read back, whatever follows.
* `parseSalt_hashText` — a hash is read, as a salt, to what it was made from.
* `validatePassword_hashText` — so a password is accepted when it hashes alike.
-/

namespace ServiceServer

namespace Bcrypt

open Lib

/-! ## Base 64 -/

/-- `Base64Code`. -/
def base64Code : Bytes :=
  [46, 47, 65, 66, 67, 68, 69, 70, 71, 72, 73, 74, 75, 76, 77, 78,
    79, 80, 81, 82, 83, 84, 85, 86, 87, 88, 89, 90, 97, 98, 99, 100,
    101, 102, 103, 104, 105, 106, 107, 108, 109, 110, 111, 112, 113, 114, 115, 116,
    117, 118, 119, 120, 121, 122, 48, 49, 50, 51, 52, 53, 54, 55, 56, 57]

/-- `index_64`. -/
def index64 : Bytes :=
  [255, 255, 255, 255, 255, 255, 255, 255, 255, 255,
    255, 255, 255, 255, 255, 255, 255, 255, 255, 255,
    255, 255, 255, 255, 255, 255, 255, 255, 255, 255,
    255, 255, 255, 255, 255, 255, 255, 255, 255, 255,
    255, 255, 255, 255, 255, 255, 0, 1, 54, 55,
    56, 57, 58, 59, 60, 61, 62, 63, 255, 255,
    255, 255, 255, 255, 255, 2, 3, 4, 5, 6,
    7, 8, 9, 10, 11, 12, 13, 14, 15, 16,
    17, 18, 19, 20, 21, 22, 23, 24, 25, 26, 27,
    255, 255, 255, 255, 255, 255, 28, 29, 30,
    31, 32, 33, 34, 35, 36, 37, 38, 39, 40,
    41, 42, 43, 44, 45, 46, 47, 48, 49, 50,
    51, 52, 53, 255, 255, 255, 255, 255]

/-- The character of a sextet. -/
def code (v : UInt8) : UInt8 := base64Code.getD v.toNat 0

/-- `CHAR64`. -/
def char64 (c : UInt8) : UInt8 := if 127 < c then 255 else index64.getD c.toNat 255

/-- `encode_base64`. -/
def encodeBase64 : Bytes → Bytes
  | [] => []
  | [c1] => [code (c1 >>> 2), code ((c1 &&& 0x03) <<< 4)]
  | [c1, c2] =>
    [code (c1 >>> 2), code (((c1 &&& 0x03) <<< 4) ||| ((c2 >>> 4) &&& 0x0f)),
      code ((c2 &&& 0x0f) <<< 2)]
  | c1 :: c2 :: c3 :: data =>
    code (c1 >>> 2) :: code (((c1 &&& 0x03) <<< 4) ||| ((c2 >>> 4) &&& 0x0f)) ::
      code (((c2 &&& 0x0f) <<< 2) ||| ((c3 >>> 6) &&& 0x03)) :: code (c3 &&& 0x3f) ::
      encodeBase64 data

/-- `decode_base64`: what is written into a buffer of this length.  The text ends in a
zero byte. -/
def decodeBase64 : Nat → Bytes → Bytes
  | 0, _ => []
  | len + 1, data =>
    let c1 := char64 (data.getD 0 0)
    let c2 := char64 (data.getD 1 0)
    if c1 = 255 ∨ c2 = 255 then []
    else
      ((c1 <<< 2) ||| ((c2 &&& 0x30) >>> 4)) ::
        match len with
        | 0 => []
        | len + 1 =>
          let c3 := char64 (data.getD 2 0)
          if c3 = 255 then []
          else
            (((c2 &&& 0x0f) <<< 4) ||| ((c3 &&& 0x3c) >>> 2)) ::
              match len with
              | 0 => []
              | len + 1 =>
                let c4 := char64 (data.getD 3 0)
                if c4 = 255 then []
                else (((c3 &&& 0x03) <<< 6) ||| c4) :: decodeBase64 len (data.drop 4)

/-! ### Sextets

What is shown of one byte at a time is checked for all of them. -/

/-- A sextet is read back from its character, which is not a zero byte. -/
theorem sextet_code : ∀ v : UInt8, v < 64 → char64 (code v) = v ∧ v ≠ 255 ∧ code v ≠ 0 := by
  decide +kernel

theorem char64_code (v : UInt8) (h : v < 64) : char64 (code v) = v ∧ v ≠ 255 :=
  ⟨(sextet_code v h).1, (sextet_code v h).2.1⟩

theorem code_ne_zero (v : UInt8) (h : v < 64) : code v ≠ 0 := (sextet_code v h).2.2

/-- The parts of a byte that sextets are made of. -/
theorem sextet_lt : ∀ x : UInt8,
    (x >>> 2 < 64 ∧ (x &&& 0x03) <<< 4 < 64) ∧
      ((x >>> 4) &&& 0x0f < 64 ∧ (x &&& 0x0f) <<< 2 < 64) ∧
        ((x >>> 6) &&& 0x03 < 64 ∧ x &&& 0x3f < 64) := by
  decide +kernel

/-- What the masks of `decode_base64` leave of these parts. -/
theorem sextet_mask : ∀ x : UInt8,
    ((((x &&& 0x03) <<< 4) &&& 0x30 : UInt8) = (x &&& 0x03) <<< 4 ∧
        (((x &&& 0x03) <<< 4) &&& 0x0f : UInt8) = 0) ∧
      ((((x >>> 4) &&& 0x0f) &&& 0x30 : UInt8) = 0 ∧
        (((x >>> 4) &&& 0x0f) &&& 0x0f : UInt8) = (x >>> 4) &&& 0x0f) ∧
      ((((x &&& 0x0f) <<< 2) &&& 0x3c : UInt8) = (x &&& 0x0f) <<< 2 ∧
        (((x &&& 0x0f) <<< 2) &&& 0x03 : UInt8) = 0) ∧
      ((((x >>> 6) &&& 0x03) &&& 0x3c : UInt8) = 0 ∧
        (((x >>> 6) &&& 0x03) &&& 0x03 : UInt8) = (x >>> 6) &&& 0x03) := by
  decide +kernel

/-- A byte is put together from two of its parts. -/
theorem sextet_join : ∀ x : UInt8,
    ((x >>> 2) <<< 2) ||| (((x &&& 0x03) <<< 4) >>> 4) = x ∧
      (((x >>> 4) &&& 0x0f) <<< 4) ||| (((x &&& 0x0f) <<< 2) >>> 2) = x ∧
        (((x >>> 6) &&& 0x03) <<< 6) ||| (x &&& 0x3f) = x := by
  decide +kernel

theorem or_and_distrib (a b m : UInt8) : (a ||| b) &&& m = (a &&& m) ||| (b &&& m) :=
  UInt8.eq_of_toBitVec_eq BitVec.and_or_distrib_right

theorem or_lt_64 {a b : UInt8} (ha : a < 64) (hb : b < 64) : a ||| b < 64 := by
  rw [UInt8.lt_iff_toNat_lt] at ha hb ⊢
  rw [UInt8.toNat_or]
  exact Nat.or_lt_two_pow (n := 6) ha hb

theorem first_lt (a : UInt8) : a >>> 2 < 64 := (sextet_lt a).1.1

theorem high_lt (a : UInt8) : (a &&& 0x03) <<< 4 < 64 := (sextet_lt a).1.2

theorem second_lt (a b : UInt8) : ((a &&& 0x03) <<< 4) ||| ((b >>> 4) &&& 0x0f) < 64 :=
  or_lt_64 (high_lt a) (sextet_lt b).2.1.1

theorem middle_lt (b : UInt8) : (b &&& 0x0f) <<< 2 < 64 := (sextet_lt b).2.1.2

theorem third_lt (b c : UInt8) : ((b &&& 0x0f) <<< 2) ||| ((c >>> 6) &&& 0x03) < 64 :=
  or_lt_64 (middle_lt b) (sextet_lt c).2.2.1

theorem fourth_lt (c : UInt8) : c &&& 0x3f < 64 := (sextet_lt c).2.2.2

/-- The first byte of a group is read back from the first two sextets. -/
theorem first_byte (a b : UInt8) :
    ((a >>> 2) <<< 2) |||
        (((((a &&& 0x03) <<< 4) ||| ((b >>> 4) &&& 0x0f)) &&& 0x30) >>> 4) = a := by
  obtain ⟨⟨hhigh, -⟩, -, -, -⟩ := sextet_mask a
  obtain ⟨-, ⟨hlow, -⟩, -, -⟩ := sextet_mask b
  rw [or_and_distrib, hhigh, hlow, UInt8.or_zero, (sextet_join a).1]

/-- The second byte is read back from the second and the third. -/
theorem second_byte (a b c : UInt8) :
    (((((a &&& 0x03) <<< 4) ||| ((b >>> 4) &&& 0x0f)) &&& 0x0f) <<< 4) |||
        (((((b &&& 0x0f) <<< 2) ||| ((c >>> 6) &&& 0x03)) &&& 0x3c) >>> 2) = b := by
  obtain ⟨⟨-, hhigh⟩, -, -, -⟩ := sextet_mask a
  obtain ⟨-, ⟨-, hlow⟩, ⟨hmiddle, -⟩, -⟩ := sextet_mask b
  obtain ⟨-, -, -, hrest, -⟩ := sextet_mask c
  rw [or_and_distrib, or_and_distrib, hhigh, hlow, hmiddle, hrest, UInt8.or_zero,
    UInt8.zero_or, (sextet_join b).2.1]

/-- The third byte is read back from the third and the fourth. -/
theorem third_byte (b c : UInt8) :
    (((((b &&& 0x0f) <<< 2) ||| ((c >>> 6) &&& 0x03)) &&& 0x03) <<< 6) ||| (c &&& 0x3f) = c := by
  obtain ⟨-, -, ⟨-, hmiddle⟩, -⟩ := sextet_mask b
  obtain ⟨-, -, -, -, hrest⟩ := sextet_mask c
  rw [or_and_distrib, hmiddle, hrest, UInt8.zero_or, (sextet_join c).2.2]

/-- **Base 64 is read back**, whatever follows it. -/
theorem decodeBase64_encodeBase64 (data rest : Bytes) :
    decodeBase64 data.length (encodeBase64 data ++ rest) = data := by
  induction data using encodeBase64.induct generalizing rest with
  | case1 => rfl
  | case2 c1 =>
    obtain ⟨h₁, hne₁⟩ := char64_code _ (first_lt c1)
    obtain ⟨h₂, hne₂⟩ := char64_code _ (high_lt c1)
    have hbyte := first_byte c1 0
    rw [show ((0 : UInt8) >>> 4) &&& 0x0f = 0 from rfl, UInt8.or_zero] at hbyte
    simp [encodeBase64, decodeBase64, h₁, h₂, hne₁, hne₂, hbyte]
  | case3 c1 c2 =>
    obtain ⟨h₁, hne₁⟩ := char64_code _ (first_lt c1)
    obtain ⟨h₂, hne₂⟩ := char64_code _ (second_lt c1 c2)
    obtain ⟨h₃, hne₃⟩ := char64_code _ (middle_lt c2)
    have hbyte₁ := first_byte c1 c2
    have hbyte₂ := second_byte c1 c2 0
    rw [show ((0 : UInt8) >>> 6) &&& 0x03 = 0 from rfl, UInt8.or_zero] at hbyte₂
    simp [encodeBase64, decodeBase64, h₁, h₂, h₃, hne₁, hne₂, hne₃, hbyte₁, hbyte₂]
  | case4 c1 c2 c3 data ih =>
    obtain ⟨h₁, hne₁⟩ := char64_code _ (first_lt c1)
    obtain ⟨h₂, hne₂⟩ := char64_code _ (second_lt c1 c2)
    obtain ⟨h₃, hne₃⟩ := char64_code _ (third_lt c2 c3)
    obtain ⟨h₄, hne₄⟩ := char64_code _ (fourth_lt c3)
    have hbyte₁ := first_byte c1 c2
    have hbyte₂ := second_byte c1 c2 c3
    have hbyte₃ := third_byte c2 c3
    simp [encodeBase64, decodeBase64, h₁, h₂, h₃, h₄, hne₁, hne₂, hne₃, hne₄, hbyte₁, hbyte₂,
      hbyte₃, ih]

/-- Three bytes make four characters. -/
theorem length_encodeBase64 (data : Bytes) :
    (encodeBase64 data).length = (4 * data.length + 2) / 3 := by
  induction data using encodeBase64.induct with
  | case1 => rfl
  | case2 c1 => simp [encodeBase64]
  | case3 c1 c2 => simp [encodeBase64]
  | case4 c1 c2 c3 data ih =>
    simp only [encodeBase64, List.length_cons, ih]
    omega

/-- Base 64 holds no zero byte. -/
theorem ne_zero_of_mem_encodeBase64 {data : Bytes} {b : UInt8} (hb : b ∈ encodeBase64 data) :
    b ≠ 0 := by
  have hcode : ∀ v : UInt8, v < 64 → b = code v → b ≠ 0 := by
    rintro v hv rfl
    exact code_ne_zero v hv
  induction data using encodeBase64.induct with
  | case1 => simp [encodeBase64] at hb
  | case2 c1 =>
    simp only [encodeBase64, List.mem_cons, List.not_mem_nil, or_false] at hb
    rcases hb with h | h
    · exact hcode _ (first_lt c1) h
    · exact hcode _ (high_lt c1) h
  | case3 c1 c2 =>
    simp only [encodeBase64, List.mem_cons, List.not_mem_nil, or_false] at hb
    rcases hb with h | h | h
    · exact hcode _ (first_lt c1) h
    · exact hcode _ (second_lt c1 c2) h
    · exact hcode _ (middle_lt c2) h
  | case4 c1 c2 c3 data ih =>
    simp only [encodeBase64, List.mem_cons] at hb
    rcases hb with h | h | h | h | h
    · exact hcode _ (first_lt c1) h
    · exact hcode _ (second_lt c1 c2) h
    · exact hcode _ (third_lt c2 c3) h
    · exact hcode _ (fourth_lt c3) h
    · exact ih h

/-! ## Salts -/

/-- `BCRYPT_MAXSALT`. -/
def maxSalt : Nat := 16

/-- A C string: the bytes before the first zero byte. -/
def cString (s : Bytes) : Bytes := s.takeWhile (· ≠ 0)

/-- `snprintf` of `"%2.2u$"` into four bytes. -/
def printRounds (logr : Nat) : Bytes :=
  (List.replicate (2 - (decimal logr).length) 48 ++ decimal logr ++ ascii ['$']).take 3

/-- `encode_salt`. -/
def encodeSalt (csalt : Bytes) (minor : UInt8) (logr : UInt8) : Bytes :=
  ascii ['$', '2'] ++ [minor] ++ ascii ['$'] ++ printRounds (logr &&& 0x1f).toNat ++
    encodeBase64 (csalt.take maxSalt)

/-- `bcrypt_gensalt`. -/
def bcryptGensalt (minor : UInt8) (logRounds : UInt8) (seed : Bytes) : Bytes :=
  encodeSalt seed minor
    (if logRounds < 4 then 4 else if 31 < logRounds then 31 else logRounds)

/-- `atoi`: `0` where there is no number. -/
def atoi (s : Bytes) : Int :=
  let (negative, t) := readSign (s.dropWhile isSpace)
  let digits := t.takeWhile isDigit
  if negative then -(ofDecimal digits : Int) else ofDecimal digits

/-- What `node_bcrypt` reads from a salt. -/
structure ParsedSalt where
  /-- `a` or `b`, or zero where there is none. -/
  minor : UInt8
  /-- The binary logarithm of the number of rounds. -/
  logr : Nat
  csalt : Bytes
  deriving DecidableEq

/-- The minor version, and the salt from where it stands. -/
def readMinor (salt : Bytes) : Option (UInt8 × Bytes) :=
  let c := salt.getD 1 0
  if c ≠ 36 then if c = 97 ∨ c = 98 then some (c, salt.drop 1) else none
  else some (0, salt)

/-- The part of `node_bcrypt` that reads the salt; `none` where it gives up.  Of
`csalt` it writes what it decodes, and `stale` is what the rest of it held. -/
def parseSalt (salt stale : Bytes) : Option ParsedSalt :=
  let salt := salt.drop 1
  -- a `char` is signed: bytes from 128 on are negative
  if 50 < salt.getD 0 0 ∧ salt.getD 0 0 < 128 then none
  else
    match readMinor salt with
    | none => none
    | some (minor, salt) =>
      let salt := salt.drop 2
      if salt.getD 2 0 ≠ 36 then none
      else
        let n := atoi salt
        if 31 < n ∨ n < 0 then none
        else if 2 ^ n.toNat < 16 then none
        else
          let salt := salt.drop 3
          if salt.length * 3 / 4 < maxSalt then none
          else
            let written := decodeBase64 maxSalt salt
            some
              { minor := minor
                logr := n.toNat
                csalt := written ++ stale.drop written.length }

/-! ## Hashes -/

/-- One byte of `Blowfish_stream2word`: the word so far, and where to read next. -/
def streamByte (data : Bytes) (databytes : Nat) (s : UInt32 × Nat) : UInt32 × Nat :=
  let j := if databytes ≤ s.2 then 0 else s.2
  ((s.1 <<< 8) ||| (data.getD j 0).toUInt32, j + 1)

/-- `Blowfish_stream2word`. -/
def stream2word (data : Bytes) (databytes current : Nat) : UInt32 × Nat :=
  streamByte data databytes (streamByte data databytes (streamByte data databytes
    (streamByte data databytes (0, current))))

/-- The words read one after the other. -/
def streamWords (data : Bytes) (databytes : Nat) : (count : Nat) → (current : Nat) → List UInt32
  | 0, _ => []
  | count + 1, current =>
    let (word, current) := stream2word data databytes current
    word :: streamWords data databytes count current

/-- What the key schedule takes from a key: the words of the first loop of
`Blowfish_expandstate` and `Blowfish_expand0state`. -/
def keyWords (key : Bytes) (keybytes : Nat) : List UInt32 := streamWords key keybytes 18 0

/-- The rest of the computation: of the salt, the number of rounds and the words of
the key it makes six blocks of four bytes. -/
structure Blowfish where
  ciphertext : (csalt : Bytes) → (rounds : Nat) → (key : List UInt32) → Bytes
  length_ciphertext : ∀ csalt rounds key, (ciphertext csalt rounds key).length = 24

/-- The number of key bytes that `node_bcrypt` uses. -/
def keyLength (minor : UInt8) (length : Nat) : Nat :=
  if minor ≤ 97 then (length + if 97 ≤ minor then 1 else 0) % 256
  else (if 72 < length then 72 else length) + 1

/-- The words the key schedule takes from a password: it is a C string, with its
terminator. -/
def passwordWords (minor : UInt8) (password : Bytes) : List UInt32 :=
  keyWords (password ++ [0]) (keyLength minor password.length)

variable (B : Blowfish)

/-- `node_bcrypt`: what it leaves in `encrypted`, as a C string. -/
def nodeBcrypt (key salt stale : Bytes) : Bytes :=
  match parseSalt salt stale with
  | none => ascii [':']
  | some s =>
    ascii ['$', '2'] ++ (if s.minor ≠ 0 then [s.minor] else []) ++ ascii ['$'] ++
      printRounds (s.logr % 32) ++ encodeBase64 (s.csalt.take maxSalt) ++
      encodeBase64 ((B.ciphertext s.csalt (2 ^ s.logr) (passwordWords s.minor key)).take 23)

/-- A string of 61 zero bytes that a C string is written over, cut to 60. -/
def toHash (written : Bytes) : Bytes :=
  (written ++ List.replicate (61 - written.length) 0).take 60

/-- `bcrypt::generateHash`, with the sixteen bytes that were drawn. -/
def generateHash (password : Bytes) (rounds : UInt32) (seed stale : Bytes) : Bytes :=
  toHash (nodeBcrypt B password (bcryptGensalt 98 rounds.toUInt8 seed) stale)

/-- `bcrypt::validatePassword`. -/
def validatePassword (password hash stale : Bytes) : Bool :=
  hash = toHash (nodeBcrypt B password (cString hash) stale)

/-! ## A hash as a salt -/

/-- Two digits are printed for every number of rounds. -/
theorem printRounds_eq {logr : Nat} (h : logr < 32) :
    printRounds logr = [48 + UInt8.ofNat (logr / 10), 48 + UInt8.ofNat (logr % 10), 36] := by
  revert logr
  decide +kernel

/-- And read back, up to the `$` behind them. -/
theorem atoi_printRounds {logr : Nat} (h : logr < 32) (rest : Bytes) :
    atoi (printRounds logr ++ rest) = logr := by
  have hdigits : ∀ logr < 32, isDigit (48 + UInt8.ofNat (logr / 10)) = true ∧
      isDigit (48 + UInt8.ofNat (logr % 10)) = true ∧
      ofDecimal [48 + UInt8.ofNat (logr / 10), 48 + UInt8.ofNat (logr % 10)] = logr := by
    decide +kernel
  obtain ⟨h₁, h₂, hvalue⟩ := hdigits logr h
  have hdollar : isDigit 36 = false := by decide
  rw [printRounds_eq h]
  simp only [atoi, List.cons_append, List.nil_append,
    List.dropWhile_cons_of_neg (by simp [isSpace_of_isDigit h₁] :
      ¬ isSpace (48 + UInt8.ofNat (logr / 10)) = true), readSign_of_isDigit h₁,
    List.takeWhile_cons_of_pos h₁, List.takeWhile_cons_of_pos h₂,
    List.takeWhile_cons_of_neg (by simp [hdollar] : ¬ isDigit 36 = true), hvalue,
    Bool.false_eq_true, if_false]

/-- The text of a salt. -/
def saltText (minor : UInt8) (logr : Nat) (csalt : Bytes) : Bytes :=
  ascii ['$', '2'] ++ [minor] ++ ascii ['$'] ++ printRounds logr ++ encodeBase64 csalt

/-- **What is read from the text of a salt**, whatever follows it: the version, the
rounds and the bytes it was made from. -/
theorem parseSalt_saltText {minor : UInt8} (hminor : minor = 97 ∨ minor = 98) {logr : Nat}
    (hmin : 4 ≤ logr) (hmax : logr ≤ 31) {csalt : Bytes} (hcsalt : csalt.length = maxSalt)
    (rest stale : Bytes) (hstale : stale.length = maxSalt) :
    parseSalt (saltText minor logr csalt ++ rest) stale = some ⟨minor, logr, csalt⟩ := by
  have hatoi := atoi_printRounds (show logr < 32 by omega) (encodeBase64 csalt ++ rest)
  have hrounds : ¬ 2 ^ logr < 16 := by
    have h : 2 ^ 4 ≤ 2 ^ logr := Nat.pow_le_pow_right (by decide) hmin
    omega
  have hlong : ¬ (encodeBase64 csalt ++ rest).length * 3 / 4 < maxSalt := by
    rw [List.length_append, length_encodeBase64, hcsalt, maxSalt]
    omega
  have hdecode : decodeBase64 maxSalt (encodeBase64 csalt ++ rest) = csalt := by
    rw [← hcsalt]
    exact decodeBase64_encodeBase64 csalt rest
  have hne : minor ≠ 36 := by
    rintro rfl
    revert hminor
    decide
  -- the fields one after the other, as they stand in the text
  have htext : (saltText minor logr csalt ++ rest).drop 1
      = 50 :: minor :: 36 :: (printRounds logr ++ (encodeBase64 csalt ++ rest)) := by
    simp only [saltText, ascii, List.map_cons, List.map_nil, List.append_assoc, List.cons_append,
      List.nil_append, List.drop_succ_cons, List.drop_zero]
    rfl
  have hdigits := printRounds_eq (show logr < 32 by omega)
  have hthird : (printRounds logr ++ (encodeBase64 csalt ++ rest)).getD 2 0 = 36 := by
    rw [hdigits]
    rfl
  have hdrop : (printRounds logr ++ (encodeBase64 csalt ++ rest)).drop 3
      = encodeBase64 csalt ++ rest := by
    rw [hdigits]
    rfl
  have hread : readMinor (50 :: minor :: 36 :: (printRounds logr ++ (encodeBase64 csalt ++ rest)))
      = some (minor, minor :: 36 :: (printRounds logr ++ (encodeBase64 csalt ++ rest))) := by
    simp [readMinor, hne, hminor]
  have hversion : ¬ ((50 : UInt8) < 50 ∧ (50 : UInt8) < 128) := by decide
  simp only [parseSalt, htext, List.getD_cons_zero, hversion, if_false, hread, List.drop_succ_cons,
    List.drop_zero, hthird, ne_eq, not_true_eq_false, hatoi, hdrop, hlong, hdecode]
  rw [if_neg (by omega), Int.toNat_natCast, if_neg hrounds, hcsalt, ← hstale, List.drop_length,
    List.append_nil]

/-- The number of rounds `bcrypt_gensalt` settles for, as a binary logarithm. -/
def clampRounds (logRounds : UInt8) : Nat :=
  ((if logRounds < 4 then 4 else if 31 < logRounds then 31 else logRounds) &&& 0x1f).toNat

theorem clampRounds_bounds : ∀ logRounds, 4 ≤ clampRounds logRounds ∧ clampRounds logRounds ≤ 31 := by
  decide +kernel

/-- The salt that is drawn, as a text. -/
theorem bcryptGensalt_eq (minor logRounds : UInt8) {seed : Bytes} (hseed : seed.length = maxSalt) :
    bcryptGensalt minor logRounds seed = saltText minor (clampRounds logRounds) seed := by
  rw [bcryptGensalt, encodeSalt, saltText, clampRounds, ← hseed, List.take_length]

/-- The hash of a password under a salt. -/
def hashText (logr : Nat) (csalt password : Bytes) : Bytes :=
  saltText 98 logr csalt ++
    encodeBase64 ((B.ciphertext csalt (2 ^ logr) (passwordWords 98 password)).take 23)

variable {B}

theorem length_hashText {logr : Nat} (hlogr : logr ≤ 31) {csalt : Bytes}
    (hcsalt : csalt.length = maxSalt) (password : Bytes) :
    (hashText B logr csalt password).length = 60 := by
  simp [hashText, saltText, ascii, printRounds_eq (show logr < 32 by omega), length_encodeBase64,
    hcsalt, maxSalt, B.length_ciphertext]

/-- The text of a salt holds no zero byte. -/
theorem ne_zero_of_mem_saltText {logr : Nat} (hlogr : logr ≤ 31) {csalt : Bytes} {b : UInt8}
    (hb : b ∈ saltText 98 logr csalt) : b ≠ 0 := by
  have hdigit : ∀ k < 10, 48 + UInt8.ofNat k ≠ 0 := by decide +kernel
  have hopen : ascii ['$', '2'] = [36, 50] := by decide
  have hclose : ascii ['$'] = [36] := by decide
  simp only [saltText, printRounds_eq (show logr < 32 by omega), hopen, hclose, List.mem_append,
    List.mem_cons, List.not_mem_nil, or_false] at hb
  rcases hb with (((h | h) | h) | h) | h
  · rcases h with rfl | rfl
    · decide
    · decide
  · rw [h]
    decide
  · rw [h]
    decide
  · rcases h with rfl | rfl | rfl
    · exact hdigit _ (by omega)
    · exact hdigit _ (by omega)
    · decide
  · exact ne_zero_of_mem_encodeBase64 h

/-- A hash holds no zero byte. -/
theorem cString_hashText {logr : Nat} (hlogr : logr ≤ 31) (csalt password : Bytes) :
    cString (hashText B logr csalt password) = hashText B logr csalt password := by
  rw [cString, List.takeWhile_eq_self_iff]
  intro b hb
  rw [decide_eq_true_eq]
  rcases List.mem_append.1 hb with h | h
  · exact ne_zero_of_mem_saltText hlogr h
  · exact ne_zero_of_mem_encodeBase64 h

/-- **What `node_bcrypt` makes of a salt**, or of a hash given as one. -/
theorem nodeBcrypt_saltText {logr : Nat} (hmin : 4 ≤ logr) (hmax : logr ≤ 31) {csalt : Bytes}
    (hcsalt : csalt.length = maxSalt) (password rest stale : Bytes)
    (hstale : stale.length = maxSalt) :
    nodeBcrypt B password (saltText 98 logr csalt ++ rest) stale
      = hashText B logr csalt password := by
  have hmod : logr % 32 = logr := Nat.mod_eq_of_lt (by omega)
  rw [nodeBcrypt, parseSalt_saltText (.inr rfl) hmin hmax hcsalt rest stale hstale]
  simp only [hmod, hashText, saltText]
  rw [← hcsalt, List.take_length, if_pos (by decide)]

theorem toHash_of_length {written : Bytes} (h : written.length = 60) : toHash written = written := by
  rw [toHash, List.take_append_of_le_length (by omega), ← h, List.take_length]

/-- **The hash that is stored** has the rounds and the bytes of the salt that was
drawn. -/
theorem generateHash_eq {password : Bytes} {rounds : UInt32} {seed stale : Bytes}
    (hseed : seed.length = maxSalt) (hstale : stale.length = maxSalt) :
    generateHash B password rounds seed stale
      = hashText B (clampRounds rounds.toUInt8) seed password := by
  obtain ⟨hmin, hmax⟩ := clampRounds_bounds rounds.toUInt8
  have hnode := nodeBcrypt_saltText (B := B) hmin hmax hseed password [] stale hstale
  rw [List.append_nil] at hnode
  rw [generateHash, bcryptGensalt_eq _ _ hseed, hnode,
    toHash_of_length (length_hashText hmax hseed password)]

/-- **What a stored hash is read as**, given back as a salt. -/
theorem parseSalt_hashText {logr : Nat} (hmin : 4 ≤ logr) (hmax : logr ≤ 31) {csalt : Bytes}
    (hcsalt : csalt.length = maxSalt) (password stale : Bytes) (hstale : stale.length = maxSalt) :
    parseSalt (cString (hashText B logr csalt password)) stale = some ⟨98, logr, csalt⟩ := by
  rw [cString_hashText hmax, hashText]
  exact parseSalt_saltText (.inr rfl) hmin hmax hcsalt _ stale hstale

/-- **Validation hashes the password again**, under the salt of the hash. -/
theorem validatePassword_hashText {logr : Nat} (hmin : 4 ≤ logr) (hmax : logr ≤ 31) {csalt : Bytes}
    (hcsalt : csalt.length = maxSalt) (password q stale : Bytes) (hstale : stale.length = maxSalt) :
    validatePassword B q (hashText B logr csalt password) stale
      = decide (hashText B logr csalt password = hashText B logr csalt q) := by
  have hnode := nodeBcrypt_saltText (B := B) hmin hmax hcsalt q
    (encodeBase64 ((B.ciphertext csalt (2 ^ logr) (passwordWords 98 password)).take 23)) stale hstale
  rw [← hashText] at hnode
  rw [validatePassword, cString_hashText hmax, hnode,
    toHash_of_length (length_hashText hmax hcsalt q)]

end Bcrypt

end ServiceServer
