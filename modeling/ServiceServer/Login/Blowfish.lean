import ServiceServer.Lib.BlockModes
import ServiceServer.Lib.Feistel
import ServiceServer.Lib.Words
import ServiceServer.Runtime
import Mathlib.Data.List.Induction
import Mathlib.Data.List.Zip

/-!
# The block cipher (`blowfish.cpp`, `node_blf.h`)

A context holds four S-boxes and eighteen subkeys.  `Blowfish_encipher` and
`Blowfish_decipher` are Feistel networks over them, written out round by round; the
functions on top of them cut words or bytes into blocks.

* `encipher_bijective` — the one undoes the other, whatever the boxes and the subkeys
  hold.
* `blfDec_in_pieces`, `blfEcbDecrypt_blfEcbEncrypt` — and so block by block, for as long
  as the counter of the loop does not wrap; `roundsFrom_eq_none` — then it never ends.
* `blfCbcDecrypt_text` — decryption in place, from the last block to the first, is the
  chain undone; `blfCbcDecrypt_blfCbcEncrypt` — so it gives back what was encrypted.
-/

namespace ServiceServer

open Lib

/-- `blf_ctx`: the S-boxes, one behind the other, and the subkeys. -/
structure BlfCtx where
  S : Vector UInt32 1024
  P : Vector UInt32 18
  deriving DecidableEq

namespace BlfCtx

/-- What `memset` leaves of a context. -/
def cleared : BlfCtx := ⟨Vector.replicate 1024 0, Vector.replicate 18 0⟩

/-! ## One block -/

theorem lowByte_lt (x : UInt32) : (x &&& 0xff).toNat < 256 := by
  have h : (x &&& 0xff).toNat ≤ 255 := Nat.and_le_right
  omega

/-- The entry of an S-box that the lowest byte of a word points at. -/
def sbox (c : BlfCtx) (box : Fin 4) (x : UInt32) : UInt32 :=
  c.S.get ⟨256 * box.val + (x &&& 0xff).toNat, by
    have hbox := box.isLt
    have hlow := lowByte_lt x
    omega⟩

/-- The macro `F`. -/
def F (c : BlfCtx) (x : UInt32) : UInt32 :=
  ((c.sbox 0 (x >>> 24) + c.sbox 1 (x >>> 16)) ^^^ c.sbox 2 (x >>> 8)) + c.sbox 3 x

/-- The macro `BLFRND`: what `i` becomes. -/
def blfRnd (c : BlfCtx) (i j : UInt32) (n : Fin 18) : UInt32 := i ^^^ (c.F j ^^^ c.P.get n)

/-- `Blowfish_encipher`: what is left in `xl` and `xr`. -/
def encipher (c : BlfCtx) (xl xr : UInt32) : UInt32 × UInt32 :=
  let Xl := xl ^^^ c.P.get 0
  let Xr := c.blfRnd xr Xl 1
  let Xl := c.blfRnd Xl Xr 2
  let Xr := c.blfRnd Xr Xl 3
  let Xl := c.blfRnd Xl Xr 4
  let Xr := c.blfRnd Xr Xl 5
  let Xl := c.blfRnd Xl Xr 6
  let Xr := c.blfRnd Xr Xl 7
  let Xl := c.blfRnd Xl Xr 8
  let Xr := c.blfRnd Xr Xl 9
  let Xl := c.blfRnd Xl Xr 10
  let Xr := c.blfRnd Xr Xl 11
  let Xl := c.blfRnd Xl Xr 12
  let Xr := c.blfRnd Xr Xl 13
  let Xl := c.blfRnd Xl Xr 14
  let Xr := c.blfRnd Xr Xl 15
  let Xl := c.blfRnd Xl Xr 16
  (Xr ^^^ c.P.get 17, Xl)

/-- `Blowfish_decipher`. -/
def decipher (c : BlfCtx) (xl xr : UInt32) : UInt32 × UInt32 :=
  let Xl := xl ^^^ c.P.get 17
  let Xr := c.blfRnd xr Xl 16
  let Xl := c.blfRnd Xl Xr 15
  let Xr := c.blfRnd Xr Xl 14
  let Xl := c.blfRnd Xl Xr 13
  let Xr := c.blfRnd Xr Xl 12
  let Xl := c.blfRnd Xl Xr 11
  let Xr := c.blfRnd Xr Xl 10
  let Xl := c.blfRnd Xl Xr 9
  let Xr := c.blfRnd Xr Xl 8
  let Xl := c.blfRnd Xl Xr 7
  let Xr := c.blfRnd Xr Xl 6
  let Xl := c.blfRnd Xl Xr 5
  let Xr := c.blfRnd Xr Xl 4
  let Xl := c.blfRnd Xl Xr 3
  let Xr := c.blfRnd Xr Xl 2
  let Xl := c.blfRnd Xl Xr 1
  (Xr ^^^ c.P.get 0, Xl)

/-! ## The network -/

theorem xor_involutive (k : UInt32) : Function.Involutive fun x : UInt32 => x ^^^ k := by
  intro x
  show x ^^^ k ^^^ k = x
  rw [UInt32.xor_assoc, UInt32.xor_self, UInt32.xor_zero]

/-- The rounds of a context. -/
def network (c : BlfCtx) : Feistel (Fin 18) UInt32 where
  mix n x y := c.blfRnd y x n
  involutive n x := xor_involutive (c.F x ^^^ c.P.get n)

/-- The subkeys of the sixteen rounds. -/
def roundKeys : List (Fin 18) := [1, 2, 3, 4, 5, 6, 7, 8, 9, 10, 11, 12, 13, 14, 15, 16]

/-- **`Blowfish_encipher` is a Feistel network** of sixteen rounds between two
maskings. -/
theorem encipher_eq (c : BlfCtx) (xl xr : UInt32) :
    c.encipher xl xr
      = c.network.crypt (· ^^^ c.P.get 0) (· ^^^ c.P.get 17) roundKeys (xl, xr) := rfl

theorem decipher_eq (c : BlfCtx) (xl xr : UInt32) :
    c.decipher xl xr
      = c.network.crypt (· ^^^ c.P.get 17) (· ^^^ c.P.get 0) roundKeys.reverse (xl, xr) := rfl

/-- `Blowfish_encipher` on a block. -/
def encipherBlock (c : BlfCtx) (b : UInt32 × UInt32) : UInt32 × UInt32 := c.encipher b.1 b.2

/-- `Blowfish_decipher` on a block. -/
def decipherBlock (c : BlfCtx) (b : UInt32 × UInt32) : UInt32 × UInt32 := c.decipher b.1 b.2

theorem leftInverse_decipherBlock (c : BlfCtx) :
    Function.LeftInverse c.decipherBlock c.encipherBlock := by
  intro b
  rw [decipherBlock, decipher_eq, encipherBlock, encipher_eq]
  exact c.network.crypt_crypt (xor_involutive _) (xor_involutive _) roundKeys b

theorem rightInverse_decipherBlock (c : BlfCtx) :
    Function.RightInverse c.decipherBlock c.encipherBlock := by
  intro b
  have h := c.network.crypt_crypt (xor_involutive (c.P.get 17)) (xor_involutive (c.P.get 0))
    roundKeys.reverse b
  rw [List.reverse_reverse] at h
  rw [encipherBlock, encipher_eq, decipherBlock, decipher_eq]
  exact h

/-- **The cipher is a permutation of the blocks**, under every context: deciphering
undoes enciphering and the other way round, and so no two blocks have one cipher
block. -/
theorem encipher_bijective (c : BlfCtx) :
    (∀ xl xr, c.decipherBlock (c.encipher xl xr) = (xl, xr)) ∧
      (∀ xl xr, c.encipherBlock (c.decipher xl xr) = (xl, xr)) ∧
      Function.Bijective c.encipherBlock :=
  ⟨fun xl xr => c.leftInverse_decipherBlock (xl, xr),
    fun xl xr => c.rightInverse_decipherBlock (xl, xr),
    c.leftInverse_decipherBlock.injective, c.rightInverse_decipherBlock.surjective⟩

/-! ## Blocks of words and of bytes -/

/-- A block as two words. -/
def words : Layout UInt32 (UInt32 × UInt32) where
  size := 2
  read d := (d.getD 0 0, d.getD 1 0)
  write b := [b.1, b.2]
  length_write _ := rfl
  read_write _ _ := rfl
  write_read l h := by
    obtain ⟨a, b, rest, rfl⟩ : ∃ a b rest, l = a :: b :: rest := by
      match l, h with
      | a :: b :: rest, _ => exact ⟨a, b, rest, rfl⟩
    rfl

/-- A block as eight bytes, the highest of each word first. -/
def bytes : Layout UInt8 (UInt32 × UInt32) where
  size := 8
  read d :=
    (packWord (d.getD 0 0) (d.getD 1 0) (d.getD 2 0) (d.getD 3 0),
      packWord (d.getD 4 0) (d.getD 5 0) (d.getD 6 0) (d.getD 7 0))
  write b := wordBytes b.1 ++ wordBytes b.2
  length_write _ := rfl
  read_write b _ := by
    have hl := packWord_wordBytes b.1
    have hr := packWord_wordBytes b.2
    exact Prod.ext hl hr
  write_read l h := by
    obtain ⟨a, b, c, d, e, f, g, k, rest, rfl⟩ :
        ∃ a b c d e f g k rest, l = a :: b :: c :: d :: e :: f :: g :: k :: rest := by
      match l, h with
      | a :: b :: c :: d :: e :: f :: g :: k :: rest, _ =>
        exact ⟨a, b, c, d, e, f, g, k, rest, rfl⟩
    show wordBytes (packWord a b c d) ++ wordBytes (packWord e f g k) = [a, b, c, d, e, f, g, k]
    rw [wordBytes_packWord, wordBytes_packWord]
    rfl

@[simp] theorem bytes_size : bytes.size = 8 := rfl

theorem length_text_bytes (bs : List (UInt32 × UInt32)) : (bytes.text bs).length = 8 * bs.length :=
  bytes.length_text bs

/-- `blf_enc`; `blocks` is what a `u_int16_t` holds. -/
def blfEnc (c : BlfCtx) (data : List UInt32) (blocks : Nat) : List UInt32 :=
  words.eachBlock c.encipherBlock blocks data

/-- `blf_dec`; `blocks` is what a `u_int16_t` holds. -/
def blfDec (c : BlfCtx) (data : List UInt32) (blocks : Nat) : List UInt32 :=
  words.eachBlock c.decipherBlock blocks data

/-- The rounds of `for (i = 0; i < len; i += 8)` from a value of `i` on, which has 32 bits;
`none` if it goes on after `fuel` of them. -/
def roundsFrom (len : UInt32) : (fuel : Nat) → (i : UInt32) → Option Nat
  | 0, i => if i < len then none else some 0
  | fuel + 1, i => if i < len then (roundsFrom len fuel (i + 8)).map (· + 1) else some 0

/-- How many rounds the loop makes.  After `2 ^ 29` of them `i` is back at zero. -/
def blockRounds (len : UInt32) : Option Nat := roundsFrom len 536870912 0

/-- `blf_ecb_encrypt`; `none` if it does not return. -/
def blfEcbEncrypt (c : BlfCtx) (data : Bytes) (len : UInt32) : Option Bytes :=
  (blockRounds len).map fun rounds => bytes.eachBlock c.encipherBlock rounds data

/-- `blf_ecb_decrypt`; `none` if it does not return. -/
def blfEcbDecrypt (c : BlfCtx) (data : Bytes) (len : UInt32) : Option Bytes :=
  (blockRounds len).map fun rounds => bytes.eachBlock c.decipherBlock rounds data

/-- A counter that does not wrap before the end takes a round for each block begun. -/
theorem roundsFrom_eq {len : UInt32} (hlen : len.toNat ≤ 4294967288) {k fuel : Nat} {i : UInt32}
    (hi : i.toNat = 8 * k) (hk : k ≤ (len.toNat + 7) / 8)
    (hfuel : (len.toNat + 7) / 8 - k ≤ fuel) :
    roundsFrom len fuel i = some ((len.toNat + 7) / 8 - k) := by
  induction fuel generalizing k i with
  | zero =>
    have hend : ¬ i < len := by
      rw [UInt32.lt_iff_toNat_lt]
      omega
    rw [roundsFrom, if_neg hend]
    congr 1
    omega
  | succ fuel ih =>
    rw [roundsFrom]
    by_cases hlt : i < len
    · have hbelow : i.toNat < len.toNat := UInt32.lt_iff_toNat_lt.1 hlt
      have hnext : (i + 8).toNat = 8 * (k + 1) := by
        rw [UInt32.toNat_add, hi, Nat.mod_eq_of_lt]
        · rfl
        · show 8 * k + 8 < 4294967296
          omega
      rw [if_pos hlt, ih hnext (by omega) (by omega), Option.map_some]
      congr 1
      omega
    · have hend : len.toNat ≤ i.toNat := by
        rwa [UInt32.lt_iff_toNat_lt, Nat.not_lt] at hlt
      rw [if_neg hlt]
      congr 1
      omega

/-- **A length of more than `2 ^ 32 - 8` is never reached**: the counter goes from
`2 ^ 32 - 8` back to zero. -/
theorem roundsFrom_eq_none {len : UInt32} (hlen : 4294967288 < len.toNat) (fuel : Nat)
    {i : UInt32} (hi : 8 ∣ i.toNat) : roundsFrom len fuel i = none := by
  have hlt : i < len := by
    have hbound := i.toNat_lt
    rw [UInt32.lt_iff_toNat_lt]
    omega
  induction fuel generalizing i with
  | zero => rw [roundsFrom, if_pos hlt]
  | succ fuel ih =>
    have hnext : 8 ∣ (i + 8).toNat := by
      rw [UInt32.toNat_add]
      show 8 ∣ (i.toNat + 8) % 4294967296
      omega
    have hagain : i + 8 < len := by
      have hbound := (i + 8).toNat_lt
      rw [UInt32.lt_iff_toNat_lt]
      omega
    rw [roundsFrom, if_pos hlt, ih hnext hagain, Option.map_none]

theorem blockRounds_eq {len : UInt32} (hlen : len.toNat ≤ 4294967288) :
    blockRounds len = some ((len.toNat + 7) / 8) :=
  roundsFrom_eq hlen (k := 0) rfl (Nat.zero_le _) (by omega)

/-- **What was encrypted in one go may be decrypted in two**, as the test in the source
does it: the first `m` blocks by one call and the others by a second one, that is given
where they start. -/
theorem blfDec_in_pieces (c : BlfCtx) (m n : Nat) (data : List UInt32)
    (h : 2 * (m + n) ≤ data.length) :
    let encrypted := c.blfEnc data (m + n)
    let first := c.blfDec encrypted m
    first.take (2 * m) ++ c.blfDec (first.drop (2 * m)) n = data := by
  intro encrypted first
  have hlen : (c.blfEnc data (m + n)).length = data.length :=
    words.length_eachBlock _ h
  have hlater : first.drop (2 * m) = encrypted.drop (2 * m) :=
    words.drop_eachBlock _ (show 2 * m ≤ encrypted.length by rw [hlen]; omega)
  have hpieces := words.eachBlock_add c.decipherBlock m n (l := encrypted)
    (show 2 * m ≤ encrypted.length by rw [hlen]; omega)
  have hback : words.eachBlock c.decipherBlock (m + n) encrypted = data :=
    words.eachBlock_eachBlock c.leftInverse_decipherBlock h
  rw [hlater, ← hback, hpieces]
  rfl

/-- Five blocks, of which the first is decrypted by itself. -/
theorem blfDec_in_pieces_five :
    let encrypted := cleared.blfEnc [0, 1, 2, 3, 4, 5, 6, 7, 8, 9] (1 + 4)
    let first := cleared.blfDec encrypted 1
    first.take (2 * 1) ++ cleared.blfDec (first.drop (2 * 1)) 4 = [0, 1, 2, 3, 4, 5, 6, 7, 8, 9] :=
  blfDec_in_pieces cleared 1 4 _ (by decide)

/-- **ECB is undone**, for every length up to `2 ^ 32 - 8`: where it is no multiple of
eight, both directions treat the block it ends in whole.  What lies behind stays as it is.
For a greater length neither of them ever returns. -/
theorem blfEcbDecrypt_blfEcbEncrypt (c : BlfCtx) (data : Bytes) (len : UInt32) :
    (len.toNat ≤ 4294967288 → 8 * ((len.toNat + 7) / 8) ≤ data.length →
      (c.blfEcbEncrypt data len).bind (c.blfEcbDecrypt · len) = some data ∧
        (c.blfEcbDecrypt data len).bind (c.blfEcbEncrypt · len) = some data) ∧
      (4294967288 < len.toNat → ∀ fuel, roundsFrom len fuel 0 = none) := by
  refine ⟨fun hlen h => ?_, fun hlen fuel => roundsFrom_eq_none hlen fuel (by decide)⟩
  have hrounds := blockRounds_eq hlen
  simp only [blfEcbEncrypt, blfEcbDecrypt, hrounds, Option.map_some, Option.bind_some]
  exact ⟨congrArg some (bytes.eachBlock_eachBlock c.leftInverse_decipherBlock h),
    congrArg some (bytes.eachBlock_eachBlock c.rightInverse_decipherBlock h)⟩

theorem blfEcbDecrypt_blfEcbEncrypt_twelve :
    ((cleared.blfEcbEncrypt (List.replicate 17 65) 12).bind (cleared.blfEcbDecrypt · 12)
        = some (List.replicate 17 65) ∧
      (cleared.blfEcbDecrypt (List.replicate 17 65) 12).bind (cleared.blfEcbEncrypt · 12)
        = some (List.replicate 17 65)) ∧
      ∀ fuel, roundsFrom 4294967289 fuel 0 = none :=
  ⟨(blfEcbDecrypt_blfEcbEncrypt cleared _ 12).1 (by decide) (by decide),
    (blfEcbDecrypt_blfEcbEncrypt cleared [] 4294967289).2 (by decide)⟩

/-! ## Chained blocks -/

/-- `data[j] ^= iv[j]`, over the bytes of `data`. -/
def xorBytes (data iv : Bytes) : Bytes := List.zipWith (· ^^^ ·) data iv

/-- The loop of `blf_cbc_encrypt`. -/
def cbcEncryptLoop (c : BlfCtx) : (rounds : Nat) → (iv data : Bytes) → Bytes
  | 0, _, data => data
  | rounds + 1, iv, data =>
    let block := bytes.write (c.encipherBlock (bytes.read (xorBytes (data.take 8) iv)))
    block ++ cbcEncryptLoop c rounds block (data.drop 8)

/-- `blf_cbc_encrypt`; `none` if it does not return. -/
def blfCbcEncrypt (c : BlfCtx) (iv data : Bytes) (len : UInt32) : Option Bytes :=
  (blockRounds len).map fun rounds => c.cbcEncryptLoop rounds iv data

/-- What `blf_cbc_decrypt` does with the block at place `i`. -/
def cbcBlock (c : BlfCtx) (data : Bytes) (i : Nat) (iv : Bytes) : Bytes :=
  data.take i ++ xorBytes (bytes.write (c.decipherBlock (bytes.read (data.drop i)))) iv ++
    data.drop (i + 8)

/-- The loop of `blf_cbc_decrypt`: `i` goes down, and each block is masked with the one
in front of it. -/
def cbcDecryptLoop (c : BlfCtx) : (rounds i : Nat) → Bytes → Bytes
  | 0, _, data => data
  | rounds + 1, i, data => cbcDecryptLoop c rounds (i - 8) (c.cbcBlock data i (data.drop (i - 8)))

/-- `blf_cbc_decrypt`, of at least eight bytes, so that its counter, which goes down, does
not wrap. -/
def blfCbcDecrypt (c : BlfCtx) (iva data : Bytes) (len : Nat) : Bytes :=
  let i := len - 8
  c.cbcBlock (c.cbcDecryptLoop (i / 8) i data) (i % 8) iva

/-- Two blocks, byte by byte. -/
def maskBlock (b k : UInt32 × UInt32) : UInt32 × UInt32 :=
  bytes.read (xorBytes (bytes.write b) (bytes.write k))

theorem length_xorBytes {data iv : Bytes} (h : data.length ≤ iv.length) :
    (xorBytes data iv).length = data.length := by
  rw [xorBytes, List.length_zipWith]
  omega

theorem xorBytes_xorBytes {data iv : Bytes} (h : data.length ≤ iv.length) :
    xorBytes (xorBytes data iv) iv = data := by
  induction data generalizing iv with
  | nil => rfl
  | cons a data ih =>
    cases iv with
    | nil => cases h
    | cons b iv =>
      have hrest := ih (Nat.le_of_succ_le_succ h)
      have hfirst : a ^^^ b ^^^ b = a := by rw [UInt8.xor_assoc, UInt8.xor_self, UInt8.xor_zero]
      rw [xorBytes] at hrest ⊢
      rw [xorBytes, List.zipWith_cons_cons, List.zipWith_cons_cons, hfirst]
      exact congrArg (a :: ·) hrest

/-- Of what a block is masked with, only its front counts. -/
theorem xorBytes_front {block iv : Bytes} (hblock : block.length = 8) (hiv : 8 ≤ iv.length) :
    xorBytes block iv = xorBytes block (bytes.write (bytes.read iv)) := by
  have hfront : bytes.write (bytes.read iv) = iv.take 8 := bytes.write_read iv hiv
  have hall : block.take 8 = block := by rw [← hblock, List.take_length]
  rw [hfront, xorBytes, List.zipWith_eq_zipWith_take_min, hblock, Nat.min_eq_left hiv, hall]
  rfl

theorem write_maskBlock (b k : UInt32 × UInt32) :
    bytes.write (maskBlock b k) = xorBytes (bytes.write b) (bytes.write k) := by
  have hlen : (xorBytes (bytes.write b) (bytes.write k)).length = 8 :=
    length_xorBytes (by rw [bytes.length_write, bytes.length_write])
  have h := bytes.write_read (xorBytes (bytes.write b) (bytes.write k)) hlen.ge
  rwa [bytes_size, List.take_of_length_le hlen.le] at h

/-- A mask undoes itself. -/
theorem maskBlock_involutive (k : UInt32 × UInt32) : Function.Involutive fun b => maskBlock b k := by
  intro b
  have hread := bytes.read_write b []
  rw [List.append_nil] at hread
  show maskBlock (maskBlock b k) k = b
  rw [maskBlock, write_maskBlock, xorBytes_xorBytes (by rw [bytes.length_write, bytes.length_write]),
    hread]

/-- **CBC encryption is a chain** of enciphered blocks. -/
theorem cbcEncryptLoop_text (c : BlfCtx) (ps : List (UInt32 × UInt32)) {iv : Bytes}
    (hiv : 8 ≤ iv.length) (rest : Bytes) :
    c.cbcEncryptLoop ps.length iv (bytes.text ps ++ rest)
      = bytes.text (chain maskBlock c.encipherBlock (bytes.read iv) ps) ++ rest := by
  induction ps generalizing iv with
  | nil => rfl
  | cons p ps ih =>
    have hfirst : (bytes.write p ++ (bytes.text ps ++ rest)).take 8 = bytes.write p :=
      List.take_left' (bytes.length_write p)
    have hlater : (bytes.write p ++ (bytes.text ps ++ rest)).drop 8 = bytes.text ps ++ rest :=
      bytes.drop_write p _
    have hblock : bytes.read (xorBytes (bytes.write p) iv) = maskBlock p (bytes.read iv) := by
      rw [xorBytes_front (bytes.length_write p) hiv]
      rfl
    have hnext := bytes.read_write (c.encipherBlock (maskBlock p (bytes.read iv))) []
    rw [List.append_nil] at hnext
    rw [List.length_cons, Layout.text_cons, List.append_assoc, cbcEncryptLoop]
    simp only [hfirst, hlater, hblock]
    rw [ih (bytes.length_write _).ge, hnext, chain, Layout.text_cons, List.append_assoc]

/-- What is done with one block, wherever it lies. -/
theorem cbcBlock_text (c : BlfCtx) (bs : List (UInt32 × UInt32)) (b : UInt32 × UInt32)
    (rest : Bytes) {iv : Bytes} (hiv : 8 ≤ iv.length) :
    c.cbcBlock (bytes.text bs ++ (bytes.write b ++ rest)) (8 * bs.length) iv
      = bytes.text bs ++ (bytes.write (maskBlock (c.decipherBlock b) (bytes.read iv)) ++ rest) := by
  have hlen : (bytes.text bs).length = 8 * bs.length := bytes.length_text bs
  have hbefore : (bytes.text bs ++ (bytes.write b ++ rest)).take (8 * bs.length) = bytes.text bs :=
    List.take_left' hlen
  have hfrom : (bytes.text bs ++ (bytes.write b ++ rest)).drop (8 * bs.length)
      = bytes.write b ++ rest := List.drop_left' hlen
  have hbehind : (bytes.text bs ++ (bytes.write b ++ rest)).drop (8 * bs.length + 8) = rest := by
    rw [← List.drop_drop, hfrom]
    exact bytes.drop_write b rest
  rw [cbcBlock, hbefore, hfrom, hbehind, bytes.read_write,
    xorBytes_front (bytes.length_write _) hiv, ← write_maskBlock, List.append_assoc]

/-- The last of some blocks is found where it lies. -/
theorem drop_text_concat (bs : List (UInt32 × UInt32)) (b : UInt32 × UInt32) (rest : Bytes) :
    (bytes.text (bs ++ [b]) ++ rest).drop (8 * bs.length) = bytes.write b ++ rest := by
  rw [bytes.text_append, List.append_assoc, List.drop_left' (length_text_bytes bs),
    Layout.text_cons, Layout.text_nil, List.append_nil]

/-- The loop undoes the chain from the back, but for the first block. -/
theorem cbcDecryptLoop_text (c : BlfCtx) (first : UInt32 × UInt32) (bs : List (UInt32 × UInt32))
    (rest : Bytes) :
    c.cbcDecryptLoop bs.length (8 * bs.length) (bytes.text (first :: bs) ++ rest)
      = bytes.text (first :: unchain maskBlock c.decipherBlock first bs) ++ rest := by
  induction bs using List.reverseRecOn generalizing rest with
  | nil => rfl
  | append_singleton bs b ih =>
    -- the block in front of the last one masks it
    obtain ⟨front, last, hfront⟩ : ∃ front last, first :: bs = front ++ [last] :=
      ⟨_, _, (List.dropLast_append_getLast (List.cons_ne_nil first bs)).symm⟩
    have hlength : front.length = bs.length := by
      have h := congrArg List.length hfront
      simpa using h.symm
    have htext : bytes.text (first :: (bs ++ [b])) ++ rest
        = bytes.text (first :: bs) ++ (bytes.write b ++ rest) := by
      rw [← List.cons_append, bytes.text_append, List.append_assoc, Layout.text_cons _ b,
        Layout.text_nil, List.append_nil]
    have hiv : (bytes.text (first :: bs) ++ (bytes.write b ++ rest)).drop (8 * bs.length)
        = bytes.write last ++ (bytes.write b ++ rest) := by
      rw [hfront, ← hlength, drop_text_concat]
    have hlong : 8 ≤ (bytes.write last ++ (bytes.write b ++ rest)).length := by
      rw [List.length_append, bytes.length_write, bytes_size]
      omega
    have hstep := c.cbcBlock_text (first :: bs) b rest hlong
    rw [bytes.read_write, List.length_cons] at hstep
    have hlast : (first :: bs).getLast (List.cons_ne_nil first bs) = last := by
      simp [hfront]
    rw [List.length_append, List.length_singleton, htext, cbcDecryptLoop,
      show 8 * (bs.length + 1) - 8 = 8 * bs.length by omega, hiv, hstep, ih, unchain_concat, hlast,
      ← List.cons_append, bytes.text_append, List.append_assoc, Layout.text_cons _ (maskBlock _ _),
      Layout.text_nil, List.append_nil]

/-- **Decryption in place is the chain undone**: going from the last block to the first,
every block finds the one in front of it as it came. -/
theorem blfCbcDecrypt_text (c : BlfCtx) {iva : Bytes} (hiva : 8 ≤ iva.length)
    {cs : List (UInt32 × UInt32)} (hcs : cs ≠ []) (rest : Bytes) :
    c.blfCbcDecrypt iva (bytes.text cs ++ rest) (8 * cs.length)
      = bytes.text (unchain maskBlock c.decipherBlock (bytes.read iva) cs) ++ rest := by
  cases cs with
  | nil => exact absurd rfl hcs
  | cons first bs =>
    have hstart : 8 * (first :: bs).length - 8 = 8 * bs.length := by
      rw [List.length_cons]
      omega
    have hfirst := c.cbcBlock_text [] first
      (bytes.text (unchain maskBlock c.decipherBlock first bs) ++ rest) hiva
    rw [blfCbcDecrypt]
    simp only [hstart]
    rw [Nat.mul_div_cancel_left _ (by decide), Nat.mul_mod_right, cbcDecryptLoop_text,
      Layout.text_cons, List.append_assoc]
    exact hfirst.trans (by rw [Layout.text_nil, List.nil_append, unchain, Layout.text_cons,
      List.append_assoc])

/-- **CBC is undone.**  A text of one or more whole blocks that was encrypted under an
initial vector is decrypted under it, in place, whatever the context; bytes behind the text
stay as they are.  Whole blocks end before the counter wraps. -/
theorem blfCbcDecrypt_blfCbcEncrypt (c : BlfCtx) {iv data : Bytes} {len : UInt32}
    (hiv : 8 ≤ iv.length) (hpos : 0 < len) (hblocks : 8 ∣ len.toNat)
    (hlen : len.toNat ≤ data.length) :
    (c.blfCbcEncrypt iv data len).map (c.blfCbcDecrypt iv · len.toNat) = some data := by
  have hbound := len.toNat_lt
  have hpos' : 0 < len.toNat := UInt32.lt_iff_toNat_lt.1 hpos
  have hrounds : blockRounds len = some ((len.toNat + 7) / 8) := blockRounds_eq (by omega)
  obtain ⟨n, hn⟩ := hblocks
  rw [hn] at hlen hrounds hpos' ⊢
  obtain ⟨ps, rest, rfl, rfl⟩ := bytes.exists_text hlen
  have hwhole : (8 * ps.length + 7) / 8 = ps.length := by omega
  have hsame := length_chain maskBlock (e := c.encipherBlock) (bytes.read iv) ps
  have hne : chain maskBlock c.encipherBlock (bytes.read iv) ps ≠ [] := by
    rw [← List.length_pos_iff, hsame]
    omega
  have hundone := c.blfCbcDecrypt_text hiv hne rest
  rw [hsame, unchain_chain maskBlock maskBlock_involutive c.leftInverse_decipherBlock] at hundone
  rw [blfCbcEncrypt, hrounds, hwhole, Option.map_some, Option.map_some,
    c.cbcEncryptLoop_text ps hiv, hundone]

theorem blfCbcDecrypt_blfCbcEncrypt_two :
    (cleared.blfCbcEncrypt (List.replicate 8 1) (List.replicate 17 65) 16).map
      (cleared.blfCbcDecrypt (List.replicate 8 1) · (16 : UInt32).toNat)
        = some (List.replicate 17 65) :=
  blfCbcDecrypt_blfCbcEncrypt cleared (by decide) (by decide) (by decide) (by decide)

/-- **Decryption in place agrees with the plain one.**  Of a text of `n` blocks, block `i`
is deciphered and masked with block `i - 1` as it was before, the first one with the
initial vector; so a damaged block spoils itself and the next one. -/
theorem block_blfCbcDecrypt (c : BlfCtx) {iva data : Bytes} {n i : Nat} (hiva : 8 ≤ iva.length)
    (hlen : 8 * n ≤ data.length) (hi : i < n) :
    ((c.blfCbcDecrypt iva data (8 * n)).drop (8 * i)).take 8
        = xorBytes (bytes.write (c.decipherBlock (bytes.read (data.drop (8 * i)))))
            (if i = 0 then iva else data.drop (8 * (i - 1))) ∧
      (c.blfCbcDecrypt iva data (8 * n)).drop (8 * n) = data.drop (8 * n) := by
  obtain ⟨cs, rest, rfl, rfl⟩ := bytes.exists_text hlen
  have hne : cs ≠ [] := by
    rintro rfl
    exact absurd hi (Nat.not_lt_zero i)
  have hsame := length_unchain maskBlock (d := c.decipherBlock) (bytes.read iva) cs
  rw [c.blfCbcDecrypt_text hiva hne]
  refine ⟨?_, ?_⟩
  · have hb : cs[i]? = some cs[i] := List.getElem?_eq_getElem hi
    obtain ⟨k, hk⟩ : ∃ k, (bytes.read iva :: cs)[i]? = some k :=
      ⟨_, List.getElem?_eq_getElem (Nat.lt_succ_of_lt hi)⟩
    obtain ⟨more, hmore⟩ := bytes.drop_text hb rest
    obtain ⟨more', hmore'⟩ := bytes.drop_text
      (getElem?_unchain maskBlock (d := c.decipherBlock) hb hk) rest
    have hiv : xorBytes (bytes.write (c.decipherBlock cs[i]))
        (if i = 0 then iva else (bytes.text cs ++ rest).drop (8 * (i - 1)))
          = xorBytes (bytes.write (c.decipherBlock cs[i])) (bytes.write k) := by
      cases i with
      | zero =>
        obtain rfl := Option.some.inj hk
        rw [if_pos rfl, xorBytes_front (bytes.length_write _) hiva]
      | succ i =>
        obtain ⟨more, hmore⟩ := bytes.drop_text (List.getElem?_cons_succ ▸ hk) rest
        rw [bytes_size] at hmore
        rw [if_neg (Nat.succ_ne_zero i), Nat.add_sub_cancel, hmore,
          xorBytes_front (bytes.length_write _)
            (by rw [List.length_append, bytes.length_write, bytes_size]; omega),
          bytes.read_write]
    rw [bytes_size] at hmore hmore'
    rw [hmore, bytes.read_write, hiv, hmore', write_maskBlock]
    refine List.take_left' ?_
    rw [← write_maskBlock, bytes.length_write, bytes_size]
  · rw [List.drop_left' (length_text_bytes cs), List.drop_left' (by rw [length_text_bytes, hsame])]

theorem block_blfCbcDecrypt_second :
    ((cleared.blfCbcDecrypt (List.replicate 8 1) (List.replicate 17 65) (8 * 2)).drop (8 * 1)).take 8
        = xorBytes (bytes.write (cleared.decipherBlock (bytes.read
            ((List.replicate 17 65).drop (8 * 1)))))
            (if 1 = 0 then List.replicate 8 1 else (List.replicate 17 65).drop (8 * (1 - 1))) ∧
      (cleared.blfCbcDecrypt (List.replicate 8 1) (List.replicate 17 65) (8 * 2)).drop (8 * 2)
        = (List.replicate 17 65).drop (8 * 2) :=
  block_blfCbcDecrypt cleared (by decide) (by decide) (by decide)

end BlfCtx

end ServiceServer
