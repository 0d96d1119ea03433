import ServiceServer.Login.InitState
import ServiceServer.Login.Keys

/-!
# The key schedule (`blowfish.cpp`)

Key bytes go into the subkeys; then the context enciphers a block over and over, and
what comes out replaces the subkeys and the S-boxes, entry by entry.

* `expandstate_zero` — without salt, `Blowfish_expandstate` is `Blowfish_expand0state`.
* `expand0state_eq`, `expandstate_eq` — of a key, both see eighteen words;
  `blfKey_cyclic` — that are 72 bytes, read over and over.
-/

namespace ServiceServer

open Lib Bcrypt

namespace BlfCtx

/-! ## Keys and blocks -/

/-- `c->P[i] = c->P[i] ^ temp`. -/
def xorP (c : BlfCtx) (i : Fin 18) (temp : UInt32) : BlfCtx :=
  { c with P := c.P.set i (c.P.get i ^^^ temp) }

/-- One round of the first loop of the key schedules, with the place the next word is
read from. -/
def xorKeyRound (key : Bytes) (keybytes : Nat) (s : BlfCtx × Nat) (i : Fin 18) : BlfCtx × Nat :=
  let (temp, j) := stream2word key keybytes s.2
  (s.1.xorP i temp, j)

/-- The first loop of the key schedules. -/
def xorKey (c : BlfCtx) (key : Bytes) (keybytes : Nat) : BlfCtx :=
  ((List.finRange 18).foldl (xorKeyRound key keybytes) (c, 0)).1

/-- What the other loops work on. -/
structure Schedule where
  ctx : BlfCtx
  /-- Where the data are read next. -/
  j : Nat
  datal : UInt32
  datar : UInt32

namespace Schedule

/-- The next block of `Blowfish_expand0state`. -/
def next0 (s : Schedule) : Schedule :=
  let (datal, datar) := s.ctx.encipher s.datal s.datar
  { s with datal := datal, datar := datar }

/-- The next block of `Blowfish_expandstate`: two words of the data go in first. -/
def next (data : Bytes) (databytes : Nat) (s : Schedule) : Schedule :=
  let (left, j) := stream2word data databytes s.j
  let (right, j) := stream2word data databytes j
  let (datal, datar) := s.ctx.encipher (s.datal ^^^ left) (s.datar ^^^ right)
  { s with j := j, datal := datal, datar := datar }

/-- A block takes the place of two subkeys. -/
def storeP (s : Schedule) (i : Fin 9) : Schedule :=
  { s with ctx := { s.ctx with P := (s.ctx.P.set (2 * i) s.datal).set (2 * i + 1) s.datar } }

/-- A block takes the place of two entries of an S-box. -/
def storeS (s : Schedule) (i : Fin 4) (k : Fin 128) : Schedule :=
  { s with ctx := { s.ctx with
      S := (s.ctx.S.set (256 * i + 2 * k) s.datal).set (256 * i + 2 * k + 1) s.datar } }

/-- The loop that replaces the subkeys. -/
def fillP (next : Schedule → Schedule) (s : Schedule) : Schedule :=
  (List.finRange 9).foldl (fun s i => (next s).storeP i) s

/-- The loop that replaces an S-box. -/
def fillBox (next : Schedule → Schedule) (s : Schedule) (i : Fin 4) : Schedule :=
  (List.finRange 128).foldl (fun s k => (next s).storeS i k) s

/-- The loops that replace the subkeys and the S-boxes. -/
def fill (next : Schedule → Schedule) (s : Schedule) : Schedule :=
  (List.finRange 4).foldl (fillBox next) (fillP next s)

end Schedule

/-- `Blowfish_expand0state`. -/
def expand0state (c : BlfCtx) (key : Bytes) (keybytes : Nat) : BlfCtx :=
  (Schedule.fill Schedule.next0 ⟨c.xorKey key keybytes, 0, 0, 0⟩).ctx

/-- `Blowfish_expandstate`. -/
def expandstate (c : BlfCtx) (data : Bytes) (databytes : Nat) (key : Bytes) (keybytes : Nat) :
    BlfCtx :=
  (Schedule.fill (Schedule.next data databytes) ⟨c.xorKey key keybytes, 0, 0, 0⟩).ctx

/-- `blf_key`; `len` is what a `u_int16_t` holds. -/
def blfKey (k : Bytes) (len : Nat) : BlfCtx := initstate.expand0state k len

/-! ## What is seen of a key -/

/-- The first loop, given the words of the key. -/
def xorWords (c : BlfCtx) (words : List UInt32) : BlfCtx :=
  ((List.finRange 18).zip words).foldl (fun c x => c.xorP x.1 x.2) c

theorem xorKeyRound_foldl (key : Bytes) (keybytes : Nat) (is : List (Fin 18)) (c : BlfCtx)
    (j : Nat) :
    (is.foldl (xorKeyRound key keybytes) (c, j)).1
      = (is.zip (streamWords key keybytes is.length j)).foldl (fun c x => c.xorP x.1 x.2) c := by
  induction is generalizing c j with
  | nil => rfl
  | cons i is ih =>
    rw [List.foldl_cons, xorKeyRound, ih, List.length_cons, streamWords, List.zip_cons_cons,
      List.foldl_cons]

/-- **Of a key, the first loop sees eighteen words.** -/
theorem xorKey_eq (c : BlfCtx) (key : Bytes) (keybytes : Nat) :
    c.xorKey key keybytes = c.xorWords (keyWords key keybytes) := by
  rw [xorKey, xorKeyRound_foldl, List.length_finRange, xorWords, keyWords]

/-- `Blowfish_expand0state`, given the words of the key. -/
def expand0Words (c : BlfCtx) (words : List UInt32) : BlfCtx :=
  (Schedule.fill Schedule.next0 ⟨c.xorWords words, 0, 0, 0⟩).ctx

/-- `Blowfish_expandstate`, given the words of the key. -/
def expandWords (c : BlfCtx) (data : Bytes) (databytes : Nat) (words : List UInt32) : BlfCtx :=
  (Schedule.fill (Schedule.next data databytes) ⟨c.xorWords words, 0, 0, 0⟩).ctx

/-- **A key counts for its eighteen words**, in both key schedules. -/
theorem expand0state_eq (c : BlfCtx) (key : Bytes) (keybytes : Nat) :
    c.expand0state key keybytes = c.expand0Words (keyWords key keybytes) := by
  rw [expand0state, xorKey_eq, expand0Words]

theorem expandstate_eq (c : BlfCtx) (data : Bytes) (databytes : Nat) (key : Bytes)
    (keybytes : Nat) :
    c.expandstate data databytes key keybytes
      = c.expandWords data databytes (keyWords key keybytes) := by
  rw [expandstate, xorKey_eq, expandWords]

/-- The words of a key and of the key written down several times are the same. -/
theorem keyWords_replicate {key : Bytes} (hkey : key ≠ []) {m : Nat} (hm : 0 < m) :
    keyWords (List.replicate m key).flatten (m * key.length) = keyWords key key.length := by
  have hlen := List.length_pos_iff.2 hkey
  rw [keyWords_eq_iff (Nat.mul_pos hm hlen) hlen]
  intro k _
  exact cyclic_replicate hkey hm 0 k

/-- The words of a long key are those of its first 72 bytes. -/
theorem keyWords_take {key : Bytes} {n : Nat} (hlong : 72 ≤ n) :
    keyWords key n = keyWords (key.take 72) 72 := by
  rw [keyWords_eq_iff (by omega) (by decide)]
  intro k hk
  rw [cyclic, cyclic, Nat.mod_eq_of_lt (by omega), Nat.mod_eq_of_lt hk,
    List.getD_eq_getElem?_getD, List.getD_eq_getElem?_getD, List.getElem?_take_of_lt hk]

/-- **What `blf_key` makes of a key**: a key and the same key written down any number of
times make one context, and of a long key the first 72 bytes count.  The lengths are those
that the `u_int16_t` of the source passes on. -/
theorem blfKey_cyclic (key : Bytes) (len : Nat) :
    (key ≠ [] → ∀ m, 0 < m →
      blfKey (List.replicate m key).flatten (m * key.length) = blfKey key key.length) ∧
      (72 ≤ len → blfKey key len = blfKey (key.take 72) 72) := by
  refine ⟨?_, ?_⟩
  · intro hkey m hm
    rw [blfKey, expand0state_eq, keyWords_replicate hkey hm, ← expand0state_eq, blfKey]
  · intro hlong
    rw [blfKey, expand0state_eq, keyWords_take hlong, ← expand0state_eq, blfKey]

theorem blfKey_cyclic_ab :
    blfKey (ascii ['a', 'b', 'a', 'b']) (2 * 2) = blfKey (ascii ['a', 'b']) 2 :=
  (blfKey_cyclic (ascii ['a', 'b']) 2).1 (by decide) 2 (by decide)

/-! ## Without salt -/

/-- Words of zero bytes are zero. -/
theorem stream2word_zero {data : Bytes} (hdata : ∀ b ∈ data, b = 0) (databytes j : Nat) :
    (stream2word data databytes j).1 = 0 := by
  have hbyte : ∀ s : UInt32 × Nat, s.1 = 0 → (streamByte data databytes s).1 = 0 := by
    intro s hs
    have hread : data.getD (if databytes ≤ s.2 then 0 else s.2) 0 = 0 := by
      rw [List.getD_eq_getElem?_getD]
      cases hget : data[if databytes ≤ s.2 then 0 else s.2]? with
      | none => rfl
      | some b => exact hdata b (List.mem_of_getElem? hget)
    rw [streamByte, hs, hread]
    rfl
  exact hbyte _ (hbyte _ (hbyte _ (hbyte _ rfl)))

namespace Schedule

/-- The same but for where the data are read next. -/
def SameBlocks (s t : Schedule) : Prop := { s with j := 0 } = { t with j := 0 }

theorem sameBlocks_next {data : Bytes} (hdata : ∀ b ∈ data, b = 0) (databytes : Nat)
    {s t : Schedule} (h : SameBlocks s t) : SameBlocks (s.next data databytes) t.next0 := by
  obtain ⟨ctx, j, datal, datar⟩ := s
  obtain ⟨ctx', j', datal', datar'⟩ := t
  obtain ⟨rfl, -, rfl, rfl⟩ := Schedule.mk.inj h
  have hleft := stream2word_zero hdata databytes j
  have hright := stream2word_zero hdata databytes (stream2word data databytes j).2
  rw [next, next0]
  simp only [hleft, hright, UInt32.xor_zero]
  rfl

/-- Filling a context keeps to the same blocks. -/
theorem sameBlocks_fill {next next' : Schedule → Schedule}
    (hnext : ∀ s t, SameBlocks s t → SameBlocks (next s) (next' t)) {s t : Schedule}
    (h : SameBlocks s t) : SameBlocks (fill next s) (fill next' t) := by
  have hstoreP : ∀ s t (i : Fin 9), SameBlocks s t → SameBlocks (s.storeP i) (t.storeP i) := by
    intro s t i h
    obtain ⟨hctx, -, hl, hr⟩ := Schedule.mk.inj h
    rw [SameBlocks, storeP, storeP, hctx, hl, hr]
  have hstoreS : ∀ s t (i : Fin 4) (k : Fin 128), SameBlocks s t →
      SameBlocks (s.storeS i k) (t.storeS i k) := by
    intro s t i k h
    obtain ⟨hctx, -, hl, hr⟩ := Schedule.mk.inj h
    rw [SameBlocks, storeS, storeS, hctx, hl, hr]
  have hP : SameBlocks (fillP next s) (fillP next' t) :=
    List.foldl_rel (r := SameBlocks) h fun i _ _ _ h => hstoreP _ _ i (hnext _ _ h)
  exact List.foldl_rel (r := SameBlocks) hP fun i _ _ _ h =>
    List.foldl_rel (r := SameBlocks) h fun k _ _ _ h => hstoreS _ _ i k (hnext _ _ h)

end Schedule

/-- **Without salt, the long key schedule is the short one**: with data of zero bytes,
`Blowfish_expandstate` leaves what `Blowfish_expand0state` leaves, whatever the context
and the key. -/
theorem expandstate_zero (c : BlfCtx) (len databytes : Nat) (key : Bytes) (keybytes : Nat) :
    c.expandstate (List.replicate len 0) databytes key keybytes = c.expand0state key keybytes := by
  have hzero : ∀ b ∈ List.replicate len (0 : UInt8), b = 0 := fun _ hb => (List.mem_replicate.1 hb).2
  have h := Schedule.sameBlocks_fill (fun _ _ => Schedule.sameBlocks_next hzero databytes)
    (show Schedule.SameBlocks ⟨c.xorKey key keybytes, 0, 0, 0⟩ _ from rfl)
  exact (Schedule.mk.inj h).1

end BlfCtx

end ServiceServer
