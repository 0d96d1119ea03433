import Mathlib.Data.List.Basic
import Mathlib.Logic.Function.Basic

/-!
# Texts in blocks

A text is cut into blocks of one size.  Blocks may be treated one by one, or chained:
each is masked with the one that was made before it.

* `Layout` — how a block lies in a text; `Layout.exists_text` — a text that is long
  enough starts with so many blocks.
* `Layout.eachBlock_eachBlock` — treating the blocks one by one is undone by undoing
  them one by one.
* `unchain_chain` — a chain is undone by whatever undoes its single steps.
* `unchain_concat` — a chain may be undone from the back: a block needs only the one
  before it, and that one as it was.
-/

namespace ServiceServer.Lib

universe u v

/-! ## Blocks in a text -/

/-- How a block is read from the front of a text, and written down. -/
structure Layout (α : Type u) (β : Type v) where
  size : ℕ
  read : List α → β
  write : β → List α
  length_write : ∀ b, (write b).length = size
  read_write : ∀ b rest, read (write b ++ rest) = b
  write_read : ∀ l, size ≤ l.length → write (read l) = l.take size

namespace Layout

variable {α : Type u} {β : Type v} (L : Layout α β)

/-- The text of a list of blocks. -/
def text (bs : List β) : List α := bs.flatMap L.write

@[simp] theorem text_nil : L.text [] = [] := rfl

@[simp] theorem text_cons (b : β) (bs : List β) : L.text (b :: bs) = L.write b ++ L.text bs := rfl

theorem text_append (bs cs : List β) : L.text (bs ++ cs) = L.text bs ++ L.text cs :=
  List.flatMap_append

@[simp] theorem length_text (bs : List β) : (L.text bs).length = L.size * bs.length := by
  induction bs with
  | nil => rfl
  | cons b bs ih =>
    rw [text_cons, List.length_append, L.length_write, ih, List.length_cons, Nat.mul_succ,
      Nat.add_comm]

/-- **A text that is long enough starts with so many blocks.** -/
theorem exists_text {n : ℕ} {l : List α} (h : L.size * n ≤ l.length) :
    ∃ bs rest, bs.length = n ∧ l = L.text bs ++ rest := by
  induction n generalizing l with
  | zero => exact ⟨[], l, rfl, rfl⟩
  | succ n ih =>
    rw [Nat.mul_succ] at h
    have hrest : L.size * n ≤ (l.drop L.size).length := by
      rw [List.length_drop]
      omega
    obtain ⟨bs, rest, rfl, hl⟩ := ih hrest
    refine ⟨L.read l :: bs, rest, rfl, ?_⟩
    rw [text_cons, L.write_read l (by omega), List.append_assoc, ← hl, List.take_append_drop]

theorem drop_write (b : β) (rest : List α) : (L.write b ++ rest).drop L.size = rest := by
  rw [← L.length_write b, List.drop_left]

/-- A block of a text lies where the blocks before it end. -/
theorem drop_text {bs : List β} {b : β} {i : ℕ} (hb : bs[i]? = some b) (rest : List α) :
    ∃ more, (L.text bs ++ rest).drop (L.size * i) = L.write b ++ more := by
  obtain ⟨hi, rfl⟩ := List.getElem?_eq_some_iff.1 hb
  refine ⟨L.text (bs.drop (i + 1)) ++ rest, ?_⟩
  have hsplit : L.text bs = L.text (bs.take i) ++ (L.write bs[i] ++ L.text (bs.drop (i + 1))) := by
    rw [← text_cons, ← text_append, List.getElem_cons_drop hi, List.take_append_drop]
  have hbefore : (L.text (bs.take i)).length = L.size * i := by
    rw [length_text, List.length_take_of_le (Nat.le_of_lt hi)]
  rw [hsplit, List.append_assoc, List.append_assoc, List.drop_left' hbefore]

/-- The first `n` blocks of a text, one by one and in place. -/
def eachBlock (f : β → β) : (n : ℕ) → List α → List α
  | 0, l => l
  | n + 1, l => L.write (f (L.read l)) ++ eachBlock f n (l.drop L.size)

theorem eachBlock_text (f : β → β) (bs : List β) (rest : List α) :
    L.eachBlock f bs.length (L.text bs ++ rest) = L.text (bs.map f) ++ rest := by
  induction bs with
  | nil => rfl
  | cons b bs ih =>
    rw [List.length_cons, text_cons, List.append_assoc, eachBlock, L.read_write, L.drop_write, ih,
      List.map_cons, text_cons, List.append_assoc]

theorem length_eachBlock (f : β → β) {n : ℕ} {l : List α} (h : L.size * n ≤ l.length) :
    (L.eachBlock f n l).length = l.length := by
  obtain ⟨bs, rest, rfl, rfl⟩ := L.exists_text h
  rw [eachBlock_text, List.length_append, List.length_append, length_text, length_text,
    List.length_map]

/-- What follows the blocks stays as it is. -/
theorem drop_eachBlock (f : β → β) {n : ℕ} {l : List α} (h : L.size * n ≤ l.length) :
    (L.eachBlock f n l).drop (L.size * n) = l.drop (L.size * n) := by
  obtain ⟨bs, rest, rfl, rfl⟩ := L.exists_text h
  have hlen : (L.text (bs.map f)).length = L.size * bs.length := by
    rw [length_text, List.length_map]
  rw [eachBlock_text, ← hlen, List.drop_left, hlen, ← L.length_text bs, List.drop_left]

/-- **Blocks that are undone one by one are as they were**, and so is what follows. -/
theorem eachBlock_eachBlock {f g : β → β} (hundo : Function.LeftInverse g f) {n : ℕ} {l : List α}
    (h : L.size * n ≤ l.length) : L.eachBlock g n (L.eachBlock f n l) = l := by
  obtain ⟨bs, rest, rfl, rfl⟩ := L.exists_text h
  have hback := L.eachBlock_text g (bs.map f) rest
  rw [List.length_map, List.map_map, hundo.comp_eq_id, List.map_id] at hback
  rw [eachBlock_text, hback]

/-- Blocks can be treated in two goes. -/
theorem eachBlock_add (f : β → β) (m n : ℕ) {l : List α} (h : L.size * m ≤ l.length) :
    L.eachBlock f (m + n) l
      = (L.eachBlock f m l).take (L.size * m) ++ L.eachBlock f n (l.drop (L.size * m)) := by
  obtain ⟨bs, rest, rfl, rfl⟩ := L.exists_text h
  have hlen : (L.text (bs.map f)).length = L.size * bs.length := by
    rw [length_text, List.length_map]
  rw [eachBlock_text, ← hlen, List.take_left, hlen, ← L.length_text bs, List.drop_left]
  induction bs with
  | nil => rw [List.length_nil, Nat.zero_add]; rfl
  | cons b bs ih =>
    have hrest := ih (by rw [List.length_append, length_text]; omega)
      (by rw [length_text, List.length_map])
    rw [List.length_cons, Nat.add_right_comm, text_cons, List.append_assoc, eachBlock,
      L.read_write, L.drop_write, hrest, List.map_cons, text_cons, List.append_assoc]

end Layout

/-! ## Chains -/

section Chain

variable {β : Type v} (mask : β → β → β) {e d : β → β}

/-- Each block is masked with what was made of the one before it. -/
def chain (e : β → β) : (previous : β) → List β → List β
  | _, [] => []
  | previous, b :: bs => e (mask b previous) :: chain e (e (mask b previous)) bs

/-- The way back: each block is unmasked with the one before it. -/
def unchain (d : β → β) : (previous : β) → List β → List β
  | _, [] => []
  | previous, b :: bs => mask (d b) previous :: unchain d b bs

@[simp] theorem length_chain (previous : β) (bs : List β) :
    (chain mask e previous bs).length = bs.length := by
  induction bs generalizing previous with
  | nil => rfl
  | cons b bs ih => rw [chain, List.length_cons, ih, List.length_cons]

@[simp] theorem length_unchain (previous : β) (bs : List β) :
    (unchain mask d previous bs).length = bs.length := by
  induction bs generalizing previous with
  | nil => rfl
  | cons b bs ih => rw [unchain, List.length_cons, ih, List.length_cons]

/-- **A chain is undone** by what undoes its steps. -/
theorem unchain_chain (hmask : ∀ k, Function.Involutive fun b => mask b k)
    (hd : Function.LeftInverse d e) (previous : β) (bs : List β) :
    unchain mask d previous (chain mask e previous bs) = bs := by
  induction bs generalizing previous with
  | nil => rfl
  | cons b bs ih =>
    have hunmask := hmask previous b
    rw [chain, unchain, hd, ih]
    exact congrArg (· :: bs) hunmask

/-- **A chain is undone from the back as well**: the last block needs the one before
it, and no other. -/
theorem unchain_concat (first : β) (bs : List β) (b : β) :
    unchain mask d first (bs ++ [b])
      = unchain mask d first bs ++ [mask (d b) ((first :: bs).getLast (by simp))] := by
  induction bs generalizing first with
  | nil => rfl
  | cons c bs ih => rw [List.cons_append, unchain, ih, unchain, List.getLast_cons_cons]; rfl

/-- Block by block: what a block is undone to is told by the block and the one before
it. -/
theorem getElem?_unchain {first b k : β} {bs : List β} {i : ℕ} (hb : bs[i]? = some b)
    (hk : (first :: bs)[i]? = some k) :
    (unchain mask d first bs)[i]? = some (mask (d b) k) := by
  induction bs generalizing first i with
  | nil => cases hb
  | cons c bs ih =>
    cases i with
    | zero =>
      simp only [List.getElem?_cons_zero, Option.some.injEq] at hb hk
      rw [hb, hk, unchain, List.getElem?_cons_zero]
    | succ i =>
      rw [List.getElem?_cons_succ] at hb hk
      rw [unchain, List.getElem?_cons_succ]
      exact ih hb hk

end Chain

end ServiceServer.Lib
