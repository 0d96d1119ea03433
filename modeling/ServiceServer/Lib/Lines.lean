import Mathlib.Data.List.Basic

/-!
# Lines of a text

A text is read line by line up to a separator, and lines are written with a
separator after each.  The last line of a text need not end in one.

* `getline` — one line, and what follows it; `lines` — all of them.
* `lines_eq_cons` — reading line by line yields the lines.
* `lines_unlines` — what is written from lines reads as those lines;
  `eq_of_unlines_eq` — so lines can be told from what is written of them.
* `unlines_lines` — writing the lines of a text back completes its last line.
-/

namespace ServiceServer.Lib

variable {α : Type*}

/-- Lines, each with a separator behind it. -/
def unlines (sep : α) (ls : List (List α)) : List α := ls.flatMap (· ++ [sep])

@[simp] theorem unlines_nil (sep : α) : unlines sep [] = [] := rfl

@[simp] theorem unlines_cons (sep : α) (l : List α) (ls : List (List α)) :
    unlines sep (l :: ls) = l ++ sep :: unlines sep ls := by
  simp [unlines]

variable [DecidableEq α]

/-- The elements up to the first separator, and those behind it; `none` at the end of
the text. -/
def getline (sep : α) : List α → Option (List α × List α)
  | [] => none
  | a :: s =>
    if a = sep then some ([], s)
    else
      match getline sep s with
      | none => some ([a], [])
      | some (line, rest) => some (a :: line, rest)

/-- The lines of a text. -/
def lines (sep : α) : List α → List (List α)
  | [] => []
  | a :: s =>
    if a = sep then [] :: lines sep s
    else
      match lines sep s with
      | [] => [[a]]
      | line :: rest => (a :: line) :: rest

theorem getline_eq_none_iff {sep : α} {s : List α} : getline sep s = none ↔ s = [] := by
  cases s with
  | nil => simp [getline]
  | cons a s =>
    simp only [getline]
    split_ifs
    · simp
    · cases getline sep s <;> simp

theorem lines_eq_nil_iff {sep : α} {s : List α} : lines sep s = [] ↔ s = [] := by
  cases s with
  | nil => simp [lines]
  | cons a s =>
    simp only [lines]
    split_ifs
    · simp
    · cases lines sep s <;> simp

/-- **A line that is read is the first of the lines**, and the rest of the text holds
the others. -/
theorem lines_eq_cons {sep : α} {s line rest : List α} (h : getline sep s = some (line, rest)) :
    lines sep s = line :: lines sep rest ∧ rest.length < s.length := by
  induction s generalizing line with
  | nil => simp [getline] at h
  | cons a s ih =>
    simp only [getline] at h
    by_cases ha : a = sep
    · rw [if_pos ha, Option.some.injEq, Prod.mk.injEq] at h
      obtain ⟨rfl, rfl⟩ := h
      exact ⟨by simp [lines, ha], by simp⟩
    · rw [if_neg ha] at h
      cases hs : getline sep s with
      | none =>
        obtain rfl := getline_eq_none_iff.1 hs
        simp only [hs, Option.some.injEq, Prod.mk.injEq] at h
        obtain ⟨rfl, rfl⟩ := h
        exact ⟨by simp [lines, ha], by simp⟩
      | some r =>
        obtain ⟨line', rest'⟩ := r
        simp only [hs, Option.some.injEq, Prod.mk.injEq] at h
        obtain ⟨rfl, rfl⟩ := h
        obtain ⟨hlines, hlen⟩ := ih hs
        refine ⟨by simp [lines, ha, hlines], ?_⟩
        rw [List.length_cons]
        omega

/-- The first line ends before the first separator. -/
theorem getline_eq_takeWhile {sep : α} {s line rest : List α}
    (h : getline sep s = some (line, rest)) : line = s.takeWhile (· ≠ sep) := by
  induction s generalizing line with
  | nil => simp [getline] at h
  | cons a s ih =>
    simp only [getline] at h
    by_cases ha : a = sep
    · rw [if_pos ha, Option.some.injEq, Prod.mk.injEq] at h
      simp [ha, h.1.symm]
    · rw [if_neg ha] at h
      rw [List.takeWhile_cons_of_pos (by simpa using ha)]
      cases hs : getline sep s with
      | none =>
        obtain rfl := getline_eq_none_iff.1 hs
        simp only [hs, Option.some.injEq, Prod.mk.injEq] at h
        simp [h.1.symm]
      | some r =>
        obtain ⟨line', rest'⟩ := r
        simp only [hs, Option.some.injEq, Prod.mk.injEq] at h
        obtain ⟨rfl, rfl⟩ := h
        rw [ih hs]

/-- A line holds no separator. -/
theorem sep_notMem_of_mem_lines {sep : α} {s l : List α} (hl : l ∈ lines sep s) : sep ∉ l := by
  induction s generalizing l with
  | nil => simp [lines] at hl
  | cons a s ih =>
    simp only [lines] at hl
    by_cases ha : a = sep
    · rw [if_pos ha, List.mem_cons] at hl
      rcases hl with rfl | hl
      · simp
      · exact ih hl
    · rw [if_neg ha] at hl
      cases hs : lines sep s with
      | nil =>
        rw [hs, List.mem_singleton] at hl
        subst hl
        simpa using Ne.symm ha
      | cons line rest =>
        rw [hs, List.mem_cons] at hl
        rcases hl with rfl | hl
        · rw [List.mem_cons, not_or]
          exact ⟨Ne.symm ha, ih (by rw [hs]; exact List.mem_cons_self ..)⟩
        · exact ih (by rw [hs]; exact List.mem_cons_of_mem _ hl)

/-- A line written before a text is the first line of the whole. -/
theorem lines_append_cons {sep : α} {l : List α} (hl : sep ∉ l) (s : List α) :
    lines sep (l ++ sep :: s) = l :: lines sep s := by
  induction l with
  | nil => simp [lines]
  | cons a l ih =>
    rw [List.mem_cons, not_or] at hl
    simp [lines, Ne.symm hl.1, ih hl.2]

/-- **What is written from lines reads as those lines.** -/
theorem lines_unlines {sep : α} {ls : List (List α)} (h : ∀ l ∈ ls, sep ∉ l) :
    lines sep (unlines sep ls) = ls := by
  induction ls with
  | nil => rfl
  | cons l ls ih =>
    rw [unlines_cons, lines_append_cons (h l (List.mem_cons_self ..)),
      ih fun x hx => h x (List.mem_cons_of_mem _ hx)]

/-- Lines can be told from what is written of them. -/
theorem eq_of_unlines_eq {sep : α} {ls ls' : List (List α)} (h : ∀ l ∈ ls, sep ∉ l)
    (h' : ∀ l ∈ ls', sep ∉ l) (heq : unlines sep ls = unlines sep ls') : ls = ls' := by
  rw [← lines_unlines h, heq, lines_unlines h']

/-- Does the last line of a text lack its separator? -/
def LastLineOpen (sep : α) (s : List α) : Prop := s ≠ [] ∧ s.getLast? ≠ some sep

instance (sep : α) (s : List α) : Decidable (LastLineOpen sep s) :=
  inferInstanceAs (Decidable (_ ∧ _))

/-- **Writing the lines of a text back completes its last line**, and changes nothing
else. -/
theorem unlines_lines (sep : α) (s : List α) :
    unlines sep (lines sep s) = s ++ if LastLineOpen sep s then [sep] else [] := by
  induction s with
  | nil => simp [lines, LastLineOpen]
  | cons a s ih =>
    cases s with
    | nil =>
      by_cases ha : a = sep
      · simp [lines, LastLineOpen, ha]
      · simp [lines, LastLineOpen, ha]
    | cons b s =>
      have hopen : LastLineOpen sep (a :: b :: s) ↔ LastLineOpen sep (b :: s) := by
        simp [LastLineOpen]
      simp only [hopen]
      by_cases ha : a = sep
      · rw [lines, if_pos ha, unlines_cons, ih, List.nil_append, ha]
        rfl
      · rw [lines, if_neg ha]
        cases hs : lines sep (b :: s) with
        | nil => simp [lines_eq_nil_iff] at hs
        | cons line rest =>
          rw [hs] at ih
          rw [List.cons_append, ← ih]
          simp

end ServiceServer.Lib
