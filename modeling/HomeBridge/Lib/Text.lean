import Mathlib.Data.List.Basic

/-!
# Cutting texts

A text is a list of characters of any type. `strtok` is the C function for one delimiter: it skips delimiters, takes what comes up to the
next one, and leaves the rest behind that for the next call.
-/

namespace Text

variable {α : Type*} [DecidableEq α] {c : α}

/-- The next token and the text behind its delimiter; nothing where only delimiters are left. -/
def strtok (c : α) (s : List α) : Option (List α × List α) :=
  match s.dropWhile (· == c) with
  | [] => none
  | b :: s => some (b :: s.takeWhile (· != c), (s.dropWhile (· != c)).drop 1)

/-- Up to the first delimiter everything is taken. -/
theorem takeWhile_append_cons {l r : List α} (h : c ∉ l) : (l ++ c :: r).takeWhile (· != c) = l := by
  have hl : ∀ b ∈ l, (b != c) = true := fun b hb => bne_iff_ne.mpr fun he => h (he ▸ hb)
  rw [List.takeWhile_append_of_pos hl, List.takeWhile_cons, if_neg (by simp), List.append_nil]

theorem dropWhile_append_cons {l r : List α} (h : c ∉ l) : (l ++ c :: r).dropWhile (· != c) = c :: r := by
  have hl : ∀ b ∈ l, (b != c) = true := fun b hb => bne_iff_ne.mpr fun he => h (he ▸ hb)
  rw [List.dropWhile_append_of_pos hl, List.dropWhile_cons, if_neg (by simp)]

/-- A token is what stands in front of its delimiter. -/
theorem strtok_append {b : α} {l r : List α} (h : c ∉ b :: l) : strtok c (b :: l ++ c :: r) = some (b :: l, r) := by
  obtain ⟨hb, hl⟩ := not_or.mp (mt List.mem_cons.mpr h)
  have hskip : (b :: l ++ c :: r).dropWhile (· == c) = b :: (l ++ c :: r) := by
    rw [List.cons_append, List.dropWhile_cons, if_neg (by simpa using Ne.symm hb)]
  rw [strtok, hskip]
  simp only [takeWhile_append_cons hl, dropWhile_append_cons hl, List.drop_succ_cons, List.drop_zero]

end Text
