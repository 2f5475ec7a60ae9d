import Mathlib.Data.List.TakeWhile

/-!
# Escaped texts and their words

Some characters have a name, and stand in an escaped text as the name between two marks, like `&amp;`. The opening mark has a name
itself, which is why `unescape` undoes `escape`. A text is cut into words at its blanks; every word carries whether a blank stands
in front of it, and a text that ends in blanks ends in an empty word. Escaping cuts no word and joins none.
-/

namespace Text

variable {α : Type*}

/-- The characters that are not written as they are, and their names. -/
structure Names (α : Type*) where
  mark : α
  stop : α
  name : α → Option (List α)
  value : List α → Option α
  name_mark : name mark ≠ none
  stop_not_mem : ∀ {c n}, name c = some n → stop ∉ n
  value_name : ∀ {c n}, name c = some n → value n = some c

variable (e : Names α) (blank : α → Bool)

/-- A character as it is written. -/
def Names.code (c : α) : List α := (e.name c).elim [c] fun n => e.mark :: (n ++ [e.stop])

def Names.escape (s : List α) : List α := s.flatMap e.code

/-- What an escaped text says, given what has been read of a name that is not ended yet. -/
def Names.unescape [DecidableEq α] : Option (List α) → List α → Option (List α)
  | none, [] => some []
  | some _, [] => none
  | none, c :: s => if c = e.mark then Names.unescape (some []) s else (Names.unescape none s).map (c :: ·)
  | some n, c :: s =>
    if c = e.stop then (e.value n).bind fun v => (Names.unescape none s).map (v :: ·) else Names.unescape (some (n ++ [c])) s

/-- The words of a text, given the word that has been begun and whether a blank stands in front of it. -/
def words : Bool → List α → List α → List (Bool × List α)
  | space, w, [] => if w = [] then (if space then [(true, [])] else []) else [(space, w)]
  | space, w, c :: s =>
    if blank c then (if w = [] then words true [] s else (space, w) :: words true [] s) else words space (w ++ [c]) s

/-- What comes up to the next blank. -/
def firstWord (s : List α) : List α := (s.dropWhile blank).takeWhile fun c => !blank c

section

variable {e} {c : α} {s : List α}

/-- A character without a name is written as it is. -/
theorem Names.code_of_none (h : e.name c = none) : e.code c = [c] := by
  rw [Names.code, h]
  rfl

/-- One with a name is written as the mark, the name and the stop. -/
theorem Names.code_of_some {n : List α} (h : e.name c = some n) : e.code c = e.mark :: (n ++ [e.stop]) := by
  rw [Names.code, h]
  rfl

/-- Something is written for each character. -/
theorem Names.code_ne_nil : e.code c ≠ [] := by
  rcases h : e.name c with _ | n
  · rw [Names.code_of_none h]
    exact List.cons_ne_nil _ _
  · rw [Names.code_of_some h]
    exact List.cons_ne_nil _ _

theorem Names.escape_cons : e.escape (c :: s) = e.code c ++ e.escape s := List.flatMap_cons

theorem Names.escape_concat : e.escape (s ++ [c]) = e.escape s ++ e.code c := by
  simp [Names.escape]

theorem Names.escape_eq_nil : e.escape s = [] ↔ s = [] := by
  cases s with
  | nil => exact iff_of_true rfl rfl
  | cons c s =>
    rw [Names.escape_cons]
    exact iff_of_false (fun h => Names.code_ne_nil (List.append_eq_nil_iff.mp h).1) (List.cons_ne_nil _ _)

section unescape

variable [DecidableEq α]

/-- A name is read up to its end. -/
theorem Names.unescape_name {n l : List α} (h : e.stop ∉ l) : e.unescape (some n) (l ++ e.stop :: s) =
    (e.value (n ++ l)).bind fun v => (e.unescape none s).map (v :: ·) := by
  induction l generalizing n with
  | nil => rw [List.nil_append, List.append_nil, Names.unescape, if_pos rfl]
  | cons b l ih =>
    obtain ⟨hb, hl⟩ := not_or.mp (mt List.mem_cons.mpr h)
    rw [List.cons_append, Names.unescape, if_neg (Ne.symm hb), ih hl, List.append_assoc, List.singleton_append]

/-- What is written for a character is read as that character. -/
theorem Names.unescape_code : e.unescape none (e.code c ++ s) = (e.unescape none s).map (c :: ·) := by
  rcases h : e.name c with _ | n
  · have hmark : c ≠ e.mark := fun hc => e.name_mark (hc ▸ h)
    rw [Names.code_of_none h, List.singleton_append, Names.unescape, if_neg hmark]
  · rw [Names.code_of_some h, List.cons_append, List.append_assoc, List.singleton_append, Names.unescape, if_pos rfl,
      Names.unescape_name (e.stop_not_mem h), List.nil_append, e.value_name h, Option.bind_some]

/-- So a text that was written is read back. -/
theorem Names.unescape_escape (s : List α) : e.unescape none (e.escape s) = some s := by
  induction s with
  | nil => rfl
  | cons c s ih => rw [Names.escape_cons, Names.unescape_code, ih, Option.map_some]

end unescape

end

/-! ## Words -/

section

variable {blank} {s : List α}

/-- What is no blank joins the word that has been begun. -/
theorem words_append {l : List α} (h : ∀ c ∈ l, blank c = false) (space : Bool) (w s : List α) :
    words blank space w (l ++ s) = words blank space (w ++ l) s := by
  induction l generalizing w with
  | nil => rw [List.nil_append, List.append_nil]
  | cons c l ih =>
    have hc : ¬blank c = true := by simp [h c (List.mem_cons_self ..)]
    rw [List.cons_append, words, if_neg hc, ih (fun b hb => h b (List.mem_cons_of_mem _ hb)), List.append_assoc,
      List.singleton_append]

/-- Escaping turns each word into itself escaped, where no blank has a name and no name has a blank. -/
theorem words_escape {e : Names α} (hblank : ∀ c, blank c = true → e.name c = none)
    (hcode : ∀ c, blank c = false → ∀ b ∈ e.code c, blank b = false) (space : Bool) (w s : List α) :
    words blank space (e.escape w) (e.escape s) = (words blank space w s).map fun x => (x.1, e.escape x.2) := by
  induction s generalizing space w with
  | nil =>
    have hnil : e.escape ([] : List α) = [] := rfl
    rw [hnil, words, words]
    by_cases hw : w = []
    · rw [if_pos hw, if_pos (Names.escape_eq_nil.mpr hw)]
      cases space <;> rfl
    · rw [if_neg hw, if_neg (mt Names.escape_eq_nil.mp hw)]
      rfl
  | cons c s ih =>
    rw [Names.escape_cons]
    cases hc : blank c with
    | false =>
      have hno : ¬blank c = true := by simp [hc]
      rw [words_append (hcode c hc), ← Names.escape_concat, ih, words, if_neg hno]
    | true =>
      have htail : words blank true [] (e.escape s) = (words blank true [] s).map fun x => (x.1, e.escape x.2) := ih true []
      rw [Names.code_of_none (hblank c hc), List.singleton_append, words, words, if_pos hc, if_pos hc, htail]
      by_cases hw : w = []
      · rw [if_pos hw, if_pos (Names.escape_eq_nil.mpr hw)]
      · rw [if_neg hw, if_neg (mt Names.escape_eq_nil.mp hw), List.map_cons]

/-- A word that has been begun goes on to the next blank. -/
theorem words_of_ne_nil {w : List α} (hw : w ≠ []) (space : Bool) (s : List α) :
    ∃ rest, words blank space w s = (space, w ++ s.takeWhile fun c => !blank c) :: rest := by
  induction s generalizing w with
  | nil =>
    refine ⟨[], ?_⟩
    rw [words, if_neg hw, List.takeWhile_nil, List.append_nil]
  | cons c s ih =>
    rw [words, List.takeWhile_cons]
    cases hc : blank c with
    | false =>
      obtain ⟨rest, hrest⟩ := ih (List.concat_ne_nil c w)
      refine ⟨rest, ?_⟩
      rw [if_neg Bool.false_ne_true, hrest, List.append_assoc]
      rfl
    | true =>
      refine ⟨words blank true [] s, ?_⟩
      rw [if_pos rfl, if_neg hw]
      simp

/-- Behind a blank, or in a text that is not empty, there is a first word. -/
theorem words_eq_cons {space : Bool} {s : List α} (h : space = true ∨ s ≠ []) :
    ∃ space' rest, words blank space [] s = (space', firstWord blank s) :: rest := by
  induction s generalizing space with
  | nil =>
    rcases h with rfl | h
    · exact ⟨true, [], rfl⟩
    · exact absurd rfl h
  | cons c s ih =>
    rw [words, firstWord, List.dropWhile_cons]
    cases hc : blank c with
    | false =>
      obtain ⟨rest, hrest⟩ : ∃ rest, words blank space [c] s = (space, [c] ++ s.takeWhile fun c => !blank c) :: rest :=
        words_of_ne_nil (List.cons_ne_nil c []) space s
      refine ⟨space, rest, ?_⟩
      rw [if_neg Bool.false_ne_true, List.nil_append, hrest, if_neg Bool.false_ne_true, List.takeWhile_cons, hc]
      rfl
    | true =>
      rw [if_pos rfl, if_pos rfl, if_pos rfl]
      exact ih (.inl rfl)

/-- A text is its own first word exactly if it has no blank. -/
theorem firstWord_eq_self : firstWord blank s = s ↔ ∀ c ∈ s, blank c = false := by
  constructor
  · intro h c hc
    rw [← h] at hc
    simpa using List.mem_takeWhile_imp hc
  · intro h
    have hdrop : s.dropWhile blank = s := by
      cases s with
      | nil => rfl
      | cons c s => rw [List.dropWhile_cons, h c (List.mem_cons_self ..), if_neg Bool.false_ne_true]
    rw [firstWord, hdrop, List.takeWhile_eq_self_iff]
    intro c hc
    rw [h c hc]
    rfl

end

end Text
