import Mathlib.Data.List.Basic

/-!
# Scanning a text by a format

`sscanf` with two kinds of directives: a character the text must go on with, and a scan set with a field width, which takes as many of
its characters as there are, but no more than the width, and at least one. The fields are what the scan sets took, up to the first
directive that does not match.
-/

namespace Scan

variable {α : Type*} [DecidableEq α]

inductive Directive (α : Type*) where
  | char (c : α)
  | set (accepts : α → Bool) (width : Nat)

def sscanf : List (Directive α) → List α → List (List α)
  | [], _ => []
  | .char c :: format, a :: s => if a = c then sscanf format s else []
  | .char _ :: _, [] => []
  | .set accepts width :: format, s =>
    let field := (s.takeWhile accepts).take width
    if field = [] then [] else field :: sscanf format (s.drop field.length)

variable {format : List (Directive α)} {accepts : α → Bool} {width : Nat} {l s : List α}

/-- Characters that the text does go on with. -/
theorem sscanf_chars : ∀ {l : List α}, sscanf (l.map .char ++ format) (l ++ s) = sscanf format s := by
  intro l
  induction l with
  | nil => rfl
  | cons c l ih =>
    rw [List.map_cons, List.cons_append, List.cons_append, sscanf, if_pos rfl, ih]

/-- A scan set, where the text goes on with `l` of its characters and then with another. -/
theorem sscanf_set (hl : ∀ c ∈ l, accepts c = true) (hs : s.takeWhile accepts = []) : sscanf (.set accepts width :: format) (l ++ s) =
    if l.take width = [] then [] else l.take width :: sscanf format (l.drop width ++ s) := by
  have hfield : (l ++ s).takeWhile accepts = l := by rw [List.takeWhile_append_of_pos hl, hs, List.append_nil]
  rw [sscanf, hfield]
  by_cases h : l.take width = []
  · rw [if_pos h, if_pos h]
  · rw [if_neg h, if_neg h, List.length_take]
    congr 2
    rcases Nat.le_total width l.length with hle | hle
    · rw [Nat.min_eq_left hle, List.drop_append_of_le_length hle]
    · rw [Nat.min_eq_right hle, List.drop_left, List.drop_of_length_le hle, List.nil_append]

/-- It takes what fits in the width. -/
theorem sscanf_set_fits (hl : ∀ c ∈ l, accepts c = true) (hs : s.takeWhile accepts = []) (hne : l ≠ []) (hle : l.length ≤ width) :
    sscanf (.set accepts width :: format) (l ++ s) = l :: sscanf format s := by
  rw [sscanf_set hl hs, List.take_of_length_le hle, if_neg hne, List.drop_of_length_le hle, List.nil_append]

end Scan
