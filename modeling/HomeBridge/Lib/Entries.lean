import Mathlib.Data.List.Nodup
import HomeBridge.Lib.Run

/-!
# Loops that treat every entry for itself

A loop goes through the entries of a state, and what is read of entry `i` is changed by the step for `i` and by no other. Then the loop
does to entry `i` what that one step does, and what the step emits is emitted. Where the entries are flags, one of them is set or cleared at
a time.
-/

namespace Entries

open Runs

variable {σ ι β ε : Type*} {r : σ → β} {i : ι}

/-- A loop that does not come to the entry leaves it as it is. -/
theorem foldl_of_not_mem {f : σ → ι → σ} (hne : ∀ s j, j ≠ i → r (f s j) = r s) :
    ∀ {is : List ι} {s : σ}, i ∉ is → r (is.foldl f s) = r s := by
  intro is
  induction is with
  | nil =>
    intro s _
    rfl
  | cons j is ih =>
    intro s h
    obtain ⟨hj, his⟩ := not_or.mp (mt List.mem_cons.mpr h)
    rw [List.foldl_cons, ih his, hne s j (Ne.symm hj)]

/-- A loop that comes to the entry once does to it what its step does. -/
theorem foldl_of_mem {f : σ → ι → σ} {g : β → β} (hself : ∀ s, r (f s i) = g (r s))
    (hne : ∀ s j, j ≠ i → r (f s j) = r s) :
    ∀ {is : List ι} {s : σ}, is.Nodup → i ∈ is → r (is.foldl f s) = g (r s) := by
  intro is
  induction is with
  | nil => exact fun _ => nofun
  | cons j is ih =>
    intro s hn h
    obtain ⟨hj, hn⟩ := List.nodup_cons.mp hn
    rw [List.foldl_cons]
    by_cases hij : i = j
    · subst hij
      rw [foldl_of_not_mem hne hj, hself]
    · rw [ih hn ((List.mem_cons.mp h).resolve_left hij), hne s j (Ne.symm hij)]

/-- A loop emits what the step for the entry emits on the state the loop starts in, where that depends on the entry alone. -/
theorem mem_trace_of_mem {f : σ → ι → σ × List ε} (hemit : ∀ s s', r s = r s' → (f s i).2 = (f s' i).2)
    (hne : ∀ s j, j ≠ i → r (f s j).1 = r s) {e : ε} :
    ∀ {is : List ι} {s : σ}, i ∈ is → e ∈ (f s i).2 → e ∈ trace f s is := by
  intro is
  induction is with
  | nil => exact nofun
  | cons j is ih =>
    intro s h he
    rw [trace]
    by_cases hij : i = j
    · subst hij
      exact List.mem_append_left _ he
    · refine List.mem_append_right _ (ih ((List.mem_cons.mp h).resolve_left hij) ?_)
      rwa [hemit _ _ (hne s j (Ne.symm hij))]

/-! ## Flags -/

section flag

variable [DecidableEq ι] {f g : ι → Bool} {j : ι}

/-- Which flags are set after one has been set or cleared. -/
theorem update_true (h : Function.update f i true j = true) : j = i ∨ j ≠ i ∧ f j = true := by
  by_cases hj : j = i
  · exact .inl hj
  · rw [Function.update_of_ne hj] at h
    exact .inr ⟨hj, h⟩

theorem update_false (h : Function.update f i false j = true) : j ≠ i ∧ f j = true := by
  by_cases hj : j = i
  · subst hj
    rw [Function.update_self] at h
    cases h
  · rw [Function.update_of_ne hj] at h
    exact ⟨hj, h⟩

/-- Flags that come with others still do when both are changed alike. -/
theorem update_imp {b : Bool} (hfg : f j = true → g j = true) (h : Function.update f i b j = true) : Function.update g i b j = true := by
  by_cases hj : j = i
  · subst hj
    rwa [Function.update_self] at h ⊢
  · rw [Function.update_of_ne hj] at h ⊢
    exact hfg h

end flag

end Entries
