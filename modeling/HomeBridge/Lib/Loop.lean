import Mathlib.Logic.Basic

/-!
# Loops whose condition has an effect

`while( next() ) body();`, where `next` changes the state, also when it ends the loop. `Ends` is a run of such a loop that comes to its
end, with the states `next` has let into the body; `turns` goes through it with a bound on the turns. A variant that every turn makes
smaller gives a run that ends, and the bound does not matter once it is above the number of turns.
-/

namespace Loop

variable {σ : Type*} (next : σ → Bool × σ) (body : σ → σ)

/-- A run of the loop that ends: the states let into the body, and the state it ends in. -/
inductive Ends : σ → List σ → σ → Prop
  | done {s s' : σ} : next s = (false, s') → Ends s [] s'
  | turn {s s₁ s' : σ} {l : List σ} : next s = (true, s₁) → Ends (body s₁) l s' → Ends s (s₁ :: l) s'

/-- The loop, stopped after `n` turns. -/
def turns : Nat → σ → σ
  | 0, s => s
  | n + 1, s =>
    match next s with
    | (true, s) => turns n (body s)
    | (false, s) => s

variable {next body}

/-- A state has one run. -/
theorem Ends.unique {s s' t' : σ} {l k : List σ} (h : Ends next body s l s') (h' : Ends next body s k t') : l = k ∧ s' = t' := by
  induction h generalizing k with
  | done hn =>
    cases h' with
    | done hn' => exact ⟨rfl, (Prod.mk.inj (hn.symm.trans hn')).2⟩
    | turn hn' _ => exact absurd (Prod.mk.inj (hn.symm.trans hn')).1 Bool.false_ne_true
  | turn hn _ ih =>
    cases h' with
    | done hn' => exact absurd (Prod.mk.inj (hn'.symm.trans hn)).1 Bool.false_ne_true
    | turn hn' hb =>
      obtain ⟨_, rfl⟩ := Prod.mk.inj (hn.symm.trans hn')
      obtain ⟨rfl, rfl⟩ := ih hb
      exact ⟨rfl, rfl⟩

/-- A loop with a variant ends, and after as many turns at most. -/
theorem ends_of_variant (m : σ → Nat) (hm : ∀ s s₁, next s = (true, s₁) → m (body s₁) < m s) :
    ∀ {n : Nat} {s : σ}, m s ≤ n → ∃ l s', Ends next body s l s' ∧ l.length ≤ n := by
  intro n
  induction n with
  | zero =>
    intro s hs
    rcases hn : next s with ⟨_ | _, s₁⟩
    · exact ⟨[], s₁, .done hn, Nat.le_refl 0⟩
    · exact absurd (hm s s₁ hn) (by omega)
  | succ n ih =>
    intro s hs
    rcases hn : next s with ⟨_ | _, s₁⟩
    · exact ⟨[], s₁, .done hn, Nat.zero_le _⟩
    · have hlt := hm s s₁ hn
      obtain ⟨l, s', h, hl⟩ := ih (s := body s₁) (by omega)
      exact ⟨s₁ :: l, s', .turn hn h, Nat.succ_le_succ hl⟩

/-- A bound above the number of turns does not cut the loop short. -/
theorem Ends.turns_eq {s s' : σ} {l : List σ} (h : Ends next body s l s') : ∀ {n : Nat}, l.length < n → turns next body n s = s' := by
  induction h with
  | done hn =>
    intro n hl
    obtain ⟨n, rfl⟩ := Nat.exists_eq_add_of_lt hl
    rw [turns, hn]
  | turn hn _ ih =>
    intro n hl
    cases n with
    | zero => exact absurd hl (Nat.not_lt_zero _)
    | succ n =>
      rw [turns, hn]
      exact ih (Nat.lt_of_succ_lt_succ hl)

end Loop
