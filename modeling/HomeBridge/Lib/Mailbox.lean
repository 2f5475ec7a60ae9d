import HomeBridge.Lib.Run

/-!
# A mailbox with one place

What is put into a one-place mailbox must be taken before the next is put: `step` has no result for a put into a full box, for
a take from an empty one, and for a take of something else than what is there. A history the box can run through (`run step`) is
one where every message is taken exactly once before the next one arrives.
-/

namespace Mailbox

open Runs

/-- What happens at a mailbox. -/
inductive Event (α : Type*) where
  | put (a : α)
  | take (a : α)
  deriving DecidableEq, Repr

variable {α : Type*} [DecidableEq α]

/-- One event at a box that is empty (`none`) or full. -/
def step : Option α → Event α → Option (Option α)
  | none, .put a => some (some a)
  | some a, .take b => if a = b then some none else none
  | none, .take _ => none
  | some _, .put _ => none

@[simp] theorem step_take {a : α} : step (some a) (.take a) = some none := if_pos rfl

/-- A full box that no put reaches is left alone, or emptied by the one take of what it holds. -/
theorem run_full {a : α} {es : List (Event α)} {st : Option α} (h : run step (some a) es = some st)
    (hno : ∀ b, .put b ∉ es) : es = [] ∨ es = [.take a] := by
  cases es with
  | nil => exact .inl rfl
  | cons e es =>
    obtain ⟨s', h1, h2⟩ := run_cons_eq_some.mp h
    cases e with
    | put b => exact absurd (List.mem_cons_self ..) (hno b)
    | take b =>
      simp only [step, Option.ite_none_right_eq_some, Option.some.injEq] at h1
      obtain ⟨rfl, rfl⟩ := h1
      cases es with
      | nil => exact .inr rfl
      | cons e es =>
        obtain ⟨s', h1, _⟩ := run_cons_eq_some.mp h2
        cases e with
        | put b => exact absurd (List.mem_cons_of_mem _ (List.mem_cons_self ..)) (hno b)
        | take b => cases h1

/-- Where a put stands in a history, the box was empty before it and is full after it. -/
theorem run_put {s st : Option α} {a : α} {l₁ l₂ : List (Event α)} (h : run step s (l₁ ++ .put a :: l₂) = some st) :
    run step s l₁ = some none ∧ run step (some a) l₂ = some st := by
  obtain ⟨s', s'', h1, h3, h4⟩ := run_split h
  cases s' with
  | none =>
    cases h3
    exact ⟨h1, h4⟩
  | some b => cases h3

/-- After the last put there is at most one take, of what was put. -/
theorem after_put {s st : Option α} {a : α} {l₁ l₂ : List (Event α)} (h : run step s (l₁ ++ .put a :: l₂) = some st)
    (hno : ∀ b, .put b ∉ l₂) : l₂ = [] ∨ l₂ = [.take a] :=
  run_full (run_put h).2 hno

/-- Between two successive puts there is exactly one take, of what the first one put. -/
theorem between_puts {s st : Option α} {a b : α} {l₁ l₂ l₃ : List (Event α)}
    (h : run step s (l₁ ++ .put a :: (l₂ ++ .put b :: l₃)) = some st) (hno : ∀ c, .put c ∉ l₂) : l₂ = [.take a] := by
  have h2 := (run_put (run_put h).2).1
  rcases run_full h2 hno with rfl | rfl
  · cases h2
  · rfl

/-- Nothing is taken from an empty box before the first put. -/
theorem before_put {st : Option α} {es : List (Event α)} (h : run step none es = some st) (hno : ∀ b, .put b ∉ es) :
    es = [] := by
  cases es with
  | nil => rfl
  | cons e es =>
    obtain ⟨s', h1, _⟩ := run_cons_eq_some.mp h
    cases e with
    | put b => exact absurd (List.mem_cons_self ..) (hno b)
    | take b => cases h1

/-- One more event at the end of a history. -/
theorem run_concat {s : Option α} {es : List (Event α)} {e : Event α} {s' : Option α} (h : run step s es = some s') :
    run step s (es ++ [e]) = step s' e := by
  rw [run_append, h, Option.bind_some, run_cons]
  cases step s' e <;> rfl

end Mailbox
