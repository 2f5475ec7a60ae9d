import Mathlib.Data.List.Nodup
import Mathlib.Data.List.Perm.Subperm
import Mathlib.Logic.Function.Basic

/-!
# Doubly linked lists, as the macros of `utlist` keep them

The nodes of a list are in memory, each with the address of the next one and of the one before; the first has the address of the last
in place of one before. The macros follow these addresses, whatever they lead to: where one leads to no node there is no defined result.

`Path` says what a walk along a list comes to, `Seg` what the list is like in both directions.
-/

namespace Utlist

/-- A node, with what a program keeps in it. -/
structure Node (α : Type) where
  data : α
  next : Option Nat
  prev : Option Nat

/-- The nodes by their addresses, `none` where there is no node, or none any more. -/
abbrev Heap (α : Type) : Type := Nat → Option (Node α)

variable {α : Type}

def Heap.setNext (m : Heap α) (a : Nat) (next : Option Nat) : Option (Heap α) :=
  (m a).map fun n => Function.update m a (some { n with next })

def Heap.setPrev (m : Heap α) (a : Nat) (prev : Option Nat) : Option (Heap α) :=
  (m a).map fun n => Function.update m a (some { n with prev })

/-- What a walk sees of a node. -/
def Heap.seen (m : Heap α) (a : Nat) : Option (α × Option Nat) := (m a).map fun n => (n.data, n.next)

/-- What is kept in a node. -/
def Heap.data (m : Heap α) (a : Nat) : Option α := (m a).map Node.data

/-! ## The macros -/

/-- `DL_APPEND`: the memory and the head. -/
def DL_APPEND (m : Heap α) (head : Option Nat) (add : Nat) : Option (Heap α × Option Nat) :=
  match head with
  | some h => do
    let first ← m h
    let m ← m.setPrev add first.prev
    let first ← m h
    let last ← first.prev
    let m ← m.setNext last (some add)
    let m ← m.setPrev h (some add)
    let m ← m.setNext add none
    pure (m, some h)
  | none => do
    let m ← m.setPrev add (some add)
    let m ← m.setNext add none
    pure (m, some add)

/-- `DL_DELETE`: the memory and the head. It asserts that the node has one before it. -/
def DL_DELETE (m : Heap α) (head : Option Nat) (del : Nat) : Option (Heap α × Option Nat) := do
  let n ← m del
  let prev ← n.prev
  if prev = del then pure (m, none)
  else if head = some del then
    let next ← n.next
    let m ← m.setPrev next (some prev)
    pure (m, some next)
  else
    let m ← m.setNext prev n.next
    let after ← n.next <|> head
    let m ← m.setPrev after (some prev)
    pure (m, head)

/-- `DL_SEARCH`: the first node the test accepts. The fuel is a number of nodes. -/
def DL_SEARCH (m : Heap α) (test : α → Option Bool) : Nat → Option Nat → Option (Option Nat)
  | _, none => some none
  | 0, some _ => none
  | fuel + 1, some a =>
    (m a).bind fun n => (test n.data).bind fun found => if found then some (some a) else DL_SEARCH m test fuel n.next

/-- `DL_FOREACH`: the nodes come to, with their data. -/
def DL_FOREACH (m : Heap α) : Nat → Option Nat → Option (List (Nat × α))
  | _, none => some []
  | 0, some _ => none
  | fuel + 1, some a => (m a).bind fun n => (DL_FOREACH m fuel n.next).map ((a, n.data) :: ·)

/-! ## Walks -/

/-- From `h` the nodes `l` are come to, one after the other, and then the end. -/
def Path (m : Heap α) : Option Nat → List (Nat × α) → Prop
  | h, [] => h = none
  | h, (a, x) :: l => h = some a ∧ ∃ n, m a = some n ∧ n.data = x ∧ Path m n.next l

section

variable {m m' : Heap α} {h : Option Nat} {l l' : List (Nat × α)}

/-- There is one walk from each place. -/
theorem Path.unique : ∀ {l l' : List (Nat × α)} {h : Option Nat}, Path m h l → Path m h l' → l = l' := by
  intro l
  induction l with
  | nil =>
    rintro l' h rfl hl'
    cases l' with
    | nil => rfl
    | cons b l' => exact absurd hl'.1.symm (Option.some_ne_none _)
  | cons b l ih =>
    rintro l' h ⟨rfl, n, hn, hx, hl⟩ hl'
    cases l' with
    | nil => exact absurd hl' (Option.some_ne_none _)
    | cons b' l' =>
      obtain ⟨a, x⟩ := b
      obtain ⟨a', x'⟩ := b'
      obtain ⟨ha, n', hn', hx', hl'⟩ := hl'
      obtain rfl := Option.some.inj ha
      obtain rfl := Option.some.inj (hn.symm.trans hn')
      rw [ih hl hl', show x = x' from hx.symm.trans hx']

/-- It begins with the first of its nodes. -/
theorem Path.head_eq (hl : Path m h l) : h = l.head?.map Prod.fst := by
  cases l with
  | nil => exact hl
  | cons b l => exact hl.1

/-- A later part of a walk is a walk. -/
theorem Path.suffix {b : Nat × α} : ∀ {before after : List (Nat × α)} {h : Option Nat}, Path m h (before ++ b :: after) →
    Path m (some b.1) (b :: after) := by
  intro before
  induction before with
  | nil =>
    rintro after h ⟨rfl, hn⟩
    exact ⟨rfl, hn⟩
  | cons c before ih =>
    rintro after h ⟨_, n, _, _, hl⟩
    exact ih hl

/-- A walk that ends comes to no node twice. -/
theorem Path.nodup : ∀ {l : List (Nat × α)} {h : Option Nat}, Path m h l → (l.map Prod.fst).Nodup := by
  intro l
  induction l with
  | nil => exact fun _ => List.nodup_nil
  | cons b l ih =>
    intro h hl
    obtain ⟨_, n, hn, hx, hrest⟩ := hl
    have hself : Path m (some b.1) (b :: l) := ⟨rfl, n, hn, hx, hrest⟩
    refine List.nodup_cons.mpr ⟨fun hmem => ?_, ih hrest⟩
    obtain ⟨c, hc, hcb⟩ := List.mem_map.mp hmem
    obtain ⟨before, after, rfl⟩ := List.append_of_mem hc
    -- from the second visit on the walk would be as long as from the first
    have hagain : Path m (some b.1) (c :: after) := hcb ▸ hrest.suffix
    have hlen := congrArg List.length (hself.unique hagain)
    simp only [List.length_cons, List.length_append] at hlen
    omega

/-- `DL_FOREACH` goes along a walk. -/
theorem path_of_foreach : ∀ {fuel : Nat} {l : List (Nat × α)} {h : Option Nat}, DL_FOREACH m fuel h = some l → Path m h l := by
  intro fuel
  induction fuel with
  | zero =>
    intro l h he
    cases h with
    | none => exact Option.some.inj he ▸ rfl
    | some a => exact absurd he.symm (Option.some_ne_none l)
  | succ fuel ih =>
    intro l h he
    cases h with
    | none => exact Option.some.inj he ▸ rfl
    | some a =>
      obtain ⟨n, hn, he⟩ := Option.bind_eq_some_iff.mp he
      obtain ⟨rest, hrest, rfl⟩ := Option.map_eq_some_iff.mp he
      exact ⟨rfl, n, hn, rfl, ih hrest⟩

/-- It comes to the end of a walk that has one, with fuel for its nodes. -/
theorem Path.foreach : ∀ {l : List (Nat × α)} {h : Option Nat} {fuel : Nat}, Path m h l → l.length ≤ fuel →
    DL_FOREACH m fuel h = some l := by
  intro l
  induction l with
  | nil =>
    rintro h fuel rfl -
    cases fuel <;> rfl
  | cons b l ih =>
    rintro h fuel ⟨rfl, n, hn, hx, hl⟩ hfuel
    cases fuel with
    | zero => exact absurd hfuel (Nat.not_succ_le_zero _)
    | succ fuel =>
      rw [DL_FOREACH, hn, Option.bind_some, ih hl (Nat.le_of_succ_le_succ hfuel), hx]
      rfl

/-- `DL_SEARCH` gives the first node of a walk whose data the test accepts. -/
theorem Path.search {test : α → Option Bool} {p : α → Bool} : ∀ {l : List (Nat × α)} {h : Option Nat} {fuel : Nat}, Path m h l →
    (∀ b ∈ l, test b.2 = some (p b.2)) → l.length ≤ fuel →
    DL_SEARCH m test fuel h = some ((l.find? fun b => p b.2).map Prod.fst) := by
  intro l
  induction l with
  | nil =>
    rintro h fuel rfl - -
    cases fuel <;> rfl
  | cons b l ih =>
    rintro h fuel ⟨rfl, n, hn, hx, hl⟩ htest hfuel
    cases fuel with
    | zero => exact absurd hfuel (Nat.not_succ_le_zero _)
    | succ fuel =>
      rw [DL_SEARCH, hn, Option.bind_some, hx, htest b (List.mem_cons_self ..), Option.bind_some, List.find?_cons]
      cases p b.2 with
      | true => rfl
      | false => exact ih hl (fun c hc => htest c (List.mem_cons_of_mem _ hc)) (Nat.le_of_succ_le_succ hfuel)

/-- What it comes to is a node. -/
theorem Path.isNode {a : Nat} : ∀ {l : List (Nat × α)} {h : Option Nat}, Path m h l → a ∈ l.map Prod.fst → m a ≠ none := by
  intro l
  induction l with
  | nil => exact fun _ ha => absurd ha List.not_mem_nil
  | cons b l ih =>
    rintro h ⟨_, n, hn, _, hl⟩ ha
    rcases List.mem_cons.mp ha with rfl | ha
    · exact fun hno => Option.some_ne_none n (hn.symm.trans hno)
    · exact ih hl ha

/-- Where all nodes have addresses below `bound`, that much fuel is enough. -/
theorem Path.length_le {bound : Nat} (hl : Path m h l) (hbound : ∀ a, bound ≤ a → m a = none) : l.length ≤ bound := by
  have hlt : l.map Prod.fst ⊆ List.range bound := by
    intro a ha
    rw [List.mem_range]
    by_contra hge
    exact hl.isNode ha (hbound a (Nat.le_of_not_lt hge))
  have hsub := (List.subperm_of_subset hl.nodup hlt).length_le
  rwa [List.length_map, List.length_range] at hsub

/-- A walk sees no node but those it comes to, and of them no `prev`. -/
theorem Path.congr : ∀ {l : List (Nat × α)} {h : Option Nat}, (∀ a ∈ l.map Prod.fst, m'.seen a = m.seen a) → Path m h l →
    Path m' h l := by
  intro l
  induction l with
  | nil => exact fun _ hl => hl
  | cons b l ih =>
    rintro h hsame ⟨rfl, n, hn, hx, hl⟩
    have hb := hsame b.1 (List.mem_cons_self ..)
    rw [Heap.seen, Heap.seen, hn] at hb
    obtain ⟨n', hn', he⟩ := Option.map_eq_some_iff.mp hb
    obtain ⟨hdata, hnext⟩ := Prod.mk.inj he
    exact ⟨rfl, n', hn', hdata.trans hx, hnext ▸ ih (fun a ha => hsame a (List.mem_cons_of_mem _ ha)) hl⟩

/-! ## What the macros leave alone -/

theorem setNext_eq_some {a : Nat} {next : Option Nat} (hm : m.setNext a next = some m') :
    (∀ b, b ≠ a → m' b = m b) ∧ ∀ b, m'.data b = m.data b := by
  obtain ⟨n, hn, rfl⟩ := Option.map_eq_some_iff.mp hm
  refine ⟨fun b hb => Function.update_of_ne hb .., fun b => ?_⟩
  by_cases hb : b = a
  · rw [hb, Heap.data, Heap.data, hn, Function.update_self]
    rfl
  · rw [Heap.data, Heap.data, Function.update_of_ne hb]

theorem setPrev_eq_some {a : Nat} {prev : Option Nat} (hm : m.setPrev a prev = some m') :
    (∀ b, b ≠ a → m' b = m b) ∧ ∀ b, m'.seen b = m.seen b := by
  obtain ⟨n, hn, rfl⟩ := Option.map_eq_some_iff.mp hm
  refine ⟨fun b hb => Function.update_of_ne hb .., fun b => ?_⟩
  by_cases hb : b = a
  · rw [hb, Heap.seen, Heap.seen, hn, Function.update_self]
    rfl
  · rw [Heap.seen, Heap.seen, Function.update_of_ne hb]

theorem data_of_seen (h : ∀ b, m'.seen b = m.seen b) (b : Nat) : m'.data b = m.data b := by
  have hdata (m : Heap α) : m.data b = (m.seen b).map Prod.fst := by
    rw [Heap.data, Heap.seen, Option.map_map]
    rfl
  rw [hdata, hdata, h]

theorem seen_of_eq {b : Nat} (h : m' b = m b) : m'.seen b = m.seen b := congrArg (Option.map _) h

variable {head head' : Option Nat}

/-- `DL_APPEND` links the new node and the one that was the last, and no others. -/
theorem append_leaves {add : Nat} (happ : DL_APPEND m head add = some (m', head')) : (∀ b, m'.data b = m.data b) ∧
    ∀ b, b ≠ add → (∀ a first, head = some a → m a = some first → first.prev ≠ some b) → m'.seen b = m.seen b := by
  cases head with
  | none =>
    obtain ⟨m₁, h₁, happ⟩ := Option.bind_eq_some_iff.mp happ
    obtain ⟨m₂, h₂, happ⟩ := Option.bind_eq_some_iff.mp happ
    cases happ
    refine ⟨fun b => ((setNext_eq_some h₂).2 b).trans (data_of_seen (setPrev_eq_some h₁).2 b), fun b hb _ => ?_⟩
    exact (seen_of_eq ((setNext_eq_some h₂).1 b hb)).trans ((setPrev_eq_some h₁).2 b)
  | some a =>
    obtain ⟨first, hfirst, happ⟩ := Option.bind_eq_some_iff.mp happ
    obtain ⟨m₁, h₁, happ⟩ := Option.bind_eq_some_iff.mp happ
    obtain ⟨first', hfirst', happ⟩ := Option.bind_eq_some_iff.mp happ
    obtain ⟨last, hlast, happ⟩ := Option.bind_eq_some_iff.mp happ
    obtain ⟨m₂, h₂, happ⟩ := Option.bind_eq_some_iff.mp happ
    obtain ⟨m₃, h₃, happ⟩ := Option.bind_eq_some_iff.mp happ
    obtain ⟨m₄, h₄, happ⟩ := Option.bind_eq_some_iff.mp happ
    cases happ
    constructor
    · intro b
      rw [(setNext_eq_some h₄).2 b, data_of_seen (setPrev_eq_some h₃).2 b, (setNext_eq_some h₂).2 b,
        data_of_seen (setPrev_eq_some h₁).2 b]
    · intro b hb hprev
      -- the first node still has the address of the last one
      have hsame : first'.prev = first.prev := by
        by_cases ha : a = add
        · obtain ⟨n, hn, rfl⟩ := Option.map_eq_some_iff.mp h₁
          rw [ha, Function.update_self] at hfirst'
          rw [← Option.some.inj hfirst']
        · rw [(setPrev_eq_some h₁).1 a ha, hfirst] at hfirst'
          rw [Option.some.inj hfirst']
      have hbl : b ≠ last := fun he => hprev a first rfl hfirst (by rw [← hsame, hlast, he])
      rw [seen_of_eq ((setNext_eq_some h₄).1 b hb), (setPrev_eq_some h₃).2 b, seen_of_eq ((setNext_eq_some h₂).1 b hbl),
        (setPrev_eq_some h₁).2 b]

/-- `DL_DELETE` links past the node, and changes what a walk sees only of the one before it. -/
theorem delete_leaves {del : Nat} (hdel : DL_DELETE m head del = some (m', head')) : (∀ b, m'.data b = m.data b) ∧
    ∀ b, (∀ n, m del = some n → n.prev ≠ some b) → m'.seen b = m.seen b := by
  obtain ⟨n, hn, hdel⟩ := Option.bind_eq_some_iff.mp hdel
  obtain ⟨prev, hprev, hdel⟩ := Option.bind_eq_some_iff.mp hdel
  by_cases hself : prev = del
  · rw [if_pos hself] at hdel
    cases hdel
    exact ⟨fun _ => rfl, fun _ _ => rfl⟩
  · rw [if_neg hself] at hdel
    by_cases hhead : head = some del
    · rw [if_pos hhead] at hdel
      obtain ⟨next, hnext, hdel⟩ := Option.bind_eq_some_iff.mp hdel
      obtain ⟨m₁, h₁, hdel⟩ := Option.bind_eq_some_iff.mp hdel
      cases hdel
      exact ⟨data_of_seen (setPrev_eq_some h₁).2, fun b _ => (setPrev_eq_some h₁).2 b⟩
    · rw [if_neg hhead] at hdel
      obtain ⟨m₁, h₁, hdel⟩ := Option.bind_eq_some_iff.mp hdel
      obtain ⟨after, hafter, hdel⟩ := Option.bind_eq_some_iff.mp hdel
      obtain ⟨m₂, h₂, hdel⟩ := Option.bind_eq_some_iff.mp hdel
      cases hdel
      refine ⟨fun b => (data_of_seen (setPrev_eq_some h₂).2 b).trans ((setNext_eq_some h₁).2 b), fun b hb => ?_⟩
      have hbp : b ≠ prev := fun he => hb n hn (by rw [hprev, he])
      rw [(setPrev_eq_some h₂).2 b, seen_of_eq ((setNext_eq_some h₁).1 b hbp)]

end

/-! ## Lists -/

theorem nodup_map_middle {β γ : Type} {f : β → γ} {b : β} {l₁ l₂ : List β} :
    ((l₁ ++ b :: l₂).map f).Nodup ↔ f b ∉ (l₁ ++ l₂).map f ∧ ((l₁ ++ l₂).map f).Nodup := by
  rw [(List.perm_middle.map f).nodup_iff, List.map_cons, List.nodup_cons]

theorem mem_map_middle {β γ : Type} {f : β → γ} {b : β} {c : γ} {l₁ l₂ : List β} :
    c ∈ (l₁ ++ b :: l₂).map f ↔ c = f b ∨ c ∈ (l₁ ++ l₂).map f := by
  rw [(List.perm_middle.map f).mem_iff, List.map_cons, List.mem_cons]

/-- From `h` the nodes `l` are come to and then `t`. The first of them has `p` for the one before it, and what comes then would have
`q`. -/
def Seg (m : Heap α) : Option Nat → Option Nat → List (Nat × α) → Option Nat → Option Nat → Prop
  | h, p, [], t, q => h = t ∧ p = q
  | h, p, (a, x) :: l, t, q => h = some a ∧ ∃ n, m a = some n ∧ n.data = x ∧ n.prev = p ∧ Seg m n.next (some a) l t q

/-- The list of a head: the first node has the last one before it. -/
def Linked (m : Heap α) (head : Option Nat) (l : List (Nat × α)) : Prop := ∃ last, Seg m head last l none last

section

variable {m m' : Heap α} {h p t q : Option Nat} {l l₁ l₂ : List (Nat × α)} {a : Nat} {x : α}

theorem seg_append : ∀ {l₁ : List (Nat × α)} {h p : Option Nat},
    Seg m h p (l₁ ++ l₂) t q ↔ ∃ h' p', Seg m h p l₁ h' p' ∧ Seg m h' p' l₂ t q := by
  intro l₁
  induction l₁ with
  | nil =>
    intro h p
    constructor
    · exact fun hs => ⟨h, p, ⟨rfl, rfl⟩, hs⟩
    · rintro ⟨_, _, ⟨rfl, rfl⟩, hs⟩
      exact hs
  | cons b l₁ ih =>
    intro h p
    constructor
    · rintro ⟨hb, n, hn, hx, hp, hs⟩
      obtain ⟨h', p', h₁, h₂⟩ := ih.mp hs
      exact ⟨h', p', ⟨hb, n, hn, hx, hp, h₁⟩, h₂⟩
    · rintro ⟨h', p', ⟨hb, n, hn, hx, hp, h₁⟩, h₂⟩
      exact ⟨hb, n, hn, hx, hp, ih.mpr ⟨h', p', h₁, h₂⟩⟩

theorem Seg.path : ∀ {l : List (Nat × α)} {h p : Option Nat}, Seg m h p l none q → Path m h l := by
  intro l
  induction l with
  | nil => exact fun hs => hs.1
  | cons b l ih =>
    rintro h p ⟨hb, n, hn, hx, _, hs⟩
    exact ⟨hb, n, hn, hx, ih hs⟩

/-- Only its nodes matter to it. -/
theorem Seg.congr : ∀ {l : List (Nat × α)} {h p : Option Nat}, (∀ b ∈ l.map Prod.fst, m' b = m b) → Seg m h p l t q →
    Seg m' h p l t q := by
  intro l
  induction l with
  | nil => exact fun _ hs => hs
  | cons b l ih =>
    rintro h p hsame ⟨hb, n, hn, hx, hp, hs⟩
    exact ⟨hb, n, (hsame b.1 (List.mem_cons_self ..)).trans hn, hx, hp, ih (fun c hc => hsame c (List.mem_cons_of_mem _ hc)) hs⟩

theorem Linked.path {head : Option Nat} (hl : Linked m head l) : Path m head l := by
  obtain ⟨last, hs⟩ := hl
  exact hs.path

theorem Linked.congr {head : Option Nat} (hl : Linked m head l) (hsame : ∀ b ∈ l.map Prod.fst, m' b = m b) : Linked m' head l := by
  obtain ⟨last, hs⟩ := hl
  exact ⟨last, hs.congr hsame⟩

/-- The first node is given another one before it. -/
theorem Seg.setPrev (hs : Seg m h p ((a, x) :: l) t q) (ha : a ∉ l.map Prod.fst) (p' : Option Nat) : h = some a ∧
    ∃ m', m.setPrev a p' = some m' ∧ Seg m' h p' ((a, x) :: l) t q ∧ ∀ b, b ≠ a → m' b = m b := by
  obtain ⟨rfl, n, hn, hx, _, hs⟩ := hs
  have hset : m.setPrev a p' = some (Function.update m a (some { n with prev := p' })) := by rw [Heap.setPrev, hn, Option.map_some]
  obtain ⟨hframe, _⟩ := setPrev_eq_some hset
  refine ⟨rfl, _, hset, ⟨rfl, _, Function.update_self .., hx, rfl, hs.congr fun b hb => hframe b ?_⟩, hframe⟩
  rintro rfl
  exact ha hb

/-- The last node is linked to something else. -/
theorem Seg.setNext (hs : Seg m h p (l ++ [(a, x)]) t q) (ha : a ∉ l.map Prod.fst) (t' : Option Nat) : q = some a ∧
    ∃ m', m.setNext a t' = some m' ∧ Seg m' h p (l ++ [(a, x)]) t' q ∧ ∀ b, b ≠ a → m' b = m b := by
  obtain ⟨h', p', h₁, rfl, n, hn, hx, hp, _, rfl⟩ := seg_append.mp hs
  have hset : m.setNext a t' = some (Function.update m a (some { n with next := t' })) := by rw [Heap.setNext, hn, Option.map_some]
  obtain ⟨hframe, _⟩ := setNext_eq_some hset
  refine ⟨rfl, _, hset, seg_append.mpr ⟨some a, p', h₁.congr fun b hb => hframe b ?_, rfl, _, Function.update_self .., hx, hp, rfl, rfl⟩,
    hframe⟩
  rintro rfl
  exact ha hb

/-- The nodes of a list are all different. -/
theorem Linked.nodup {head : Option Nat} (hl : Linked m head l) : (l.map Prod.fst).Nodup := by
  obtain ⟨last, hs⟩ := hl
  exact hs.path.nodup

/-- What comes after a list is before no node but its last one. -/
theorem Seg.last_mem : ∀ {l : List (Nat × α)} {h p : Option Nat}, Seg m h p l t q → l ≠ [] → ∃ b ∈ l.map Prod.fst, q = some b := by
  intro l
  induction l with
  | nil => exact fun _ hne => absurd rfl hne
  | cons b l ih =>
    rintro h p ⟨_, n, _, _, _, hs⟩ -
    cases l with
    | nil => exact ⟨b.1, List.mem_cons_self .., hs.2.symm⟩
    | cons c l =>
      obtain ⟨d, hd, rfl⟩ := ih hs (List.cons_ne_nil _ _)
      exact ⟨d, List.mem_cons_of_mem _ hd, rfl⟩

/-- A node that is not in the list is not the first one of it. -/
theorem head_ne (ha : a ∉ l.map Prod.fst) : l.head?.map Prod.fst ≠ some a := by
  intro he
  obtain ⟨c, hc, rfl⟩ := Option.map_eq_some_iff.mp he
  exact ha (List.mem_map_of_mem (List.mem_of_mem_head? hc))

theorem Path.head_ne {head : Option Nat} (hl : Path m head l) (ha : a ∉ l.map Prod.fst) : head ≠ some a := by
  rw [hl.head_eq]
  exact Utlist.head_ne ha

theorem delete_eq {head : Option Nat} {n : Node α} {prev : Nat} (hn : m a = some n) (hprev : n.prev = some prev) : DL_DELETE m head a =
    if prev = a then some (m, none)
    else if head = some a then n.next.bind fun next => (m.setPrev next (some prev)).bind fun m => some (m, some next)
    else (m.setNext prev n.next).bind fun m => (n.next <|> head).bind fun after => (m.setPrev after (some prev)).bind fun m =>
      some (m, head) := by
  rw [DL_DELETE, hn]
  simp only [Option.bind_eq_bind, Option.bind_some, hprev]
  rfl

/-- `DL_DELETE` of the first node. -/
theorem delete_first {head : Option Nat} (hl : Linked m head ((a, x) :: l)) : ∃ m' head', DL_DELETE m head a = some (m', head') ∧
    Linked m' head' l ∧ ∀ b, b ∉ l.map Prod.fst → m' b = m b := by
  have hnodup := List.nodup_cons.mp hl.nodup
  obtain ⟨last, rfl, n, hn, hx, hprev, hs⟩ := hl
  cases l with
  | nil =>
    rw [← hs.2] at hprev
    exact ⟨m, none, (delete_eq hn hprev).trans (if_pos rfl), ⟨none, rfl, rfl⟩, fun _ _ => rfl⟩
  | cons c l =>
    obtain ⟨b, hb, rfl⟩ := hs.last_mem (List.cons_ne_nil _ _)
    obtain ⟨hnext, m', hset, hs', hframe⟩ := hs.setPrev (List.nodup_cons.mp hnodup.2).1 (some b)
    have hba : b ≠ a := fun he => hnodup.1 (he ▸ hb)
    refine ⟨m', n.next, ?_, ⟨some b, hs'⟩, fun d hd => hframe d fun he => hd (he ▸ List.mem_cons_self ..)⟩
    rw [delete_eq hn hprev, if_neg hba, if_pos rfl, hnext, Option.bind_some, hset]
    rfl

/-- Behind the last node of a list comes another one; the first node of that, or of the first list where it is empty, is given that last
node for the one before it, and the two are linked. -/
theorem Seg.relink {head next : Option Nat} {c : Nat} {z : α} (h₁ : Seg m head q (l₁ ++ [(c, z)]) next (some c))
    (h₂ : Seg m next p l₂ none q) (hnodup : ((l₁ ++ [(c, z)] ++ l₂).map Prod.fst).Nodup) :
    ∃ after m', (next <|> head) = some after ∧ after ∈ (l₁ ++ [(c, z)] ++ l₂).map Prod.fst ∧ m.setPrev after (some c) = some m' ∧
      Linked m' head (l₁ ++ [(c, z)] ++ l₂) ∧ ∀ b, b ≠ after → m' b = m b := by
  cases l₂ with
  | nil =>
    -- the first node has the last one before it
    obtain ⟨rfl, -⟩ := h₂
    rw [List.append_nil] at hnodup ⊢
    obtain ⟨⟨f, y⟩, rest, hfirst⟩ : ∃ first rest, l₁ ++ [(c, z)] = first :: rest :=
      List.exists_cons_of_ne_nil (List.append_ne_nil_of_right_ne_nil _ (List.cons_ne_nil _ _))
    rw [hfirst] at h₁ hnodup ⊢
    obtain ⟨rfl, m', hset, h₁, hframe⟩ := h₁.setPrev (List.nodup_cons.mp hnodup).1 (some c)
    exact ⟨f, m', rfl, List.mem_cons_self .., hset, ⟨some c, h₁⟩, hframe⟩
  | cons d l₂ =>
    obtain ⟨d, y⟩ := d
    rw [List.map_append, List.nodup_append] at hnodup
    obtain ⟨-, hnodup, hapart⟩ := hnodup
    have hd : d ∈ ((d, y) :: l₂).map Prod.fst := List.mem_cons_self ..
    obtain ⟨rfl, m', hset, h₂, hframe⟩ := h₂.setPrev (List.nodup_cons.mp hnodup).1 (some c)
    refine ⟨d, m', rfl, List.map_append ▸ List.mem_append_right _ hd, hset, ⟨q, seg_append.mpr ⟨some d, some c, ?_, h₂⟩⟩, hframe⟩
    exact h₁.congr fun b hb => hframe b (hapart b hb d hd)

/-- `DL_DELETE` of a node behind another one. -/
theorem delete_behind {head : Option Nat} {c : Nat} {z : α} (hl : Linked m head ((l₁ ++ [(c, z)]) ++ (a, x) :: l₂)) :
    ∃ m' head', DL_DELETE m head a = some (m', head') ∧ Linked m' head' ((l₁ ++ [(c, z)]) ++ l₂) ∧
      ∀ b, b ∉ ((l₁ ++ [(c, z)]) ++ l₂).map Prod.fst → m' b = m b := by
  obtain ⟨hnot, hnodup⟩ := nodup_map_middle.mp hl.nodup
  have hc : c ∈ (l₁ ++ [(c, z)]).map Prod.fst := List.mem_map_of_mem (List.mem_append_right _ (List.mem_singleton_self _))
  have hca : c ≠ a := fun he => hnot (List.map_append ▸ List.mem_append_left _ (he ▸ hc))
  have hne : head ≠ some a := by
    rw [hl.path.head_eq, List.head?_append_of_ne_nil _ (List.append_ne_nil_of_right_ne_nil _ (List.cons_ne_nil _ _))]
    exact Utlist.head_ne fun hmem => hnot (List.map_append ▸ List.mem_append_left _ hmem)
  obtain ⟨last, hs⟩ := hl
  obtain ⟨h', p', h₁, rfl, n, hn, hx, rfl, h₂⟩ := seg_append.mp hs
  -- the node before is linked to the one behind
  have hapart : ∀ b ∈ l₂.map Prod.fst, b ≠ c := by
    rw [List.map_append, List.nodup_append] at hnodup
    exact fun b hb he => hnodup.2.2 c hc b hb he.symm
  have hcl : c ∉ l₁.map Prod.fst := by
    rw [List.append_assoc, List.singleton_append] at hnodup
    exact fun hmem => (nodup_map_middle.mp hnodup).1 (List.map_append ▸ List.mem_append_left _ hmem)
  obtain ⟨hprev, m₁, hset₁, h₁, hframe₁⟩ := h₁.setNext hcl n.next
  rw [hprev] at h₁
  have h₂ : Seg m₁ n.next (some a) l₂ none last := h₂.congr fun b hb => hframe₁ b (hapart b hb)
  obtain ⟨after, m₂, hafter, hmem, hset₂, hl₂, hframe₂⟩ := h₁.relink h₂ hnodup
  refine ⟨m₂, head, ?_, hl₂, fun b hb => ?_⟩
  · rw [delete_eq hn hprev, if_neg hca, if_neg hne, hset₁, Option.bind_some, hafter, Option.bind_some, hset₂]
    rfl
  · have hbc : b ≠ c := by
      rintro rfl
      exact hb (List.map_append ▸ List.mem_append_left _ hc)
    rw [hframe₂ b fun he => hb (he ▸ hmem), hframe₁ b hbc]

/-- `DL_DELETE` of a node in a list leaves the others linked, and nothing but them is touched. -/
theorem Linked.delete {head : Option Nat} (hl : Linked m head (l₁ ++ (a, x) :: l₂)) : ∃ m' head', DL_DELETE m head a = some (m', head') ∧
    Linked m' head' (l₁ ++ l₂) ∧ ∀ b, b ∉ (l₁ ++ l₂).map Prod.fst → m' b = m b := by
  rcases List.eq_nil_or_concat l₁ with rfl | ⟨l, c, rfl⟩
  · exact delete_first hl
  · rw [List.concat_eq_append] at hl ⊢
    exact delete_behind hl

/-- `DL_APPEND` to an empty list. -/
theorem append_first {n : Node α} (hn : m a = some n) : ∃ m' head', DL_APPEND m none a = some (m', head') ∧
    Linked m' head' [(a, n.data)] ∧ ∀ b, b ≠ a → m' b = m b := by
  obtain ⟨m₁, hset₁, hn₁, hframe₁⟩ : ∃ m₁, m.setPrev a (some a) = some m₁ ∧ m₁ a = some { n with prev := some a } ∧
      ∀ b, b ≠ a → m₁ b = m b :=
    ⟨Function.update m a (some { n with prev := some a }), by rw [Heap.setPrev, hn, Option.map_some], Function.update_self ..,
      fun b hb => Function.update_of_ne hb ..⟩
  have hset₂ : m₁.setNext a none = some (Function.update m₁ a (some ⟨n.data, none, some a⟩)) := by
    rw [Heap.setNext, hn₁, Option.map_some]
  refine ⟨Function.update m₁ a (some ⟨n.data, none, some a⟩), some a, ?_,
    ⟨some a, rfl, _, Function.update_self .., rfl, rfl, rfl, rfl⟩, fun b hb => ?_⟩
  · simp only [DL_APPEND, hset₁, hset₂, Option.bind_eq_bind, Option.bind_some, Option.pure_def]
  · rw [Function.update_of_ne hb, hframe₁ b hb]

/-- `DL_APPEND` behind a node. -/
theorem append_behind {head : Option Nat} {n : Node α} {c : Nat} {z : α} (hl : Linked m head (l ++ [(c, z)])) (hn : m a = some n)
    (ha : a ∉ (l ++ [(c, z)]).map Prod.fst) : ∃ m' head', DL_APPEND m head a = some (m', head') ∧
      Linked m' head' (l ++ [(c, z)] ++ [(a, n.data)]) ∧ ∀ b, b ≠ a → b ∉ (l ++ [(c, z)]).map Prod.fst → m' b = m b := by
  have hnodup := hl.nodup
  obtain ⟨last, hs⟩ := hl
  obtain ⟨first, rest, hfirst⟩ : ∃ first rest, l ++ [(c, z)] = first :: rest :=
    List.exists_cons_of_ne_nil (List.append_ne_nil_of_right_ne_nil _ (List.cons_ne_nil _ _))
  have hc : c ∈ (l ++ [(c, z)]).map Prod.fst := List.mem_map_of_mem (List.mem_append_right _ (List.mem_singleton_self _))
  have hf : first.1 ∈ (l ++ [(c, z)]).map Prod.fst := by
    rw [hfirst]
    exact List.mem_cons_self ..
  have hca : a ≠ c := fun he => ha (he ▸ hc)
  have hfa : first.1 ≠ a := fun he => ha (he ▸ hf)
  -- the first node has the last one before it
  obtain ⟨f, hmf, hfprev, rfl⟩ : ∃ f, m first.1 = some f ∧ f.prev = last ∧ head = some first.1 := by
    rw [hfirst] at hs
    obtain ⟨hhead, f, hmf, _, hprev, _⟩ := hs
    exact ⟨f, hmf, hprev, hhead⟩
  -- the new node gets that, the last one is linked to it, and the first one has it before it then
  have hset₁ : m.setPrev a (some c) = some (Function.update m a (some { n with prev := some c })) := by
    rw [Heap.setPrev, hn, Option.map_some]
  obtain ⟨hframe₁, _⟩ := setPrev_eq_some hset₁
  have hs₁ := hs.congr fun b hb => hframe₁ b fun he => ha (he ▸ hb)
  have hcl : c ∉ l.map Prod.fst := by
    rw [List.map_append, List.nodup_append] at hnodup
    exact fun hcl => hnodup.2.2 c hcl c (List.mem_singleton_self c) rfl
  obtain ⟨rfl, m₂, hset₂, hs₂, hframe₂⟩ := hs₁.setNext hcl (some a)
  have hrest : first.1 ∉ rest.map Prod.fst := by
    rw [hfirst] at hnodup
    exact (List.nodup_cons.mp hnodup).1
  rw [hfirst] at hs₂
  obtain ⟨-, m₃, hset₃, hs₃, hframe₃⟩ := hs₂.setPrev hrest (some a)
  have hn₃ : m₃ a = some { n with prev := some c } :=
    (hframe₃ a hfa.symm).trans ((hframe₂ a hca).trans (Function.update_self ..))
  have hset₄ : m₃.setNext a none = some (Function.update m₃ a (some ⟨n.data, none, some c⟩)) := by
    rw [Heap.setNext, hn₃, Option.map_some]
  obtain ⟨hframe₄, _⟩ := setNext_eq_some hset₄
  refine ⟨Function.update m₃ a (some ⟨n.data, none, some c⟩), some first.1, ?_,
    ⟨some a, seg_append.mpr ⟨some a, some c, ?_, rfl, _, Function.update_self .., rfl, rfl, rfl, rfl⟩⟩, fun b hba hb => ?_⟩
  · simp only [DL_APPEND, hmf, Option.bind_eq_bind, Option.bind_some, hfprev, hset₁, hframe₁ first.1 hfa, hset₂, hset₃, hset₄,
      Option.pure_def]
  · rw [hfirst] at ha ⊢
    exact hs₃.congr fun b hb => hframe₄ b fun he => ha (he ▸ hb)
  · have hbf : b ≠ first.1 := fun he => hb (he ▸ hf)
    have hbc : b ≠ c := fun he => hb (he ▸ hc)
    rw [hframe₄ b hba, hframe₃ b hbf, hframe₂ b hbc, hframe₁ b hba]

/-- `DL_APPEND` of a node that is not in the list puts it at the end, and touches nothing else. -/
theorem Linked.append {head : Option Nat} {n : Node α} (hl : Linked m head l) (hn : m a = some n) (ha : a ∉ l.map Prod.fst) :
    ∃ m' head', DL_APPEND m head a = some (m', head') ∧ Linked m' head' (l ++ [(a, n.data)]) ∧
      ∀ b, b ≠ a → b ∉ l.map Prod.fst → m' b = m b := by
  rcases List.eq_nil_or_concat l with rfl | ⟨l, c, rfl⟩
  · obtain rfl : head = none := hl.path.head_eq
    obtain ⟨m', head', happ, hl', hframe⟩ := append_first hn
    exact ⟨m', head', happ, hl', fun b hb _ => hframe b hb⟩
  · rw [List.concat_eq_append] at hl ha ⊢
    exact append_behind hl hn ha

/-- A node of a list is linked to the one behind it. -/
theorem Path.next_eq {head : Option Nat} (hl : Path m head (l₁ ++ (a, x) :: l₂)) :
    m.seen a = some (x, l₂.head?.map Prod.fst) := by
  obtain ⟨_, n, hn, rfl, hrest⟩ := hl.suffix
  rw [Heap.seen, hn, ← hrest.head_eq]
  rfl

/-- The node at `a`, which is not in the list, has the links of the one at `b`; or it is alone, and so is that one. -/
def StandsFor (m : Heap α) (a b : Nat) (l₁ l₂ : List (Nat × α)) : Prop :=
  l₁ = [] ∧ l₂ = [] ∧ (∃ n, m a = some n ∧ n.prev = some a) ∨
    l₁ ≠ [] ∧ ∃ n nb, m a = some n ∧ m b = some nb ∧ n.prev = nb.prev ∧ n.next = nb.next

/-- `DL_DELETE` of a node that is not the first one: it was alone, and the list is empty then; or the node before it is linked to the
one behind it, and no other link is changed. -/
theorem delete_cases {head head' : Option Nat} {n : Node α} (hn : m a = some n) (hhead : head ≠ some a)
    (hdel : DL_DELETE m head a = some (m', head')) : n.prev = some a ∧ head' = none ∨
      ∃ c m₁, n.prev = some c ∧ head' = head ∧ m.setNext c n.next = some m₁ ∧ ∀ b, m'.seen b = m₁.seen b := by
  obtain ⟨prev, hprev⟩ : ∃ prev, n.prev = some prev := by
    obtain ⟨n', hn', hdel⟩ := Option.bind_eq_some_iff.mp hdel
    cases hn.symm.trans hn'
    obtain ⟨prev, hprev, _⟩ := Option.bind_eq_some_iff.mp hdel
    exact ⟨prev, hprev⟩
  rw [delete_eq hn hprev] at hdel
  by_cases hself : prev = a
  · rw [if_pos hself] at hdel
    cases hdel
    exact .inl ⟨hself ▸ hprev, rfl⟩
  · rw [if_neg hself, if_neg hhead] at hdel
    obtain ⟨m₁, h₁, hdel⟩ := Option.bind_eq_some_iff.mp hdel
    obtain ⟨after, _, hdel⟩ := Option.bind_eq_some_iff.mp hdel
    obtain ⟨m₂, h₂, hdel⟩ := Option.bind_eq_some_iff.mp hdel
    cases hdel
    exact .inr ⟨prev, m₁, hprev, rfl, h₁, (setPrev_eq_some h₂).2⟩

/-- A node of a list has the one before it for the one before it. -/
theorem Linked.prev_eq {head : Option Nat} {c : Nat} {z : α} (hl : Linked m head (l₁ ++ (c, z) :: (a, x) :: l₂)) :
    ∃ n, m a = some n ∧ n.prev = some c := by
  obtain ⟨_, hs⟩ := hl
  obtain ⟨_, _, _, -, _, _, _, _, -, n, hn, -, hprev, -⟩ := seg_append.mp hs
  exact ⟨n, hn, hprev⟩

/-- If `DL_DELETE` of a node that is not in the list takes out another one, it stands for it. -/
theorem standsFor_of_delete {head head' : Option Nat} {b : Nat} (hl : Linked m head (l₁ ++ (b, x) :: l₂)) {n : Node α} (hn : m a = some n)
    (ha : a ∉ (l₁ ++ (b, x) :: l₂).map Prod.fst) (hdel : DL_DELETE m head a = some (m', head')) (hl' : Linked m' head' (l₁ ++ l₂)) :
    StandsFor m a b l₁ l₂ := by
  obtain ⟨hb, _⟩ := nodup_map_middle.mp hl.nodup
  rcases delete_cases hn (hl.path.head_ne ha) hdel with ⟨hself, rfl⟩ | ⟨prev, m₁, hprev, rfl, h₁, hseen⟩
  · have hnil : l₁ ++ l₂ = [] := List.head?_eq_none_iff.mp (Option.map_eq_none_iff.mp hl'.path.head_eq.symm)
    obtain ⟨rfl, rfl⟩ := List.append_eq_nil_iff.mp hnil
    exact .inl ⟨rfl, rfl, n, hn, hself⟩
  · rcases List.eq_nil_or_concat l₁ with rfl | ⟨l, ⟨c, z⟩, rfl⟩
    · -- the head is still the node to be taken out
      exact absurd hl.path.head_eq (hl'.path.head_ne hb)
    · rw [List.concat_eq_append] at hl hl' hb ⊢
      have hnext : m.seen b = some (x, l₂.head?.map Prod.fst) := hl.path.next_eq
      rw [List.append_assoc, List.singleton_append] at hl hl'
      obtain ⟨nb, hnb, hnbprev⟩ := hl.prev_eq
      have hc : m.seen c = some (z, some b) := hl.path.next_eq
      have hc' : m₁.seen c = some (z, l₂.head?.map Prod.fst) := (hseen c).symm.trans hl'.path.next_eq
      -- only the node before the one deleted is linked to something else
      have hcp : prev = c := by
        by_contra hne
        rw [seen_of_eq ((setNext_eq_some h₁).1 c (Ne.symm hne)), hc] at hc'
        obtain ⟨d, hd, he⟩ := Option.map_eq_some_iff.mp (Prod.mk.inj (Option.some.inj hc')).2.symm
        exact hb (List.mem_map.mpr ⟨d, List.mem_append_right _ (List.mem_of_mem_head? hd), he⟩)
      obtain ⟨nc, hnc, rfl⟩ := Option.map_eq_some_iff.mp h₁
      rw [hcp, Heap.seen, Function.update_self] at hc'
      rw [Heap.seen, hnb] at hnext
      refine .inr ⟨List.append_ne_nil_of_right_ne_nil _ (List.cons_ne_nil _ _), n, nb, hn, hnb, by rw [hprev, hnbprev, hcp], ?_⟩
      exact (Prod.mk.inj (Option.some.inj hc')).2.trans (Prod.mk.inj (Option.some.inj hnext)).2.symm

/-- `DL_DELETE` of a node that stands for another one takes that one out. -/
theorem StandsFor.delete {head : Option Nat} {b : Nat} (h : StandsFor m a b l₁ l₂) (hl : Linked m head (l₁ ++ (b, x) :: l₂))
    (ha : a ∉ (l₁ ++ (b, x) :: l₂).map Prod.fst) : ∃ m' head', DL_DELETE m head a = some (m', head') ∧ Linked m' head' (l₁ ++ l₂) := by
  obtain ⟨hb, _⟩ := nodup_map_middle.mp hl.nodup
  rcases h with ⟨rfl, rfl, n, hn, hself⟩ | ⟨hne, n, nb, hn, hnb, hprev, hnext⟩
  · exact ⟨m, none, (delete_eq hn hself).trans (if_pos rfl), none, rfl, rfl⟩
  · obtain ⟨l, ⟨c, z⟩, rfl⟩ := (List.eq_nil_or_concat l₁).resolve_left hne
    rw [List.concat_eq_append] at hl ha hb hne ⊢
    obtain ⟨m', head', hdel, hl', -⟩ := hl.delete
    refine ⟨m', head', ?_, hl'⟩
    have hc : c ∈ (l ++ [(c, z)]).map Prod.fst := List.mem_map_of_mem (List.mem_append_right _ (List.mem_singleton_self _))
    have hca : c ≠ a := fun he => ha (List.map_append ▸ List.mem_append_left _ (he ▸ hc))
    have hcb : c ≠ b := fun he => hb (List.map_append ▸ List.mem_append_left _ (he ▸ hc))
    have hhead := hl.path.head_ne ha
    have hheadb : head ≠ some b := by
      rw [hl.path.head_eq, List.head?_append_of_ne_nil _ hne]
      exact Utlist.head_ne fun hmem => hb (List.map_append ▸ List.mem_append_left _ hmem)
    rw [List.append_assoc, List.singleton_append] at hl
    obtain ⟨nb', hnb', hcprev⟩ := hl.prev_eq
    cases hnb.symm.trans hnb'
    rw [delete_eq hnb hcprev, if_neg hcb, if_neg hheadb] at hdel
    rw [delete_eq hn (hprev.trans hcprev), if_neg hca, if_neg hhead, hnext]
    exact hdel

/-- `DL_DELETE` of a node that is not in the list takes out another one exactly if it stands for it. -/
theorem Linked.delete_apart_iff {head : Option Nat} {b : Nat} (hl : Linked m head (l₁ ++ (b, x) :: l₂)) {n : Node α} (hn : m a = some n)
    (ha : a ∉ (l₁ ++ (b, x) :: l₂).map Prod.fst) :
    (∃ m' head', DL_DELETE m head a = some (m', head') ∧ Linked m' head' (l₁ ++ l₂)) ↔ StandsFor m a b l₁ l₂ := by
  constructor
  · rintro ⟨m', head', hdel, hl'⟩
    exact standsFor_of_delete hl hn ha hdel hl'
  · exact fun h => h.delete hl ha

end

end Utlist
