import Mathlib.Data.List.GetD

/-!
# Bytes in memory, as C programs use them

One allocation is a function from indices to bytes (`Mem`); its size is kept beside it by whoever owns it, and a store
is guarded where the size can be exceeded. The string functions of the C library read such a memory: `strlen` up to a
bound, the end of the allocation; `memcmp` and `strncmp` return the difference of the first bytes that differ, as the
library does.
-/

namespace CMem

/-- The bytes of one allocation, by index. -/
abbrev Mem : Type := Nat → UInt8

/-- A fresh block from calloc. -/
def zeroed : Mem := fun _ => 0

/-- `memcpy(m + o, bs, |bs|)`: the bytes are stored from index `o` on, the rest is kept. -/
def write (m : Mem) (o : Nat) (bs : List UInt8) : Mem :=
  fun i => if o ≤ i ∧ i < o + bs.length then bs.getD (i - o) 0 else m i

/-- The `n` bytes from index `o` on. -/
def bytes (m : Mem) (o n : Nat) : List UInt8 := (List.range n).map (fun i => m (o + i))

/-- The length of the string at `o`: how many bytes stand before the first NUL, and `bound` when none stands within
it. -/
def strlen (m : Mem) (o : Nat) : Nat → Nat
  | 0 => 0
  | bound + 1 => if m o = 0 then 0 else strlen m (o + 1) bound + 1

/-- The bytes of a string literal, its NUL not counted. -/
def ascii (s : String) : List UInt8 := s.toList.map (fun c => UInt8.ofNat c.toNat)

/-- The difference of the first two bytes that differ. -/
def memcmp : List UInt8 → List UInt8 → Int
  | a :: as, b :: bs => if a = b then memcmp as bs else (a.toNat : Int) - b.toNat
  | _, _ => 0

/-- Like `memcmp`, but the comparison ends at a NUL. -/
def strncmp : List UInt8 → List UInt8 → Int
  | a :: as, b :: bs => if a = b then (if a = 0 then 0 else strncmp as bs) else (a.toNat : Int) - b.toNat
  | _, _ => 0

/-- An int stored in, or cast to, an unsigned char. -/
def uchar (z : Int) : UInt8 := UInt8.ofNat (z % 256).toNat

/-! ## Stores and loads -/

theorem write_of_lt (m : Mem) {o i : Nat} (bs : List UInt8) (h : i < o) : write m o bs i = m i :=
  if_neg fun hi => absurd hi.1 (by omega)

theorem write_of_ge (m : Mem) {o i : Nat} (bs : List UInt8) (h : o + bs.length ≤ i) : write m o bs i = m i :=
  if_neg fun hi => absurd hi.2 (by omega)

theorem write_in (m : Mem) {o i : Nat} (bs : List UInt8) (h : i < bs.length) : write m o bs (o + i) = bs[i] := by
  unfold write
  rw [if_pos ⟨by omega, by omega⟩, Nat.add_sub_cancel_left]
  simp [h]

@[simp] theorem write_singleton (m : Mem) (o : Nat) (b : UInt8) : write m o [b] o = b :=
  write_in m [b] (Nat.zero_lt_one)

@[simp] theorem write_nil (m : Mem) (o : Nat) : write m o [] = m :=
  funext fun i => if_neg fun hi => absurd hi.2 (by simp only [List.length_nil]; omega)

@[simp] theorem length_bytes (m : Mem) (o n : Nat) : (bytes m o n).length = n := by simp [bytes]

@[simp] theorem getElem_bytes (m : Mem) (o n i : Nat) (h : i < (bytes m o n).length) : (bytes m o n)[i] = m (o + i) := by
  simp [bytes]

/-- The first byte and the rest. -/
theorem bytes_succ (m : Mem) (o n : Nat) : bytes m o (n + 1) = m o :: bytes m (o + 1) n := by
  refine List.ext_getElem (by simp) fun i _ _ => ?_
  cases i with
  | zero => simp
  | succ i =>
    rw [getElem_bytes, List.getElem_cons_succ, getElem_bytes]
    congr 1
    omega

/-- A block of bytes is one block followed by another. -/
theorem bytes_add (m : Mem) (o a b : Nat) : bytes m o (a + b) = bytes m o a ++ bytes m (o + a) b := by
  refine List.ext_getElem (by simp) fun i h₁ _ => ?_
  rw [length_bytes] at h₁
  by_cases hi : i < a
  · rw [List.getElem_append_left (by simpa using hi), getElem_bytes, getElem_bytes]
  · rw [List.getElem_append_right (by simpa using hi), getElem_bytes, getElem_bytes, length_bytes]
    congr 1
    omega

/-- Two memories that agree on a block have the same bytes there. -/
theorem bytes_congr {m m' : Mem} {o o' n : Nat} (h : ∀ i < n, m (o + i) = m' (o' + i)) : bytes m o n = bytes m' o' n := by
  refine List.ext_getElem (by simp) fun i h₁ _ => ?_
  rw [length_bytes] at h₁
  rw [getElem_bytes, getElem_bytes, h i h₁]

/-- Reading back the first bytes of what was stored. -/
theorem bytes_write_take (m : Mem) (o : Nat) {bs : List UInt8} {k : Nat} (hk : k ≤ bs.length) :
    bytes (write m o bs) o k = bs.take k := by
  refine List.ext_getElem (by rw [length_bytes, List.length_take, Nat.min_eq_left hk]) fun i h₁ _ => ?_
  rw [length_bytes] at h₁
  rw [getElem_bytes, write_in m bs (Nat.lt_of_lt_of_le h₁ hk), List.getElem_take]

/-- Reading back what was stored. -/
theorem bytes_write_self (m : Mem) (o : Nat) (bs : List UInt8) : bytes (write m o bs) o bs.length = bs := by
  rw [bytes_write_take m o (Nat.le_refl _), List.take_length]

/-- Reading beside what was stored. -/
theorem bytes_write_disjoint (m : Mem) {o a n : Nat} (bs : List UInt8) (h : a + n ≤ o ∨ o + bs.length ≤ a) :
    bytes (write m o bs) a n = bytes m a n := by
  refine bytes_congr fun i hi => ?_
  rcases h with h | h
  · exact write_of_lt m bs (by omega)
  · exact write_of_ge m bs (by omega)

/-- A block stored in two parts. -/
theorem write_append (m : Mem) (o : Nat) (as bs : List UInt8) :
    write m o (as ++ bs) = write (write m o as) (o + as.length) bs := by
  funext i
  unfold write
  rw [List.length_append]
  by_cases hb : o + as.length ≤ i ∧ i < o + as.length + bs.length
  · rw [if_pos (by omega), if_pos hb, List.getD_append_right _ _ _ _ (by omega), Nat.sub_add_eq]
  · rw [if_neg hb]
    by_cases ha : o ≤ i ∧ i < o + as.length
    · rw [if_pos (by omega), if_pos ha, List.getD_append _ _ _ _ (by omega)]
    · rw [if_neg (by omega), if_neg ha]

/-! ## Lists of stores -/

/-- The stores of a loop, one byte each, one after the other. -/
def stores (m : Mem) (l : List (Nat × UInt8)) : Mem := l.foldl (fun m s => write m s.1 [s.2]) m

@[simp] theorem stores_cons (m : Mem) (s : Nat × UInt8) (l : List (Nat × UInt8)) :
    stores m (s :: l) = stores (write m s.1 [s.2]) l := rfl

/-- Stores of blocks, one after the other. -/
def writes (m : Mem) (l : List (Nat × List UInt8)) : Mem := l.foldl (fun m s => write m s.1 s.2) m

/-- The stores lie in an allocation of `n` bytes. -/
def StoresIn (l : List (Nat × List UInt8)) (n : Nat) : Prop := ∀ s ∈ l, s.1 + s.2.length ≤ n

/-- Each block is stored where the one before ends, the first at `o`. -/
def Adjacent : Nat → List (Nat × List UInt8) → Prop
  | _, [] => True
  | o, s :: l => s.1 = o ∧ Adjacent (o + s.2.length) l

/-- Adjacent blocks are read back as one. -/
theorem bytes_writes {l : List (Nat × List UInt8)} : ∀ {m : Mem} {o n : Nat}, Adjacent o l → n = o + (l.flatMap Prod.snd).length →
    bytes (writes m l) 0 n = bytes m 0 o ++ l.flatMap Prod.snd := by
  induction l with
  | nil =>
    rintro m o n _ rfl
    exact (List.append_nil _).symm
  | cons s l ih =>
    rintro m o n ⟨rfl, hl⟩ hn
    rw [List.flatMap_cons, List.length_append, ← Nat.add_assoc] at hn
    have hs : bytes (write m s.1 s.2) 0 (s.1 + s.2.length) = bytes m 0 s.1 ++ s.2 := by
      rw [bytes_add, bytes_write_disjoint _ _ (.inl (Nat.le_of_eq (Nat.zero_add _))), Nat.zero_add, bytes_write_self]
    exact (ih hl hn).trans (by rw [hs, List.append_assoc, List.flatMap_cons])

/-- Adjacent blocks are stored as one. -/
theorem writes_eq_write {l : List (Nat × List UInt8)} : ∀ {m : Mem} {o : Nat}, Adjacent o l →
    writes m l = write m o (l.flatMap Prod.snd) := by
  induction l with
  | nil => exact fun _ => (write_nil _ _).symm
  | cons s l ih =>
    rintro m o ⟨rfl, hl⟩
    rw [List.flatMap_cons, write_append]
    exact ih hl

/-! ## The string functions -/

/-- One byte further on in the string from the next byte on. -/
theorem offset_succ (o i : Nat) : o + (i + 1) = o + 1 + i := by omega

/-- The string at `o` ends at the first NUL, when one stands within the bound. -/
theorem strlen_eq {m : Mem} {n : Nat} : ∀ {o bound : Nat}, n ≤ bound → (∀ i < n, m (o + i) ≠ 0) →
    (n < bound → m (o + n) = 0) → strlen m o bound = n := by
  induction n with
  | zero =>
    intro o bound _ _ h0
    cases bound with
    | zero => rfl
    | succ b => exact if_pos (h0 (by omega))
  | succ n ih =>
    intro o bound hb hne h0
    cases bound with
    | zero => omega
    | succ b =>
      have h1 : m o ≠ 0 := hne 0 (by omega)
      have h2 : strlen m (o + 1) b = n := by
        refine ih (by omega) (fun i hi => ?_) (fun hlt => ?_)
        · have := hne (i + 1) (by omega)
          rwa [offset_succ] at this
        · have := h0 (by omega)
          rwa [offset_succ] at this
      rw [strlen, if_neg h1, h2]

/-- A string is at least as long as a block without a NUL at its start. -/
theorem le_strlen {m : Mem} {n : Nat} : ∀ {o bound : Nat}, n ≤ bound → (∀ i < n, m (o + i) ≠ 0) → n ≤ strlen m o bound := by
  induction n with
  | zero => intro o bound _ _; exact Nat.zero_le _
  | succ n ih =>
    intro o bound hb hne
    cases bound with
    | zero => omega
    | succ b =>
      have h2 : n ≤ strlen m (o + 1) b := by
        refine ih (by omega) fun i hi => ?_
        have := hne (i + 1) (by omega)
        rwa [offset_succ] at this
      have h1 : m o ≠ 0 := hne 0 (by omega)
      rw [strlen, if_neg h1]
      omega

/-- What `strlen` found: no NUL before the end of the string, and one there, when it is within the bound. -/
theorem strlen_spec {m : Mem} : ∀ {bound o : Nat}, (∀ i < strlen m o bound, m (o + i) ≠ 0) ∧
    (strlen m o bound < bound → m (o + strlen m o bound) = 0)
  | 0, _ => ⟨fun _ hi => absurd hi (Nat.not_lt_zero _), fun h => absurd h (Nat.not_lt_zero _)⟩
  | bound + 1, o => by
    rw [strlen]
    split
    · rename_i h0
      exact ⟨fun _ hi => absurd hi (Nat.not_lt_zero _), fun _ => h0⟩
    · rename_i h0
      obtain ⟨ih1, ih2⟩ := @strlen_spec m bound (o + 1)
      refine ⟨fun i hi => ?_, fun hlt => ?_⟩
      · cases i with
        | zero => exact h0
        | succ i =>
          rw [offset_succ]
          exact ih1 i (by omega)
      · rw [offset_succ]
        exact ih2 (by omega)

/-- A string ends at a NUL at the latest. -/
theorem strlen_le_of_zero {m : Mem} {o i bound : Nat} (h : m (o + i) = 0) : strlen m o bound ≤ i :=
  Nat.le_of_not_lt fun hlt => strlen_spec.1 i hlt h

/-- `strlen` looks at what lies between its start and its bound. -/
theorem strlen_congr {m m' : Mem} : ∀ {bound o : Nat}, (∀ i < bound, m (o + i) = m' (o + i)) →
    strlen m o bound = strlen m' o bound
  | 0, _, _ => rfl
  | bound + 1, o, h => by
    have h0 : m o = m' o := h 0 (by omega)
    have ih : strlen m (o + 1) bound = strlen m' (o + 1) bound := strlen_congr fun i hi => by
      have := h (i + 1) (by omega)
      rwa [offset_succ] at this
    rw [strlen, strlen, h0, ih]

/-- `strlen` never passes its bound. -/
theorem strlen_le (m : Mem) : ∀ (bound o : Nat), strlen m o bound ≤ bound
  | 0, _ => Nat.le_refl 0
  | bound + 1, o => by
    rw [strlen]
    split
    · exact Nat.zero_le _
    · have := strlen_le m bound (o + 1)
      omega

/-- A difference of two bytes is lost by the cast to unsigned char only when it is zero. -/
theorem uchar_sub_ne_zero {a b : UInt8} (h : a ≠ b) : uchar ((a.toNat : Int) - b.toNat) ≠ 0 := by
  intro h0
  apply h
  have h1 := congrArg UInt8.toNat h0
  have ha := a.toNat_lt
  have hb := b.toNat_lt
  simp only [uchar, UInt8.toNat_ofNat', UInt8.toNat_zero, Nat.reducePow] at h1 ha hb
  exact UInt8.toNat_inj.mp (by omega)

@[simp] theorem memcmp_self : ∀ as : List UInt8, memcmp as as = 0
  | [] => rfl
  | _ :: as => (if_pos rfl).trans (memcmp_self as)

/-- `!(unsigned char) memcmp(as, bs, n)` tests that the two blocks are equal. -/
theorem uchar_memcmp_eq_zero : ∀ {as bs : List UInt8}, as.length = bs.length → (uchar (memcmp as bs) = 0 ↔ as = bs)
  | [], [], _ => by simp [memcmp, uchar]
  | a :: as, b :: bs, h => by
    rw [memcmp]
    split
    · rename_i hab
      rw [uchar_memcmp_eq_zero (Nat.succ.inj h), hab]
      simp
    · rename_i hab
      simp [uchar_sub_ne_zero hab, hab]

/-- Where the second string holds no NUL, `strncmp(as, bs, |bs|) == 0` tests that the two blocks are equal. -/
theorem strncmp_eq_zero : ∀ {as bs : List UInt8}, as.length = bs.length → 0 ∉ bs → (strncmp as bs = 0 ↔ as = bs)
  | [], [], _, _ => by simp [strncmp]
  | a :: as, b :: bs, h, h0 => by
    rw [strncmp]
    split
    · rename_i hab
      have ha : a ≠ 0 := fun e => h0 (by simp [← hab, e])
      rw [if_neg ha, strncmp_eq_zero (Nat.succ.inj h) (fun hm => h0 (List.mem_cons_of_mem _ hm)), hab]
      simp
    · rename_i hab
      have : (a.toNat : Int) - b.toNat ≠ 0 := fun e => hab (UInt8.toNat_inj.mp (by omega))
      simp [this, hab]

end CMem
