import HomeBridge.Ihaplite.Hex

/-!
# There and back as hex text

`binary_to_hexbinary` writes two digits for a byte and moves its pointer past them, and then ends the string at
`output[j]`, counted from where the pointer is now: the NUL of `n` bytes lies at `3 * n`, not at `2 * n`.
-/

namespace HomeBridge

open CMem

/-- What `binary_to_hexbinary` stores, with the pointer and the index of its loop. -/
def encodeLoop : List UInt8 → Nat → Nat → List (Nat × UInt8)
  | [], output, j => [(output + j, 0x00)]
  | b :: input, output, j =>
    (output, hexDigit (b >>> 4)) :: (output + 1, hexDigit (b &&& 0x0F)) :: encodeLoop input (output + 2) (j + 1)

/-- `hexbinary_to_binary` of the string at `input`, where the output is another buffer: what is stored there, and the
returned length. -/
def hexbinary_of (m : Mem) (input bound : Nat) : List UInt8 × UInt8 :=
  let length := UInt8.ofNat (strlen m input bound / 2)
  (hexbinary (bytes m input (2 * length.toNat)), length)

/-- The text is the digits of `b` and a NUL, nothing is stored behind that, and reading it back gives `b`. The buffer
ends `bound` bytes on. -/
structure RoundTrips (b : List UInt8) (m : Mem) (output bound : Nat) : Prop where
  digits : bytes (binary_to_hexbinary m b output).1 output (2 * b.length) = hexDigits b
  terminated : (binary_to_hexbinary m b output).1 (output + 2 * b.length) = 0x00
  within : ∀ s ∈ encodeLoop b output 0, s.1 ≤ output + 2 * b.length
  length : (binary_to_hexbinary m b output).2.toNat = 2 * b.length
  decoded : hexbinary_of (binary_to_hexbinary m b output).1 output bound = (b ++ [0x00], UInt8.ofNat b.length)

/-! ## The stores -/

@[simp] theorem length_hexDigits (b : List UInt8) : (hexDigits b).length = 2 * b.length := by
  simp [hexDigits, List.length_flatMap, nibbles, Nat.mul_comm]

theorem hexDigits_cons (a : UInt8) (b : List UInt8) :
    hexDigits (a :: b) = [hexDigit (a >>> 4), hexDigit (a &&& 0x0F)] ++ hexDigits b := rfl

/-- The loop stores the digits, and the NUL as far behind them as there were bytes. -/
theorem stores_encodeLoop : ∀ {b : List UInt8} {m : Mem} {output j : Nat}, stores m (encodeLoop b output j) =
    write (write m output (hexDigits b)) (output + 2 * b.length + (j + b.length)) [0x00] := by
  intro b
  induction b with
  | nil =>
    intro m output j
    change write m (output + j) [0x00] = write (write m output []) _ _
    rw [write_nil]
    rfl
  | cons a b ih =>
    intro m output j
    have hend : output + 2 + 2 * b.length + (j + 1 + b.length) = output + 2 * (a :: b).length + (j + (a :: b).length) := by
      simp only [List.length_cons]
      omega
    rw [encodeLoop, stores_cons, stores_cons, ih, hexDigits_cons, write_append, hend]
    congr 2
    exact (write_append m output [hexDigit (a >>> 4)] [hexDigit (a &&& 0x0F)]).symm

/-- The function stores what its loop stores, store by store. -/
theorem binary_to_hexbinary_eq (m : Mem) (b : List UInt8) (output : Nat) :
    (binary_to_hexbinary m b output).1 = stores m (encodeLoop b output 0) := by
  rw [stores_encodeLoop, Nat.zero_add]
  rfl

/-- Where it stores: at the digits, and at the NUL. -/
theorem mem_encodeLoop : ∀ {b : List UInt8} {output j i : Nat}, (∃ s ∈ encodeLoop b output j, s.1 = i) ↔
    output ≤ i ∧ i < output + 2 * b.length ∨ i = output + 2 * b.length + (j + b.length) := by
  intro b
  induction b with
  | nil =>
    intro output j i
    simp only [encodeLoop, List.mem_singleton, exists_eq_left, List.length_nil]
    omega
  | cons a b ih =>
    intro output j i
    rw [encodeLoop]
    simp only [List.exists_mem_cons_iff, ih, List.length_cons]
    omega

/-! ## What is read back -/

/-- The digits are one spelling of the bytes. -/
theorem spelling_hexDigits (b : List UInt8) : Spelling (hexDigits b) b :=
  List.forall₂_map_left_iff.mpr (List.forall₂_same.mpr fun _ _ => .inl rfl)

/-- What `hexbinary_to_binary` stores does not depend on where the output is, as long as it is not inside the text. -/
theorem hexbinary_to_binary_eq {m : Mem} {input output bound : Nat} (h : output ≤ input ∨ input + strlen m input bound ≤ output) :
    hexbinary_to_binary m input output bound = (write m output (hexbinary_of m input bound).1, (hexbinary_of m input bound).2) := by
  have hlen : 2 * (UInt8.ofNat (strlen m input bound / 2)).toNat ≤ strlen m input bound := by
    rw [UInt8.toNat_ofNat']
    have := Nat.mod_le (strlen m input bound / 2) (2 ^ 8)
    omega
  simp only [hexbinary_to_binary, hexbinary_of, hexbinary]
  rw [decodeLoop_eq (by omega)]

section encoded

variable {b : List UInt8} {m : Mem} {output bound : Nat}

/-- The digits are there, whatever was in the buffer. -/
theorem bytes_encoded : bytes (binary_to_hexbinary m b output).1 output (2 * b.length) = hexDigits b := by
  have hend : output + 2 * b.length ≤ output + 2 * b.length + b.length := Nat.le_add_right ..
  have hb := bytes_write_self m output (hexDigits b)
  rw [length_hexDigits] at hb
  rw [binary_to_hexbinary, bytes_write_disjoint _ _ (.inl hend), hb]

/-- The NUL lies three places on for each byte. -/
theorem encoded_end : (binary_to_hexbinary m b output).1 (output + 3 * b.length) = 0x00 := by
  have hend : output + 3 * b.length = output + 2 * b.length + b.length := by omega
  rw [hend]
  exact write_singleton ..

end encoded

/-- Whatever was in the buffer: the text is right, and nothing is stored behind it, exactly for the empty byte
string. -/
theorem roundTrips_iff (b : List UInt8) (m : Mem) (output bound : Nat) : RoundTrips b m output bound ↔ b = [] := by
  constructor
  · intro h
    obtain ⟨s, hs, he⟩ := (@mem_encodeLoop b output 0 _).mpr (.inr rfl)
    have hw := h.within s hs
    exact List.eq_nil_of_length_eq_zero (by omega)
  · rintro rfl
    have hzero : (binary_to_hexbinary m [] output).1 output = 0x00 := encoded_end
    have hstrlen : strlen (binary_to_hexbinary m [] output).1 output bound = 0 :=
      Nat.le_zero.mp (strlen_le_of_zero (i := 0) hzero)
    refine ⟨rfl, hzero, fun s hs => ?_, rfl, ?_⟩
    · rw [List.mem_singleton.mp hs]
      exact Nat.le_refl _
    · simp only [hexbinary_of, hstrlen]
      rfl

/-- Two bytes into a buffer of `z`s. -/
theorem not_roundTrips : ¬∀ b m output bound, b.length ≤ 255 → RoundTrips b m output bound := by
  intro h
  have ht := (h [0xAB, 0xCD] (fun _ => 0x7A) 0 511 (by decide)).terminated
  exact absurd ht (by decide)

end HomeBridge
