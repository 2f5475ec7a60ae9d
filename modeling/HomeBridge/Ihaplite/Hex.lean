import Mathlib.Data.List.Forall2
import HomeBridge.Ihaplite.Framework

/-!
# Hex text and bytes

The two codecs of `auxfunctions.c`. `hexbinary_to_binary` is also called with input and output at the same place; it is modelled
on one memory with two positions, so that decoding in place is decoding.
-/

namespace HomeBridge

open CMem

/-- The digit `binary_to_hexbinary` writes for a value below 16. -/
def hexDigit (value : UInt8) : UInt8 := if value < 10 then value + 0x30 else value + 55

/-- The two halves of a byte. -/
def nibbles (b : UInt8) : List UInt8 := [b >>> 4, b &&& 0x0F]

/-- The upper-case digits of a byte string. -/
def hexDigits (input : List UInt8) : List UInt8 := (input.flatMap nibbles).map hexDigit

/-- `binary_to_hexbinary`: the digits from `output` on and the returned length. The pointer `output` has moved past the digits
when the NUL is stored at `output[j]`. -/
def binary_to_hexbinary (m : Mem) (input : List UInt8) (output : Nat) : Mem × UInt8 :=
  (write (write m output (hexDigits input)) (output + 2 * input.length + input.length) [0], UInt8.ofNat (input.length * 2))

/-- One digit read: the value so far is shifted and the digit added; any other character leaves it as it is. -/
def readDigit (value c : UInt8) : UInt8 :=
  if 0x30 ≤ c ∧ c ≤ 0x39 then (value <<< 4) + (c - 0x30)
  else if 0x41 ≤ c ∧ c ≤ 0x46 then (value <<< 4) + (c - 0x41 + 10)
  else if 0x61 ≤ c ∧ c ≤ 0x66 then (value <<< 4) + (c - 0x61 + 10)
  else value

/-- The loop of `hexbinary_to_binary`: two characters are read, then one byte is stored; at the end a NUL. -/
def decodeLoop : Nat → Mem → Nat → Nat → Mem
  | 0, m, _, output => write m output [0]
  | n + 1, m, input, output =>
    decodeLoop n (write m output [readDigit (readDigit 0 (m input)) (m (input + 1))]) (input + 2) (output + 1)

/-- `hexbinary_to_binary` of the string at `input`, in an allocation that ends `bound` bytes on. -/
def hexbinary_to_binary (m : Mem) (input output bound : Nat) : Mem × UInt8 :=
  let length := UInt8.ofNat (strlen m input bound / 2)
  (decodeLoop length.toNat m input output, length)

/-- The bytes that two by two characters of a text stand for. -/
def decodePairs : List UInt8 → List UInt8
  | c₁ :: c₂ :: text => readDigit (readDigit 0 c₁) c₂ :: decodePairs text
  | _ => []

/-- `hexbinary_to_binary` of a text that lies elsewhere than the output: what is stored at the output. -/
def hexbinary (text : List UInt8) : List UInt8 := decodePairs text ++ [0]

/-- Two characters are one byte, and a last one is dropped. -/
theorem length_decodePairs (text : List UInt8) : (decodePairs text).length = text.length / 2 := by
  induction text using decodePairs.induct with
  | case1 c₁ c₂ text ih =>
    rw [decodePairs, List.length_cons, ih, List.length_cons, List.length_cons]
    omega
  | case2 text hshort =>
    match text with
    | [] => rfl
    | [c] => simp [decodePairs]
    | c₁ :: c₂ :: text => exact absurd rfl (hshort c₁ c₂ text)

/-- The NUL is counted. -/
theorem length_hexbinary (text : List UInt8) : (hexbinary text).length = text.length / 2 + 1 := by
  rw [hexbinary, List.length_append, length_decodePairs, List.length_singleton]

/-! ## Rendering for the console -/

/-- `binary_to_hexbinaryString`: what `sprintf` stores in the print buffer for each byte, its two digits, a blank and a NUL. -/
def binary_to_hexbinaryString (input : List UInt8) : List (Nat × List UInt8) :=
  input.mapIdx fun i b => (i * 3, hexDigits [b] ++ [0x20, 0x00])

/-- The last call stores the most. -/
theorem storesIn_hexbinaryString {input : List UInt8} {n : Nat} (h0 : input ≠ []) :
    StoresIn (binary_to_hexbinaryString input) n ↔ 3 * input.length + 1 ≤ n := by
  have hpos : 0 < input.length := List.length_pos_iff.mpr h0
  have hsize : ∀ b : UInt8, (hexDigits [b] ++ [0x20, 0x00]).length = 4 := fun b => by simp [hexDigits, nibbles]
  constructor
  · intro h
    have hlast := h _ (List.mem_mapIdx.mpr ⟨input.length - 1, by omega, rfl⟩)
    rw [hsize] at hlast
    omega
  · intro h s hs
    obtain ⟨i, hi, rfl⟩ := List.mem_mapIdx.mp hs
    rw [hsize]
    omega

/-! ## Spellings -/

/-- A letter in lower case. -/
def lowerCase (c : UInt8) : UInt8 := if 0x41 ≤ c ∧ c ≤ 0x5A then c + 0x20 else c

/-- `text` is the hex digits of `bytes`, each in upper or lower case. -/
def Spelling (text bytes : List UInt8) : Prop :=
  List.Forall₂ (fun c d => c = hexDigit d ∨ c = lowerCase (hexDigit d)) text (bytes.flatMap nibbles)

/-- A spelling has two characters for each byte. -/
theorem Spelling.length_eq {text p : List UInt8} (h : Spelling text p) : text.length = 2 * p.length := by
  have h1 : text.length = (p.flatMap nibbles).length := List.Forall₂.length_eq h
  simpa [List.length_flatMap, nibbles, Function.comp_def, Nat.mul_comm] using h1

/-- A spelling of a byte and more is two characters and a spelling of the rest. -/
theorem Spelling.cons {text p : List UInt8} {b : UInt8} (h : Spelling text (b :: p)) :
    ∃ c₁ c₂ rest, text = c₁ :: c₂ :: rest ∧ (c₁ = hexDigit (b >>> 4) ∨ c₁ = lowerCase (hexDigit (b >>> 4))) ∧
      (c₂ = hexDigit (b &&& 0x0F) ∨ c₂ = lowerCase (hexDigit (b &&& 0x0F))) ∧ Spelling rest p := by
  obtain ⟨c₁, t₁, h1, ht₁, rfl⟩ := List.forall₂_cons_right_iff.mp h
  obtain ⟨c₂, t₂, h2, ht₂, rfl⟩ := List.forall₂_cons_right_iff.mp ht₁
  exact ⟨c₁, c₂, t₂, rfl, h1, h2, ht₂⟩

/-- The two digits of a byte, read one after the other, give the byte: checked for every byte and every spelling. -/
theorem readDigit_nibbles : ∀ n < 256, ∀ u₁ u₂ : Bool,
    let b := UInt8.ofNat n
    let d₁ := hexDigit (b >>> 4)
    let d₂ := hexDigit (b &&& 0x0F)
    readDigit (readDigit 0 (if u₁ then d₁ else lowerCase d₁)) (if u₂ then d₂ else lowerCase d₂) = b := by
  decide +kernel

/-- Two digits of either case are read as the byte they spell. -/
theorem readDigit_spelled {b c₁ c₂ : UInt8} (h₁ : c₁ = hexDigit (b >>> 4) ∨ c₁ = lowerCase (hexDigit (b >>> 4)))
    (h₂ : c₂ = hexDigit (b &&& 0x0F) ∨ c₂ = lowerCase (hexDigit (b &&& 0x0F))) :
    readDigit (readDigit 0 c₁) c₂ = b := by
  have h := readDigit_nibbles b.toNat b.toNat_lt
  rw [UInt8.ofNat_toNat] at h
  rcases h₁ with rfl | rfl <;> rcases h₂ with rfl | rfl
  · exact h true true
  · exact h true false
  · exact h false true
  · exact h false false

/-- A character an IP task takes for the start of hex text. -/
def IsHexChar (c : UInt8) : Prop := 0x30 ≤ c ∧ c ≤ 0x39 ∨ 0x61 ≤ c ∧ c ≤ 0x66 ∨ 0x41 ≤ c ∧ c ≤ 0x46

instance (c : UInt8) : Decidable (IsHexChar c) := by unfold IsHexChar; infer_instance

/-- Every character of a spelling is a digit, so none is a NUL or ends a line. -/
theorem isHexChar_digit : ∀ n < 256, ((nibbles (UInt8.ofNat n)).flatMap fun d => [hexDigit d, lowerCase (hexDigit d)]).all
    (fun c => decide (IsHexChar c ∧ c ≠ 0x00 ∧ c ≠ 0x0d ∧ c ≠ 0x0a)) = true := by
  decide +kernel

/-- A digit of a spelling is a hex digit, no NUL and no line end. -/
theorem isHexChar_nibble {b d c : UInt8} (hd : d ∈ nibbles b) (hc : c = hexDigit d ∨ c = lowerCase (hexDigit d)) :
    IsHexChar c ∧ c ≠ 0x00 ∧ c ≠ 0x0d ∧ c ≠ 0x0a := by
  have h := isHexChar_digit b.toNat b.toNat_lt
  rw [UInt8.ofNat_toNat, List.all_eq_true] at h
  exact of_decide_eq_true (h c (List.mem_flatMap.mpr ⟨d, hd, by simpa using hc⟩))

/-- So are all characters of a spelling. -/
theorem Spelling.isHexChar : ∀ {p text : List UInt8}, Spelling text p →
    ∀ c ∈ text, IsHexChar c ∧ c ≠ 0x00 ∧ c ≠ 0x0d ∧ c ≠ 0x0a
  | [], text, h, c, hc => by
    cases h
    cases hc
  | b :: p, text, h, c, hc => by
    obtain ⟨c₁, c₂, rest, rfl, h1, h2, hrest⟩ := h.cons
    rcases List.mem_cons.mp hc with rfl | hc
    · exact isHexChar_nibble (List.mem_cons_self ..) h1
    · rcases List.mem_cons.mp hc with rfl | hc
      · exact isHexChar_nibble (List.mem_cons_of_mem _ (List.mem_singleton_self _)) h2
      · exact Spelling.isHexChar hrest c hc

/-! ## Decoding -/

/-- Decoding to a place that is not behind the text, or is behind all of it, stores what the text stands for, and a NUL: a byte is stored
where the text has been read. -/
theorem decodeLoop_eq : ∀ {n : Nat} {m : Mem} {input output : Nat}, output ≤ input ∨ input + 2 * n ≤ output →
    decodeLoop n m input output = write m output (decodePairs (bytes m input (2 * n)) ++ [0x00]) := by
  intro n
  induction n with
  | zero =>
    intro m input output _
    rfl
  | succ n ih =>
    intro m input output h
    have hsplit : bytes m input (2 * (n + 1)) = m input :: m (input + 1) :: bytes m (input + 2) (2 * n) := by
      rw [show 2 * (n + 1) = 2 * n + 1 + 1 by omega, bytes_succ, bytes_succ]
    -- what is still to be read is as it was
    have hrest (b : UInt8) : bytes (write m output [b]) (input + 2) (2 * n) = bytes m (input + 2) (2 * n) :=
      bytes_write_disjoint m _ (by simp only [List.length_singleton]; omega)
    rw [decodeLoop, ih (by omega), hrest, hsplit, decodePairs]
    exact (write_append m output [_] _).symm

/-- A text that spells `p` stands for `p`. -/
theorem decodePairs_spelling : ∀ {p text : List UInt8}, Spelling text p → decodePairs text = p := by
  intro p
  induction p with
  | nil =>
    intro text h
    cases h
    rfl
  | cons b p ih =>
    intro text h
    obtain ⟨c₁, c₂, rest, rfl, h1, h2, hrest⟩ := h.cons
    rw [decodePairs, readDigit_spelled h1 h2, ih hrest]

/-- Decoding the spelling of `p` into a place not behind it: the bytes of `p` and a NUL, and nothing else changes. -/
theorem decodeLoop_spelling {p : List UInt8} {m : Mem} {input output : Nat} (hle : output ≤ input)
    (h : Spelling (bytes m input (2 * p.length)) p) :
    bytes (decodeLoop p.length m input output) output p.length = p ∧
      decodeLoop p.length m input output (output + p.length) = 0 ∧
      ∀ i, i < output ∨ output + p.length < i → decodeLoop p.length m input output i = m i := by
  rw [decodeLoop_eq (.inl hle), decodePairs_spelling h, write_append]
  refine ⟨?_, write_singleton .., fun i hi => ?_⟩
  · rw [bytes_write_disjoint _ _ (.inl (Nat.le_refl _)), bytes_write_self]
  · rcases hi with hi | hi
    · rw [write_of_lt _ _ (by omega), write_of_lt _ _ hi]
    · rw [write_of_ge _ _ hi, write_of_ge _ _ (by omega)]

/-- `hexbinary_to_binary` on a string that spells `p`. -/
theorem hexbinary_to_binary_spelling {p : List UInt8} {m : Mem} {input output bound : Nat} (hle : output ≤ input)
    (h : Spelling (bytes m input (2 * p.length)) p) (hlen : strlen m input bound = 2 * p.length) (hp : p.length < 256) :
    (hexbinary_to_binary m input output bound).2 = UInt8.ofNat p.length ∧
      bytes (hexbinary_to_binary m input output bound).1 output p.length = p ∧
      (hexbinary_to_binary m input output bound).1 (output + p.length) = 0 ∧
      ∀ i, i < output ∨ output + p.length < i → (hexbinary_to_binary m input output bound).1 i = m i := by
  have hl : (UInt8.ofNat (strlen m input bound / 2)) = UInt8.ofNat p.length := by
    rw [hlen, Nat.mul_div_cancel_left _ (by decide)]
  have hn : (UInt8.ofNat p.length).toNat = p.length := by
    rw [UInt8.toNat_ofNat']
    exact Nat.mod_eq_of_lt hp
  have heq : hexbinary_to_binary m input output bound = (decodeLoop p.length m input output, UInt8.ofNat p.length) := by
    simp only [hexbinary_to_binary, hl, hn]
  rw [heq]
  exact ⟨rfl, decodeLoop_spelling hle h⟩

end HomeBridge
