import HomeBridge.Ihaplite.Encode

/-!
# From hex text and back, also in place

`hexbinary_to_binary` stores a byte where it has read two characters, so that it may store over the text it reads: an IP task
decodes its line in place. What it makes of a text of digits is turned into the same text by `binary_to_hexbinary`, but for the
letters, which are upper case then.
-/

namespace HomeBridge

open CMem

/-- A letter in upper case. -/
def upperCase (c : UInt8) : UInt8 := if 0x61 ≤ c ∧ c ≤ 0x7A then c - 0x20 else c

/-- At `input`, in an allocation that ends `bound` bytes on, is a string of pairs of hex digits, as long as the length of its text can
be returned. -/
structure HexText (m : Mem) (input bound : Nat) (s : List UInt8) : Prop where
  text : bytes m input s.length = s
  terminated : m (input + s.length) = 0x00
  within : s.length < bound
  digits : ∀ c ∈ s, IsHexChar c
  pairs : s.length % 2 = 0
  short : s.length ≤ 254

/-- What `hexbinary_to_binary` leaves at its output, as long as it says. -/
def decoded (m : Mem) (input output bound : Nat) : List UInt8 :=
  bytes (hexbinary_to_binary m input output bound).1 output (hexbinary_to_binary m input output bound).2.toNat

/-! ## Digits -/

/-- A hex character is one of the sixteen digits, in upper or lower case. -/
theorem digit_of_isHexChar : ∀ n < 256, IsHexChar (UInt8.ofNat n) → ∃ d < 16, UInt8.ofNat n = hexDigit (UInt8.ofNat d) ∨
    UInt8.ofNat n = lowerCase (hexDigit (UInt8.ofNat d)) := by
  decide +kernel

theorem nibbles_pair : ∀ d₁ < 16, ∀ d₂ < 16, nibbles (UInt8.ofNat (16 * d₁ + d₂)) = [UInt8.ofNat d₁, UInt8.ofNat d₂] := by
  decide +kernel

theorem upperCase_nibbles : ∀ n < 256, ((nibbles (UInt8.ofNat n)).all fun d =>
    upperCase (hexDigit d) == hexDigit d && upperCase (lowerCase (hexDigit d)) == hexDigit d) = true := by
  decide +kernel

/-- Pairs of hex characters spell bytes. -/
theorem exists_spelling : ∀ {n : Nat} {s : List UInt8}, s.length = 2 * n → (∀ c ∈ s, IsHexChar c) →
    ∃ p : List UInt8, p.length = n ∧ Spelling s p := by
  have hdigit {c : UInt8} (hc : IsHexChar c) : ∃ d < 16, c = hexDigit (UInt8.ofNat d) ∨ c = lowerCase (hexDigit (UInt8.ofNat d)) := by
    have h := digit_of_isHexChar c.toNat c.toNat_lt
    rw [UInt8.ofNat_toNat] at h
    exact h hc
  intro n
  induction n with
  | zero =>
    intro s hs _
    rw [List.eq_nil_of_length_eq_zero hs]
    exact ⟨[], rfl, List.Forall₂.nil⟩
  | succ n ih =>
    intro s hs hhex
    match s with
    | [] | [_] =>
      simp only [List.length_cons, List.length_nil] at hs
      omega
    | c₁ :: c₂ :: s =>
      obtain ⟨d₁, h₁, hc₁⟩ := hdigit (hhex c₁ (List.mem_cons_self ..))
      obtain ⟨d₂, h₂, hc₂⟩ := hdigit (hhex c₂ (List.mem_cons_of_mem _ (List.mem_cons_self ..)))
      obtain ⟨p, hp, hspell⟩ := ih (s := s) (by simp only [List.length_cons] at hs; omega)
        fun c hc => hhex c (List.mem_cons_of_mem _ (List.mem_cons_of_mem _ hc))
      refine ⟨UInt8.ofNat (16 * d₁ + d₂) :: p, congrArg (· + 1) hp, ?_⟩
      rw [Spelling, List.flatMap_cons, nibbles_pair d₁ h₁ d₂ h₂]
      exact .cons hc₁ (.cons hc₂ hspell)

/-- In upper case a spelling is the digits that `binary_to_hexbinary` writes. -/
theorem Spelling.map_upperCase {s p : List UInt8} (h : Spelling s p) : s.map upperCase = hexDigits p := by
  have hupper : ∀ d ∈ p.flatMap nibbles, upperCase (hexDigit d) = hexDigit d ∧ upperCase (lowerCase (hexDigit d)) = hexDigit d := by
    intro d hd
    obtain ⟨b, _, hd⟩ := List.mem_flatMap.mp hd
    have hall := upperCase_nibbles b.toNat b.toNat_lt
    rw [UInt8.ofNat_toNat, List.all_eq_true] at hall
    simpa using hall d hd
  rw [hexDigits]
  unfold Spelling at h
  generalize p.flatMap nibbles = digits at h hupper
  induction h with
  | nil => rfl
  | @cons c d s ds hc _ ih =>
    obtain ⟨h1, h2⟩ := hupper d (List.mem_cons_self ..)
    rw [List.map_cons, List.map_cons, ih fun d hd => hupper d (List.mem_cons_of_mem _ hd)]
    rcases hc with rfl | rfl
    · rw [h1]
    · rw [h2]

/-- Different bytes have different digits. -/
theorem hexDigits_inj {p p' : List UInt8} : hexDigits p = hexDigits p' ↔ p = p' := by
  constructor
  · intro h
    rw [← decodePairs_spelling (spelling_hexDigits p), h, decodePairs_spelling (spelling_hexDigits p')]
  · exact congrArg hexDigits

/-! ## Texts -/

section text

variable {m : Mem} {input output bound : Nat} {s : List UInt8}

theorem HexText.strlen_eq (h : HexText m input bound s) : strlen m input bound = s.length := by
  refine CMem.strlen_eq (Nat.le_of_lt h.within) (fun i hi h0 => ?_) fun _ => h.terminated
  have hmem : (0x00 : UInt8) ∈ s := by
    rw [← h.text]
    exact List.mem_map.mpr ⟨i, List.mem_range.mpr hi, h0⟩
  exact absurd (h.digits _ hmem) (by decide)

/-- What decoding a text stores, and returns. -/
theorem HexText.decode (h : HexText m input bound s) (hout : output ≤ input ∨ input + s.length ≤ output) :
    ∃ p : List UInt8, Spelling s p ∧ (hexbinary_to_binary m input output bound).2.toNat = p.length ∧
      (hexbinary_to_binary m input output bound).1 = write m output (p ++ [0x00]) := by
  have hshort := h.short
  obtain ⟨p, hp, hspell⟩ := exists_spelling (n := s.length / 2) (by have := h.pairs; omega) h.digits
  have hlen : s.length = 2 * p.length := hspell.length_eq
  have hn : (UInt8.ofNat (s.length / 2)).toNat = p.length := by
    rw [← hp, UInt8.toNat_ofNat']
    exact Nat.mod_eq_of_lt (by omega)
  rw [← h.strlen_eq] at hout
  refine ⟨p, hspell, ?_, ?_⟩
  · rw [hexbinary_to_binary_eq hout, hexbinary_of, h.strlen_eq]
    exact hn
  · rw [hexbinary_to_binary_eq hout, hexbinary_of, h.strlen_eq, hn, ← hlen, h.text, hexbinary, decodePairs_spelling hspell]

theorem HexText.decoded (h : HexText m input bound s) (hout : output ≤ input ∨ input + s.length ≤ output) :
    Spelling s (decoded m input output bound) := by
  obtain ⟨p, hspell, hn, hm⟩ := h.decode hout
  have hself : bytes (write m output (p ++ [0x00])) output p.length = p := by
    rw [write_append, bytes_write_disjoint _ _ (.inl (Nat.le_refl _)), bytes_write_self]
  unfold HomeBridge.decoded
  rwa [hm, hn, hself]

end text

/-- Decoding a text of `2 * n` digits gives `n` bytes, and encoding these gives the text in upper case; two texts give the same bytes
exactly if they differ in the case of letters only. -/
theorem decode_encode {m out : Mem} {input output bound text n : Nat} {s : List UInt8} (h : HexText m input bound s)
    (hn : s.length = 2 * n) (hout : output ≤ input ∨ input + s.length ≤ output) :
    (hexbinary_to_binary m input output bound).2.toNat = n ∧
      (binary_to_hexbinary out (bytes (hexbinary_to_binary m input output bound).1 output n) text).2.toNat = 2 * n ∧
      bytes (binary_to_hexbinary out (bytes (hexbinary_to_binary m input output bound).1 output n) text).1 text (2 * n) =
        s.map upperCase ∧
      ∀ {m' : Mem} {input' output' bound' : Nat} {s' : List UInt8}, HexText m' input' bound' s' →
        (output' ≤ input' ∨ input' + s'.length ≤ output') →
        (decoded m input output bound = decoded m' input' output' bound' ↔ s.map upperCase = s'.map upperCase) := by
  have hspell := h.decoded hout
  have hlen := hspell.length_eq
  have hshort := h.short
  have hret : (hexbinary_to_binary m input output bound).2.toNat = n := by
    obtain ⟨p, hp, hr, -⟩ := h.decode hout
    have := hp.length_eq
    omega
  have hbytes : bytes (hexbinary_to_binary m input output bound).1 output n = decoded m input output bound := by
    unfold decoded
    rw [hret]
  have hd : (decoded m input output bound).length = n := by omega
  rw [hbytes]
  refine ⟨hret, ?_, ?_, fun h' hout' => ?_⟩
  · rw [binary_to_hexbinary, hd, UInt8.toNat_ofNat']
    omega
  · rw [hspell.map_upperCase, ← hd]
    exact bytes_encoded
  · rw [hspell.map_upperCase, (h'.decoded hout').map_upperCase, hexDigits_inj]

/-- Four digits, the buffer for the bytes behind them. -/
theorem decode_encode_mixed : ∃ m : Mem, HexText m 0 5 (ascii "aF09") ∧
    (hexbinary_to_binary m 0 8 5).2.toNat = 2 ∧
    bytes (binary_to_hexbinary zeroed (bytes (hexbinary_to_binary m 0 8 5).1 8 2) 0).1 0 4 = ascii "AF09" := by
  have hall : (ascii "aF09").all (fun c => decide (IsHexChar c)) = true := by decide
  have hdigits : ∀ c ∈ ascii "aF09", IsHexChar c := fun c hc => of_decide_eq_true (List.all_eq_true.mp hall c hc)
  have h : HexText (write zeroed 0 (ascii "aF09")) 0 5 (ascii "aF09") :=
    ⟨by decide, by decide, by decide, hdigits, by decide, by decide⟩
  obtain ⟨hret, -, htext, -⟩ := @decode_encode _ zeroed 0 8 5 0 2 _ h (by decide) (.inr (by decide))
  exact ⟨_, h, hret, htext.trans (by decide)⟩

/-- Decoding a string in place, whatever its characters are, does what decoding it into a buffer apart from it does: the length, the
bytes and the NUL are the same, the NUL lies in the string or ends it, and nothing else is changed. -/
theorem decode_in_place (m : Mem) (p q bound : Nat)
    (hapart : q + strlen m p bound / 2 < p ∨ p + strlen m p bound < q) :
    (hexbinary_to_binary m p p bound).2 = (hexbinary_to_binary m p q bound).2 ∧
      (∀ i ≤ (hexbinary_to_binary m p p bound).2.toNat,
        (hexbinary_to_binary m p p bound).1 (p + i) = (hexbinary_to_binary m p q bound).1 (q + i)) ∧
      (hexbinary_to_binary m p p bound).1 (p + (hexbinary_to_binary m p p bound).2.toNat) = 0x00 ∧
      (hexbinary_to_binary m p p bound).2.toNat ≤ strlen m p bound ∧
      ∀ i, i < p ∨ p + (hexbinary_to_binary m p p bound).2.toNat < i → (hexbinary_to_binary m p p bound).1 i = m i := by
  have hp := @hexbinary_to_binary_eq m p p bound (.inl (Nat.le_refl p))
  have hq := @hexbinary_to_binary_eq m p q bound (by omega)
  have hlen : (hexbinary_of m p bound).1.length = (hexbinary_of m p bound).2.toNat + 1 := by
    simp only [hexbinary_of, length_hexbinary, length_bytes]
    omega
  have hle : (hexbinary_of m p bound).2.toNat ≤ strlen m p bound := by
    have := Nat.mod_le (strlen m p bound / 2) (2 ^ 8)
    rw [hexbinary_of, UInt8.toNat_ofNat']
    omega
  have hnul : (hexbinary_of m p bound).1.getLast? = some 0x00 := List.getLast?_concat ..
  rw [hp, hq]
  dsimp only
  refine ⟨rfl, fun i hi => ?_, ?_, hle, fun i hi => ?_⟩
  · have hi : i < (hexbinary_of m p bound).1.length := by omega
    rw [write_in _ _ hi, write_in _ _ hi]
  · have hi : (hexbinary_of m p bound).2.toNat < (hexbinary_of m p bound).1.length := by omega
    rw [write_in _ _ hi]
    rw [List.getLast?_eq_getElem?, hlen, Nat.add_sub_cancel, List.getElem?_eq_getElem hi] at hnul
    exact Option.some.inj hnul
  · rcases hi with hi | hi
    · exact write_of_lt _ _ hi
    · exact write_of_ge _ _ (by omega)

/-- Five characters, two of them no digits. -/
theorem decode_in_place_odd :
    bytes (hexbinary_to_binary (write zeroed 0 (ascii "4xy2Z")) 0 0 8).1 0 3 =
      bytes (hexbinary_to_binary (write zeroed 0 (ascii "4xy2Z")) 0 16 8).1 16 3 := by
  obtain ⟨-, hsame, -⟩ := decode_in_place (write zeroed 0 (ascii "4xy2Z")) 0 16 8 (.inr (by decide))
  refine bytes_congr fun i hi => hsame i (Nat.le_of_lt_succ (Nat.lt_of_lt_of_le hi (by decide)))

end HomeBridge
