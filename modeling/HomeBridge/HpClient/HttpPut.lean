import HomeBridge.Hpd.EventText
import HomeBridge.Ihaplite.TcpClient

/-!
# The client's PUT

`httpput` of `mainPUT.c`. One buffer takes the request and then the reply, which is not cleared in between; the length of the request
goes through an `unsigned char`; and the answer is looked for in the first 200 bytes of the reply, and copied to the front of the same
buffer.
-/

namespace HomeBridge.HttpPut

open CMem TcpClient
open Hpd (CString)

/-- The size of the buffer `main` has for the request and the reply. -/
@[simp] def BUFFERSIZE : Nat := 1000

/-- What `"%d"` makes of a number. -/
def decimal (n : Nat) : List UInt8 := (Nat.toDigits 10 n).map fun c => UInt8.ofNat c.toNat

/-- What stands in front of the page, between the page and the length, between the length and the value, and behind the value. -/
def method : List UInt8 := ascii "PUT "
def header : List UInt8 := ascii " HTTP/1.1 \nAccept: text/xml \nContent-Type: text/xml  \nContent-Length: "
def separator : List UInt8 := [0x0D, 0x0A, 0x0D]
def newline : List UInt8 := [0x0A]

/-- The text of the request, as `strcat` puts it together. -/
def requestText (httprequesturl httpvalue : CString) : List UInt8 :=
  method ++ httprequesturl.1 ++ header ++ decimal httpvalue.1.length ++ separator ++ httpvalue.1 ++ newline

/-- The buffer with the request in it. `main` hands over an empty one, all zero. -/
def requestBuffer (httprequesturl httpvalue : CString) : Mem := write zeroed 0 (requestText httprequesturl httpvalue)

/-- `*buffer == '<' && *(buffer + 1) == '?'`. -/
def IsDeclaration (buffer : Mem) (i : Nat) : Prop := buffer i = 0x3C ∧ buffer (i + 1) = 0x3F

instance (buffer : Mem) (i : Nat) : Decidable (IsDeclaration buffer i) := inferInstanceAs (Decidable (_ ∧ _))

/-- Where `buffer` points to after the loop: behind the `<` it has stopped at, or behind the bytes it has looked at. -/
def scan (buffer : Mem) : Nat → Nat → Nat
  | 0, i => i
  | left + 1, i => if IsDeclaration buffer i then i + 1 else scan buffer left (i + 1)

/-- `strcpy(m, m + src)` in a block of `size` bytes. A string without an end, or one that overlaps its copy, has no result. -/
def strcpy (size : Nat) (m : Mem) (src : Nat) : Option Mem :=
  let n := strlen m src (size - src)
  if n < size - src ∧ n < src then some (write m 0 (bytes m src n ++ [0])) else none

/-- `httpput`, of a request that fits in the buffer: its exchange with the server, if that returns, and the buffer it leaves, if nothing
was stored behind its end. -/
def httpput (httprequesturl httpvalue : CString) (server : Option Stream) (x : Exchange) (buffer : Option Mem) : Prop :=
  let request := requestText httprequesturl httpvalue
  let m := x.reply (requestBuffer httprequesturl httpvalue)
  request.length < BUFFERSIZE ∧ IP_send_String request (UInt8.ofNat request.length) server x ∧
    buffer = if x.Inside BUFFERSIZE then strcpy BUFFERSIZE m (scan m 200 0 - 1) else none

/-- Before the line end, the whole request is written. -/
def SendsWhole (httprequesturl httpvalue : CString) (t : Stream) : Prop :=
  ∃ x buffer, httpput httprequesturl httpvalue (some t) x buffer ∧
    x.written.flatten = requestText httprequesturl httpvalue ++ ascii "\r\n"

/-- The buffer is left with the reply from its `k`-th byte on. -/
def FindsAnswer (httprequesturl httpvalue : CString) (t : Stream) (k : Nat) : Prop :=
  ∃ x buffer, httpput httprequesturl httpvalue (some t) x (some buffer) ∧ IsString buffer (t.received.drop k)

/-- The first `<?` of a text is at `k`. -/
structure FirstDeclaration (text : List UInt8) (k : Nat) : Prop where
  found : text.getD k 0 = 0x3C ∧ text.getD (k + 1) 0 = 0x3F
  first : ∀ i < k, ¬(text.getD i 0 = 0x3C ∧ text.getD (i + 1) 0 = 0x3F)

section scan

variable {m : Mem} {i k : Nat}

theorem scan_none : ∀ {left : Nat} {i : Nat}, (∀ j, i ≤ j → j < i + left → ¬IsDeclaration m j) → scan m left i = i + left
  | 0, _, _ => rfl
  | left + 1, i, h => by
    rw [scan, if_neg (h i (Nat.le_refl i) (by omega)), scan_none fun j hj hlt => h j (by omega) (by omega)]
    omega

/-- The loop stops behind the first declaration, if it gets there. -/
theorem scan_first (hk : IsDeclaration m k) : ∀ {left : Nat} {i : Nat}, i ≤ k → k < i + left →
    (∀ j, i ≤ j → j < k → ¬IsDeclaration m j) → scan m left i = k + 1
  | 0, i, hik, hlt, _ => absurd hlt (by omega)
  | left + 1, i, hik, hlt, h => by
    rw [scan]
    by_cases hi : i = k
    · rw [if_pos (hi ▸ hk), hi]
    · rw [if_neg (h i (Nat.le_refl i) (by omega)),
        scan_first hk (show i + 1 ≤ k by omega) (by omega) fun j hj hlt => h j (by omega) hlt]

/-- A copy that has a result is a string that ends before the text it was copied from. -/
theorem strcpy_eq_some {size : Nat} {m' : Mem} (h : strcpy size m i = some m') : ∃ n < i, n < size - i ∧
    (∀ j < n, m (i + j) ≠ 0) ∧ m (i + n) = 0 ∧ m' = write m 0 (bytes m i n ++ [0]) := by
  unfold strcpy at h
  dsimp only at h
  split at h
  · rename_i hn
    cases h
    exact ⟨_, hn.2, hn.1, strlen_spec.1, strlen_spec.2 hn.1, rfl⟩
  · cases h

theorem strcpy_of_end {size n : Nat} (hlt : n < i) (hend : i + n < size) (hno : ∀ j < n, m (i + j) ≠ 0) (h0 : m (i + n) = 0) :
    strcpy size m i = some (write m 0 (bytes m i n ++ [0])) := by
  have hlen : strlen m i (size - i) = n := strlen_eq (by omega) hno fun _ => h0
  unfold strcpy
  dsimp only
  rw [hlen, if_pos ⟨by omega, hlt⟩]

/-- A block with a NUL behind it is a string, and no other one. -/
theorem isString_write {bs text : List UInt8} (hno : 0 ∉ bs) : IsString (write m 0 (bs ++ [0])) text ↔ bs = text := by
  have hbytes : bytes (write m 0 (bs ++ [0])) 0 (bs.length + 1) = bs ++ [0] := by
    have := bytes_write_self m 0 (bs ++ [0])
    rwa [List.length_append] at this
  rw [bytes_add, Nat.zero_add] at hbytes
  obtain ⟨hbs, hnul⟩ := List.append_inj hbytes (length_bytes ..)
  have hnul : write m 0 (bs ++ [0]) bs.length = 0 := List.singleton_inj.mp hnul
  constructor
  · rintro ⟨htext, hno', hnul'⟩
    -- the first NUL is behind both of them
    rcases Nat.lt_trichotomy bs.length text.length with hlt | heq | hgt
    · refine absurd (List.mem_iff_getElem.mpr ⟨bs.length, hlt, ?_⟩) hno'
      have := List.getElem_of_eq htext (i := bs.length) (by simpa using hlt)
      rw [← this, getElem_bytes, Nat.zero_add, hnul]
    · rw [← hbs, ← htext, heq]
    · refine absurd (List.mem_iff_getElem.mpr ⟨text.length, hgt, ?_⟩) hno
      have := List.getElem_of_eq hbs (i := text.length) (by simpa using hgt)
      rw [← this, getElem_bytes, Nat.zero_add, hnul']
  · rintro rfl
    exact ⟨hbs, hno, hnul⟩

end scan

/-! ## The request and the reply in one buffer -/

theorem write_zeroed (bs : List UInt8) (i : Nat) : write zeroed 0 bs i = bs.getD i 0 := by
  by_cases hi : i < bs.length
  · have := write_in zeroed (o := 0) bs hi
    rwa [Nat.zero_add, ← List.getD_eq_getElem bs 0 hi] at this
  · rw [write_of_ge _ _ (by omega), List.getD_eq_default _ _ (by omega)]
    rfl

/-- The digits of a number are no NULs. -/
theorem decimal_no_nul (n : Nat) : 0 ∉ decimal n := by
  intro h
  obtain ⟨c, hc, h0⟩ := List.mem_map.mp h
  have hdigit := Nat.isDigit_of_mem_toDigits (by decide) (by decide) hc
  simp only [Char.isDigit, Bool.and_eq_true, decide_eq_true_eq, ge_iff_le, UInt32.le_iff_toNat_le] at hdigit
  have h0 := congrArg UInt8.toNat h0
  rw [UInt8.toNat_ofNat', UInt8.toNat_zero] at h0
  change 48 ≤ c.toNat ∧ c.toNat ≤ 57 at hdigit
  omega

theorem requestText_no_nul (httprequesturl httpvalue : CString) : 0 ∉ requestText httprequesturl httpvalue := by
  simp only [requestText, List.mem_append, not_or]
  exact ⟨⟨⟨⟨⟨⟨by decide, httprequesturl.2⟩, by decide⟩, decimal_no_nul _⟩, by decide⟩, httpvalue.2⟩, by decide⟩

section exchange

variable {httprequesturl httpvalue : CString} {t : Stream} {k : Nat}

/-- The request fits in the buffer with its NUL. -/
def Fits (httprequesturl httpvalue : CString) : Prop := (requestText httprequesturl httpvalue).length < BUFFERSIZE

/-- The buffer after the exchange. -/
def replyBuffer (httprequesturl httpvalue : CString) (t : Stream) : Mem :=
  write (write (requestBuffer httprequesturl httpvalue) 0 t.received) (t.received.length + 1) [0]

/-- The reply, then what is left of the request at its end. -/
theorem replyBuffer_lt {i : Nat} (hi : i < t.received.length) :
    replyBuffer httprequesturl httpvalue t i = t.received.getD i 0 := by
  have := write_in (requestBuffer httprequesturl httpvalue) (o := 0) t.received hi
  rw [Nat.zero_add, ← List.getD_eq_getElem _ 0 hi] at this
  rw [replyBuffer, write_of_lt _ _ (by omega), this]

theorem replyBuffer_length : replyBuffer httprequesturl httpvalue t t.received.length =
    (requestText httprequesturl httpvalue).getD t.received.length 0 := by
  rw [replyBuffer, write_of_lt _ _ (Nat.lt_succ_self _), write_of_ge _ _ (Nat.le_of_eq (Nat.zero_add _)), requestBuffer,
    write_zeroed]

/-- The byte behind the reply is a NUL where no request has reached that far. -/
theorem replyBuffer_ends : replyBuffer httprequesturl httpvalue t t.received.length = 0 ↔
    (requestText httprequesturl httpvalue).length ≤ t.received.length := by
  rw [replyBuffer_length]
  constructor
  · intro h0
    by_contra hlt
    rw [Nat.not_le] at hlt
    rw [List.getD_eq_getElem _ 0 hlt] at h0
    exact requestText_no_nul _ _ (h0 ▸ List.getElem_mem hlt)
  · exact fun hle => List.getD_eq_default _ _ hle

theorem replyBuffer_ne (hno : 0 ∉ t.received) {i : Nat} (hi : i < t.received.length) :
    replyBuffer httprequesturl httpvalue t i ≠ 0 := by
  rw [replyBuffer_lt hi, List.getD_eq_getElem _ 0 hi]
  exact fun h0 => hno (h0 ▸ List.getElem_mem hi)

/-- The declaration is inside the reply. -/
theorem FirstDeclaration.lt {text : List UInt8} (h : FirstDeclaration text k) : k + 1 < text.length := by
  by_contra hle
  rw [Nat.not_lt] at hle
  have := h.found.2
  rw [List.getD_eq_default _ _ hle] at this
  exact absurd this (by decide)

/-- The scan goes to the first declaration, and not further than 200 bytes. -/
theorem scan_replyBuffer (h : FirstDeclaration t.received k) :
    scan (replyBuffer httprequesturl httpvalue t) 200 0 - 1 = if k < 200 then k else 199 := by
  have hlt := h.lt
  have hno : ∀ j, 0 ≤ j → j < k → ¬IsDeclaration (replyBuffer httprequesturl httpvalue t) j := by
    intro j _ hj
    rw [IsDeclaration, replyBuffer_lt (by omega), replyBuffer_lt (by omega)]
    exact h.first j hj
  split
  · rename_i hk
    have hfound : IsDeclaration (replyBuffer httprequesturl httpvalue t) k := by
      rw [IsDeclaration, replyBuffer_lt (by omega), replyBuffer_lt hlt]
      exact h.found
    rw [scan_first hfound (Nat.zero_le k) (by omega) hno, Nat.add_sub_cancel]
  · rw [scan_none fun j hj hlt => hno j hj (by omega)]

/-- What `httpput` does where the server closes the stream. -/
theorem httpput_iff (hfits : Fits httprequesturl httpvalue) (he : t.ending = .eof) {x : Exchange} {buffer : Option Mem} :
    httpput httprequesturl httpvalue (some t) x buffer ↔
      x = answered (requestText httprequesturl httpvalue) (UInt8.ofNat (requestText httprequesturl httpvalue).length) t ∧
      buffer = if t.received.length + 2 ≤ BUFFERSIZE then
        strcpy BUFFERSIZE (replyBuffer httprequesturl httpvalue t) (scan (replyBuffer httprequesturl httpvalue t) 200 0 - 1)
        else none := by
  unfold httpput
  dsimp only
  rw [returns_iff]
  constructor
  · rintro ⟨_, ⟨_, rfl⟩, hbuffer⟩
    simp only [answered_inside, answered_reply] at hbuffer
    exact ⟨rfl, hbuffer⟩
  · rintro ⟨rfl, hbuffer⟩
    simp only [answered_inside, answered_reply]
    exact ⟨hfits, ⟨he, trivial⟩, hbuffer⟩

/-- The whole request is written where its length fits in a byte. -/
theorem sendsWhole_iff (hfits : Fits httprequesturl httpvalue) (he : t.ending = .eof) :
    SendsWhole httprequesturl httpvalue t ↔ (requestText httprequesturl httpvalue).length ≤ 255 := by
  rw [← request_flatten_iff]
  constructor
  · rintro ⟨x, buffer, hput, hwritten⟩
    obtain ⟨rfl, _⟩ := (httpput_iff hfits he).mp hput
    exact hwritten
  · intro h
    exact ⟨_, _, (httpput_iff hfits he).mpr ⟨rfl, rfl⟩, h⟩

/-- The reply from some place on, as the copy takes it from the buffer. -/
theorem bytes_replyBuffer (i : Nat) :
    bytes (replyBuffer httprequesturl httpvalue t) i (t.received.length - i) = t.received.drop i := by
  refine List.ext_getElem (by simp) fun j h₁ h₂ => ?_
  rw [length_bytes] at h₁
  rw [getElem_bytes, replyBuffer_lt (by omega), List.getElem_drop, List.getD_eq_getElem]

/-- The answer is found where it begins in the first 200 bytes and behind the middle of a reply that is no shorter than the request. -/
theorem findsAnswer_iff (hfits : Fits httprequesturl httpvalue) (he : t.ending = .eof) (hno : 0 ∉ t.received)
    (hk : FirstDeclaration t.received k) :
    FindsAnswer httprequesturl httpvalue t k ↔
      (requestText httprequesturl httpvalue).length ≤ t.received.length ∧ k < 200 ∧ t.received.length < 2 * k := by
  have hlt := hk.lt
  have hscan := @scan_replyBuffer httprequesturl httpvalue t k hk
  constructor
  · rintro ⟨x, m, hput, hstring⟩
    obtain ⟨_, hbuffer⟩ := (httpput_iff hfits he).mp hput
    split at hbuffer
    · obtain ⟨n, hni, _, hne, h0, rfl⟩ := strcpy_eq_some hbuffer.symm
      rw [hscan] at hni hne h0 hstring
      generalize hi : (if k < 200 then k else 199) = i at hni hne h0 hstring
      have hik : i ≤ k := by
        subst hi
        split <;> omega
      have hno' : 0 ∉ bytes (replyBuffer httprequesturl httpvalue t) i n := by
        intro hmem
        obtain ⟨j, hj, hj0⟩ := List.mem_iff_getElem.mp hmem
        rw [getElem_bytes] at hj0
        rw [length_bytes] at hj
        exact hne j hj hj0
      have hlen := congrArg List.length ((isString_write hno').mp hstring)
      rw [length_bytes, List.length_drop] at hlen
      -- the string reaches to the end of the reply, so it begins at the declaration
      have hend : t.received.length ≤ i + n := by
        by_contra hlt'
        exact replyBuffer_ne hno (by omega) h0
      have hin : i + n = t.received.length := by omega
      rw [hin] at h0
      refine ⟨replyBuffer_ends.mp h0, ?_, by omega⟩
      by_contra hk'
      rw [if_neg hk'] at hi
      omega
    · cases hbuffer
  · rintro ⟨hrequest, hk200, hlen⟩
    have hcopy : strcpy BUFFERSIZE (replyBuffer httprequesturl httpvalue t) k =
        some (write (replyBuffer httprequesturl httpvalue t) 0 (t.received.drop k ++ [0])) := by
      rw [← bytes_replyBuffer]
      refine strcpy_of_end (by omega) (by simp only [BUFFERSIZE]; omega) (fun j hj => replyBuffer_ne hno (by omega)) ?_
      rw [show k + (t.received.length - k) = t.received.length by omega]
      exact replyBuffer_ends.mpr hrequest
    have hsome : (if t.received.length + 2 ≤ BUFFERSIZE then
        strcpy BUFFERSIZE (replyBuffer httprequesturl httpvalue t) (scan (replyBuffer httprequesturl httpvalue t) 200 0 - 1)
        else none) = some (write (replyBuffer httprequesturl httpvalue t) 0 (t.received.drop k ++ [0])) := by
      rw [if_pos (by simp only [BUFFERSIZE]; omega), hscan, if_pos hk200, hcopy]
    refine ⟨_, _, (httpput_iff hfits he).mpr ⟨rfl, hsome.symm⟩, (isString_write ?_).mpr rfl⟩
    exact fun h0 => hno (List.mem_of_mem_drop h0)

end exchange

/-- Where the request fits in the buffer and the reply holds an XML declaration, the whole request is written exactly if its length fits
in a byte, and the answer is found exactly if it begins in the first 200 bytes, and behind the middle, of a reply that is no shorter than
the request. -/
theorem exchange_iff (httprequesturl httpvalue : CString) (t : Stream) (k : Nat)
    (hfits : Fits httprequesturl httpvalue) (he : t.ending = .eof) (hno : 0 ∉ t.received) (hk : FirstDeclaration t.received k) :
    (SendsWhole httprequesturl httpvalue t ↔ (requestText httprequesturl httpvalue).length ≤ 255) ∧
    (FindsAnswer httprequesturl httpvalue t k ↔
      (requestText httprequesturl httpvalue).length ≤ t.received.length ∧ k < 200 ∧ t.received.length < 2 * k) :=
  ⟨sendsWhole_iff hfits he, findsAnswer_iff hfits he hno hk⟩

theorem length_requestText (httprequesturl httpvalue : CString) : (requestText httprequesturl httpvalue).length =
    httprequesturl.1.length + (decimal httpvalue.1.length).length + httpvalue.1.length + 78 := by
  have hheader : header.length = 70 := by decide
  have hmethod : method.length = 4 := by decide
  have hseparator : separator.length = 3 := rfl
  have hnewline : newline.length = 1 := rfl
  simp only [requestText, List.length_append, hheader, hmethod, hseparator, hnewline]
  omega

/-- A reply of a server that closes: 80 bytes of header, and a declaration. -/
def declarationStream : Stream := ⟨[List.replicate 80 88, [0x3C, 0x3F, 0x78, 0x3E]], .eof, by decide, by decide⟩

theorem declarationStream_first : FirstDeclaration declarationStream.received 80 := by
  have hreceived : declarationStream.received = List.replicate 80 88 ++ [0x3C, 0x3F, 0x78, 0x3E] := rfl
  refine ⟨⟨rfl, rfl⟩, fun i hi h => ?_⟩
  rw [hreceived, List.getD_append _ _ _ _ (by simpa using hi), List.getD_replicate _ hi] at h
  exact absurd h.1 (by decide)

/-- The value `1` for the page `/a`. -/
theorem exchange_iff_declaration : SendsWhole ⟨[47, 97], by decide⟩ ⟨[49], by decide⟩ declarationStream ∧
    FindsAnswer ⟨[47, 97], by decide⟩ ⟨[49], by decide⟩ declarationStream 80 := by
  have h := exchange_iff ⟨[47, 97], by decide⟩ ⟨[49], by decide⟩ declarationStream 80 (by unfold Fits; decide) rfl (by decide)
    declarationStream_first
  exact ⟨h.1.mpr (by decide), h.2.mpr (by decide)⟩

/-- A page of 200 characters makes the request longer than its length byte says. -/
theorem not_exchange : ¬∀ (httprequesturl httpvalue : CString) (t : Stream) (k : Nat), Fits httprequesturl httpvalue →
    t.ending = .eof → 0 ∉ t.received → FirstDeclaration t.received k →
    SendsWhole httprequesturl httpvalue t ∧ FindsAnswer httprequesturl httpvalue t k := by
  intro h
  have hfits : Fits ⟨List.replicate 200 47, by decide⟩ ⟨[49], by decide⟩ := by
    rw [Fits, length_requestText, List.length_replicate]
    decide
  have hsends := (h _ _ declarationStream 80 hfits rfl (by decide) declarationStream_first).1
  have hlen := (sendsWhole_iff hfits (t := declarationStream) rfl).mp hsends
  simp only [length_requestText, List.length_replicate] at hlen
  omega

end HomeBridge.HttpPut
