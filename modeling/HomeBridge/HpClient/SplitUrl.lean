import HomeBridge.Lib.Memory
import HomeBridge.Lib.Scan

/-!
# Taking a URL apart

`spliturl` of `mainPUT.c`. The three scan sets of its format have one width, 99, and the buffers of `main` have three sizes; how many of
the fields were there is not looked at, and nobody looks at what is returned.
-/

namespace HomeBridge.SplitUrl

open CMem Scan

/-- The sizes of `ipaddr`, `port` and `page`, and of the buffer for the whole URL. -/
@[simp] def IPSIZE : Nat := 20
@[simp] def PORTSIZE : Nat := 20
@[simp] def PAGESIZE : Nat := 250
@[simp] def URLSIZE : Nat := 255

/-- A URL the client can hold, a string: a host without a colon, a port without a slash, and a page that begins with a slash and is on
one line. -/
structure Url where
  H : List UInt8
  P : List UInt8
  G : List UInt8
  host : 0x3A ∉ H
  port : 0x2F ∉ P
  page : G.head? = some 0x2F
  line : 0x0A ∉ G
  nul : 0x00 ∉ H ++ P ++ G
  held : (ascii "http://" ++ H ++ 0x3A :: P ++ G).length < URLSIZE

def Url.text (u : Url) : List UInt8 := ascii "http://" ++ u.H ++ 0x3A :: u.P ++ u.G

/-- `"http://%99[^:]:%99[^/]%99[^\n]"`. -/
def format : List (Directive UInt8) :=
  (ascii "http://").map .char ++ [.set (· != 0x3A) 99, .char 0x3A, .set (· != 0x2F) 99, .set (· != 0x0A) 99]

/-- What `spliturl` returns, and the fields it stores, each as a string at the start of its buffer. -/
structure Split where
  returned : Int
  ip : Option (List UInt8)
  port : Option (List UInt8)
  page : Option (List UInt8)

/-- `spliturl`. -/
def spliturl (text : List UInt8) : Split :=
  let fields := sscanf format text
  ⟨0, fields[0]?, fields[1]?, fields[2]?⟩

/-- What is stored of a field. -/
def stored (field : Option (List UInt8)) : List (Nat × List UInt8) := field.toList.map fun text => (0, text ++ [0x00])

/-- The string in a buffer. `main` hands over empty ones. -/
def string (field : Option (List UInt8)) : List UInt8 := field.getD []

/-- The strings that `httpput` is called with are the parts of the URL, and they lie in their buffers. -/
structure Split.Parts (r : Split) (u : Url) : Prop where
  ip : string r.ip = u.H
  port : string r.port = u.P
  page : string r.page = u.G
  ip_within : StoresIn (stored r.ip) IPSIZE
  port_within : StoresIn (stored r.port) PORTSIZE
  page_within : StoresIn (stored r.page) PAGESIZE

/-- The URL is taken apart, or it is rejected. -/
def Split.Right (r : Split) (u : Url) : Prop := r.returned ≠ 0 ∨ r.Parts u

/-- Neither host nor port is empty, both fit in their buffers, and the page in the width. -/
structure Url.Fits (u : Url) : Prop where
  host : 1 ≤ u.H.length ∧ u.H.length + 1 ≤ IPSIZE
  port : 1 ≤ u.P.length ∧ u.P.length + 1 ≤ PORTSIZE
  page : u.G.length ≤ 99

section

variable {u : Url}

/-- A string lies in its buffer with its NUL. -/
theorem storesIn_stored {text : List UInt8} {size : Nat} : StoresIn (stored (some text)) size ↔ text.length + 1 ≤ size := by
  simp [StoresIn, stored]

/-- A set that excludes one character accepts what does not have it. -/
theorem accepts_of_not_mem {c : UInt8} {l : List UInt8} (h : c ∉ l) : ∀ b ∈ l, (b != c) = true :=
  fun _ hb => bne_iff_ne.mpr fun he => h (he ▸ hb)

/-- The page starts with the character at which the scan of the port ends. -/
theorem Url.page_takeWhile (u : Url) : u.G.takeWhile (· != 0x2F) = [] := by
  have hpage := u.page
  cases hG : u.G with
  | nil =>
    rw [hG] at hpage
    cases hpage
  | cons b G =>
    rw [hG] at hpage
    cases hpage
    exact List.takeWhile_cons_of_neg (by decide)

/-- What is left to scan behind the scheme. -/
theorem sscanf_text (u : Url) : sscanf format u.text =
    sscanf [.set (· != 0x3A) 99, .char 0x3A, .set (· != 0x2F) 99, .set (· != 0x0A) 99] (u.H ++ 0x3A :: (u.P ++ u.G)) := by
  rw [format, Url.text, List.append_assoc, List.append_assoc, sscanf_chars]
  rfl

/-- The host is scanned up to 99 characters, and an empty one ends the scan. -/
theorem sscanf_host (u : Url) : sscanf format u.text = if u.H.take 99 = [] then [] else
    u.H.take 99 :: sscanf [.char 0x3A, .set (· != 0x2F) 99, .set (· != 0x0A) 99] (u.H.drop 99 ++ 0x3A :: (u.P ++ u.G)) := by
  rw [sscanf_text, sscanf_set (accepts_of_not_mem u.host) (List.takeWhile_cons_of_neg (by decide))]

/-- Behind a host within the width the port is scanned in the same way. -/
theorem sscanf_port (hne : u.H ≠ []) (hle : u.H.length ≤ 99) : sscanf format u.text = u.H :: if u.P.take 99 = [] then [] else
    u.P.take 99 :: sscanf [.set (· != 0x0A) 99] (u.P.drop 99 ++ u.G) := by
  rw [sscanf_text, sscanf_set_fits (accepts_of_not_mem u.host) (List.takeWhile_cons_of_neg (by decide)) hne hle, sscanf, if_pos rfl,
    sscanf_set (accepts_of_not_mem u.port) u.page_takeWhile]

/-- Behind both the rest is the page, up to 99 characters. -/
theorem sscanf_page (hne : u.H ≠ []) (hle : u.H.length ≤ 99) (hne' : u.P ≠ []) (hle' : u.P.length ≤ 99) :
    sscanf format u.text = [u.H, u.P, u.G.take 99] := by
  have hG : u.G.take 99 ≠ [] := by
    have hpage := u.page
    intro h
    rw [List.take_eq_nil_iff] at h
    rw [h.resolve_left (by decide)] at hpage
    cases hpage
  have hset := @sscanf_set UInt8 _ [] (· != 0x0A) 99 u.G [] (accepts_of_not_mem u.line) rfl
  rw [List.append_nil, if_neg hG] at hset
  rw [sscanf_port hne hle, List.take_of_length_le hle', if_neg hne', List.drop_of_length_le hle', List.nil_append, hset]
  rfl

/-- The page has its slash. -/
theorem Url.page_ne_nil (u : Url) : u.G ≠ [] := by
  have hpage := u.page
  intro h
  rw [h] at hpage
  cases hpage

/-- An empty host ends the scan, and a long one does not lie in its buffer. -/
theorem Split.Parts.host_fits (h : (spliturl u.text).Parts u) : u.H ≠ [] ∧ u.H.length + 1 ≤ IPSIZE := by
  have hH : u.H ≠ [] := by
    intro hH
    have hpage := h.page
    rw [spliturl, sscanf_host, hH, if_pos List.take_nil] at hpage
    exact u.page_ne_nil hpage.symm
  have hin := h.ip_within
  rw [spliturl, sscanf_host, if_neg (by simpa using hH)] at hin
  have hin := storesIn_stored.mp hin
  rw [List.length_take] at hin
  simp only [IPSIZE] at hin ⊢
  exact ⟨hH, by omega⟩

/-- So it is with the port. -/
theorem Split.Parts.port_fits (h : (spliturl u.text).Parts u) (hne : u.H ≠ []) (hle : u.H.length ≤ 99) :
    u.P ≠ [] ∧ u.P.length + 1 ≤ PORTSIZE := by
  have hP : u.P ≠ [] := by
    intro hP
    have hpage := h.page
    rw [spliturl, sscanf_port hne hle, hP, if_pos List.take_nil] at hpage
    exact u.page_ne_nil hpage.symm
  have hin := h.port_within
  rw [spliturl, sscanf_port hne hle, if_neg (by simpa using hP)] at hin
  have hin := storesIn_stored.mp hin
  rw [List.length_take] at hin
  simp only [PORTSIZE] at hin ⊢
  exact ⟨hP, by omega⟩

end

/-- A URL is taken apart, or rejected, exactly if its parts are there and fit: none is ever rejected. -/
theorem spliturl_iff (u : Url) : (spliturl u.text).Right u ↔ u.Fits := by
  constructor
  · rintro (hret | h)
    · exact absurd rfl hret
    obtain ⟨hH, hHfit⟩ := h.host_fits
    have hHle : u.H.length ≤ 99 := Nat.le_trans (Nat.le_of_succ_le hHfit) (by decide)
    obtain ⟨hP, hPfit⟩ := h.port_fits hH hHle
    have hPle : u.P.length ≤ 99 := Nat.le_trans (Nat.le_of_succ_le hPfit) (by decide)
    have hpage : u.G.take 99 = u.G := by
      have hpage := h.page
      rwa [spliturl, sscanf_page hH hHle hP hPle] at hpage
    refine ⟨⟨List.length_pos_of_ne_nil hH, hHfit⟩, ⟨List.length_pos_of_ne_nil hP, hPfit⟩, ?_⟩
    rw [← hpage, List.length_take]
    exact Nat.min_le_left ..
  · rintro ⟨⟨hH, hHfit⟩, ⟨hP, hPfit⟩, hG⟩
    have hfields : sscanf format u.text = [u.H, u.P, u.G] := by
      simp only [IPSIZE, PORTSIZE] at hHfit hPfit
      rw [sscanf_page (List.ne_nil_of_length_pos hH) (by omega) (List.ne_nil_of_length_pos hP) (by omega), List.take_of_length_le hG]
    rw [spliturl, hfields]
    refine .inr ⟨rfl, rfl, rfl, storesIn_stored.mpr hHfit, storesIn_stored.mpr hPfit, storesIn_stored.mpr ?_⟩
    simp only [PAGESIZE]
    omega

/-- A host name of 24 characters. -/
def longHost : Url where
  H := ascii "bridge.living-room.local"
  P := ascii "8080"
  G := ascii "/switch/0"
  host := by decide
  port := by decide
  page := by decide
  line := by decide
  nul := by decide
  held := by decide

/-- With its NUL it takes 25 bytes, and 0 is returned. -/
theorem not_spliturl : ¬∀ u, (spliturl u.text).Right u := by
  intro h
  rcases h longHost with hret | hparts
  · exact hret rfl
  · have hin := hparts.ip_within
    rw [spliturl, sscanf_host, if_neg (by decide)] at hin
    exact absurd (storesIn_stored.mp hin) (by decide)

end HomeBridge.SplitUrl
