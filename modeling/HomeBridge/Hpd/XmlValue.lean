import HomeBridge.Lib.Escape
import HomeBridge.Lib.Text

/-!
# The text of a value

Server and client send each other a value as the text of a `value` element. Each has a `get_xml_value` (`hpd_xml.c`, `xmlhttputils.c`),
which stores the value as one text node; their `get_value_from_xml_value` is the same, and takes the first child of the element it
finds. In between, `mxml` cuts the text at its blanks.

`mxml` is taken as it is documented. Its strings are UTF-8, and are texts of characters here.
-/

namespace HomeBridge.Hpd

open Text

/-- `iscntrl`. -/
def iscntrl (c : Char) : Bool := c.toNat < 32 || c.toNat == 127

/-- `isspace`, as `mxml` has it. -/
def isspace (c : Char) : Bool := c == ' ' || c == '\t' || c == '\n' || c == '\r'

/-- A text without control characters. -/
abbrev PlainText : Type := { s : List Char // ∀ c ∈ s, iscntrl c = false }

def plain (s : List Char) (h : s.any iscntrl = false) : PlainText := ⟨s, fun c hc => by simpa using List.any_eq_false.mp h c hc⟩

/-- The characters `mxml` writes as entities. -/
def specials : List (Char × List Char) := [('&', "amp".toList), ('<', "lt".toList), ('>', "gt".toList), ('"', "quot".toList)]

/-- A character that has a name, with that name. -/
theorem mem_specials {p : Char × List Char → Bool} {x : Char × List Char} (h : specials.find? p = some x) : p x = true ∧ x ∈ specials :=
  ⟨List.find?_some h, List.mem_of_find?_eq_some h⟩

/-- `mxmlEntityGetName` and `mxmlEntityGetValue`, for these characters. -/
def entities : Names Char where
  mark := '&'
  stop := ';'
  name c := (specials.find? (·.1 == c)).map (·.2)
  value n := (specials.find? (·.2 == n)).map (·.1)
  name_mark := by decide
  stop_not_mem := by
    intro c n h
    obtain ⟨x, hx, rfl⟩ := Option.map_eq_some_iff.mp h
    have hall : ∀ x ∈ specials, ';' ∉ x.2 := by decide
    exact hall x (mem_specials hx).2
  value_name := by
    intro c n h
    obtain ⟨x, hx, rfl⟩ := Option.map_eq_some_iff.mp h
    have hall : ∀ x ∈ specials, (specials.find? (·.2 == x.2)).map (·.1) = some x.1 := by decide
    rw [hall x (mem_specials hx).2, eq_of_beq (mem_specials hx).1]

/-- `mxml_node_t`, by its two types that occur here. -/
inductive XmlNode where
  | element (name : List Char) (attrs : List (List Char × List Char)) (child : List XmlNode)
  | text (whitespace : Bool) (string : List Char)

def XmlNode.isText : XmlNode → Bool
  | .element _ _ _ => false
  | .text _ _ => true

/-- The functions of `mxml`, and the texts that are its own: the name of the node `mxmlNewXML("1.0")` makes, and what it writes around
the text of a value. -/
structure Mxml where
  declaration : List Char
  opening : Option PlainText → List Char
  closing : List Char
  mxmlSaveAllocString : XmlNode → List Char
  mxmlLoadString : List Char → Option XmlNode
  mxmlFindElement : XmlNode → List Char → Option XmlNode
  mxmlElementGetAttr : XmlNode → String → Option (List Char)

/-- A `value` element, with its timestamp where it has one. -/
def valueNode (timestamp : Option PlainText) (child : List XmlNode) : XmlNode :=
  .element "value".toList (timestamp.toList.map fun t => ("timestamp".toList, t.1)) child

/-- The tree of a value. -/
def valueTree (x : Mxml) (timestamp : Option PlainText) (value : List Char) : XmlNode :=
  .element x.declaration [] [valueNode timestamp [.text false value]]

/-- `get_xml_value` of the server. -/
def get_xml_value (x : Mxml) (timestamp : PlainText) (value : List Char) : List Char :=
  x.mxmlSaveAllocString (valueTree x (some timestamp) value)

/-- `get_xml_value` of the client. -/
def Client.get_xml_value (x : Mxml) (return_value : List Char) : List Char := x.mxmlSaveAllocString (valueTree x none return_value)

/-- The string of the first child of a node. An element has none there. -/
def XmlNode.firstString : XmlNode → Option (List Char)
  | .element _ _ (.text _ string :: _) => some string
  | _ => none

/-- `get_value_from_xml_value`. -/
def get_value_from_xml_value (x : Mxml) (_xml_value : List Char) : Option (List Char) :=
  (x.mxmlLoadString _xml_value).bind fun xml => (x.mxmlFindElement xml "value".toList).bind XmlNode.firstString

/-- What the documentation of `mxml` says. -/
structure Mxml.Documented (x : Mxml) : Prop where
  /-- Special characters are written as entities, and nothing else of a text changes. -/
  save : ∀ (timestamp : Option PlainText) (value : PlainText),
    x.mxmlSaveAllocString (valueTree x timestamp value.1) = x.opening timestamp ++ entities.escape value.1 ++ x.closing
  /-- With `MXML_TEXT_CALLBACK` each word of the text becomes a node, its entities read back. There may be text outside the element. -/
  load : ∀ (timestamp : Option PlainText) (t : PlainText) (ws : List (Bool × List Char)), '<' ∉ t.1 →
    ((words isspace false [] t.1).map fun w => (w.1, entities.unescape none w.2)) = ws.map (fun w => (w.1, some w.2)) →
    ∃ before after, (∀ n ∈ before, n.isText = true) ∧
      x.mxmlLoadString (x.opening timestamp ++ t.1 ++ x.closing) = some (.element x.declaration []
        (before ++ valueNode timestamp (ws.map fun w => .text w.1 w.2) :: after))
  /-- With `MXML_DESCEND` the nodes below the top are searched in the order of the document. -/
  find : ∀ (top name : List Char) (topAttrs attrs : List (List Char × List Char)) (before after child : List XmlNode),
    (∀ n ∈ before, n.isText = true) →
    x.mxmlFindElement (.element top topAttrs (before ++ .element name attrs child :: after)) name = some (.element name attrs child)

/-! ## What arrives -/

section

variable {c : Char} {x : Mxml}

/-- Among plain characters only the space is a blank. -/
theorem isspace_iff (h : iscntrl c = false) : isspace c = true ↔ c = ' ' := by
  have hge : 32 ≤ c.toNat := by
    simp only [iscntrl, Bool.or_eq_false_iff, decide_eq_false_iff_not, Nat.not_lt] at h
    exact h.1
  refine ⟨fun hs => ?_, fun hc => hc ▸ rfl⟩
  simp only [isspace, Bool.or_eq_true, beq_iff_eq] at hs
  rcases hs with ((hs | hs) | hs) | hs
  · exact hs
  · exact absurd (hs ▸ hge) (by decide)
  · exact absurd (hs ▸ hge) (by decide)
  · exact absurd (hs ▸ hge) (by decide)

/-- What has a name is special. -/
theorem entities_name_of_ne (h : ∀ x ∈ specials, x.1 ≠ c) : entities.name c = none := by
  have hnone : specials.find? (·.1 == c) = none := by
    rw [List.find?_eq_none]
    intro x hx
    simpa using h x hx
  change (specials.find? (·.1 == c)).map (·.2) = none
  rw [hnone, Option.map_none]

/-- A blank is written as it is. -/
theorem entities_blank (h : isspace c = true) : entities.name c = none := by
  refine entities_name_of_ne fun x hx hxc => ?_
  have hall : ∀ x ∈ specials, isspace x.1 = false := by decide
  exact absurd ((hall x hx).symm.trans (hxc ▸ h)) (by decide)

/-- What a character is written as is the character, or nothing but plain letters and the two marks. -/
theorem mem_code {b : Char} (h : b ∈ entities.code c) :
    b = c ∧ entities.name c = none ∨ isspace b = false ∧ iscntrl b = false ∧ b ≠ '<' ∧ b ≠ '"' := by
  rcases hn : entities.name c with _ | n
  · rw [Names.code_of_none hn, List.mem_singleton] at h
    exact .inl ⟨h, rfl⟩
  · right
    obtain ⟨x, hx, rfl⟩ := Option.map_eq_some_iff.mp hn
    rw [Names.code_of_some hn] at h
    have hall : ∀ x ∈ specials, ('&' :: (x.2 ++ [';'])).all (fun b => !isspace b && !iscntrl b && b != '<' && b != '"') = true := by
      decide
    have hb := List.all_eq_true.mp (hall x (mem_specials hx).2) b h
    simp only [Bool.and_eq_true, Bool.not_eq_true', bne_iff_ne, and_assoc] at hb
    exact hb

/-- An escaped text has no markup, and no control character comes to it. -/
theorem escape_plain {v : PlainText} {b : Char} (hb : b ∈ entities.escape v.1) : iscntrl b = false ∧ b ≠ '<' ∧ b ≠ '"' := by
  obtain ⟨c, hc, hbc⟩ := List.mem_flatMap.mp hb
  rcases mem_code hbc with ⟨rfl, hnone⟩ | h
  · have hne : ∀ d, entities.name d ≠ none → b ≠ d := fun d hd he => hd (he ▸ hnone)
    exact ⟨v.2 b hc, hne '<' (by decide), hne '"' (by decide)⟩
  · exact h.2

/-- The words of a value are those of its escaped text, each escaped. -/
theorem words_escape_value (v : List Char) :
    words isspace false [] (entities.escape v) = (words isspace false [] v).map fun w => (w.1, entities.escape w.2) := by
  refine words_escape (fun c => entities_blank) (fun c hc b hb => ?_) false [] v
  rcases mem_code hb with ⟨rfl, _⟩ | h
  · exact hc
  · exact h.1

/-- The reader gets the first word of a value. -/
theorem get_value_of_save (hx : x.Documented) (timestamp : Option PlainText) {v : PlainText} (hv : v.1 ≠ []) :
    get_value_from_xml_value x (x.mxmlSaveAllocString (valueTree x timestamp v.1)) = some (firstWord isspace v.1) := by
  have hlt : '<' ∉ entities.escape v.1 := fun h => (escape_plain h).2.1 rfl
  have hwords : ((words isspace false [] (entities.escape v.1)).map fun w => (w.1, entities.unescape none w.2)) =
      (words isspace false [] v.1).map fun w => (w.1, some w.2) := by
    rw [words_escape_value, List.map_map]
    refine List.map_congr_left fun w _ => ?_
    simp only [Function.comp, Names.unescape_escape]
  obtain ⟨before, after, hbefore, hload⟩ := hx.load timestamp ⟨entities.escape v.1, fun b hb => (escape_plain hb).1⟩ _ hlt hwords
  obtain ⟨space, rest, hfirst⟩ : ∃ space rest, words isspace false [] v.1 = (space, firstWord isspace v.1) :: rest :=
    words_eq_cons (.inr hv)
  rw [get_value_from_xml_value, hx.save, hload, Option.bind_some]
  unfold valueNode
  rw [hx.find _ _ _ _ _ _ _ hbefore, Option.bind_some, hfirst]
  rfl

theorem firstWord_value {v : PlainText} : firstWord isspace v.1 = v.1 ↔ ' ' ∉ v.1 := by
  rw [firstWord_eq_self]
  constructor
  · intro h hmem
    exact absurd (h _ hmem) (by decide)
  · intro h c hc
    rw [Bool.eq_false_iff, ne_eq, isspace_iff (v.2 c hc)]
    exact fun he => h (he ▸ hc)

end

/-- A value that is not empty arrives as it was sent, from the server and from a client, exactly if it has no space. -/
theorem value_arrives_iff (x : Mxml) (hx : x.Documented) (timestamp v : PlainText) (hv : v.1 ≠ []) :
    (get_value_from_xml_value x (get_xml_value x timestamp v.1) = some v.1 ↔ ' ' ∉ v.1) ∧
      (get_value_from_xml_value x (Client.get_xml_value x v.1) = some v.1 ↔ ' ' ∉ v.1) := by
  unfold get_xml_value Client.get_xml_value
  rw [get_value_of_save hx _ hv, get_value_of_save hx _ hv, Option.some.injEq, firstWord_value]
  exact ⟨Iff.rfl, Iff.rfl⟩

/-! ## The library on the documents of values -/

namespace ValueMxml

def prolog : List Char := "<?xml version=\"1.0\" encoding=\"utf-8\"?><value".toList

/-- In front of an attribute that would go past the margin a new line is started. -/
def timestampAttr (t : List Char) : List Char :=
  (if 16 < t.length then '\n' else ' ') :: ("timestamp=\"".toList ++ (entities.escape t ++ ['"']))

def opening (timestamp : Option PlainText) : List Char := prolog ++ (timestamp.elim [] fun t => timestampAttr t.1) ++ ['>']

def closing : List Char := "</value>\n".toList

def declaration : List Char := "?xml version=\"1.0\" encoding=\"utf-8\"?".toList

def save : XmlNode → List Char
  | .element _ _ [.element _ attrs [.text _ string]] =>
    prolog ++ (attrs.flatMap fun a => timestampAttr a.2) ++ ['>'] ++ entities.escape string ++ closing
  | _ => []

/-- The tree of a document, from the text of its element on. -/
def loadText (attrs : List (List Char × List Char)) (s : List Char) : XmlNode :=
  .element declaration [] [.element "value".toList attrs
    ((words isspace false [] (s.takeWhile (· != '<'))).map fun w => .text w.1 ((entities.unescape none w.2).getD []))]

/-- The tree of a document, from its attribute on. -/
def loadAttribute (s : List Char) : Option XmlNode :=
  (entities.unescape none (s.takeWhile (· != '"'))).map fun t => loadText [("timestamp".toList, t)] ((s.dropWhile (· != '"')).drop 2)

def load (s : List Char) : Option XmlNode :=
  let tag := s.drop prolog.length
  if tag.head? = some '>' then some (loadText [] (tag.drop 1)) else loadAttribute (tag.drop 12)

/-- The children of the top are searched. -/
def find : XmlNode → List Char → Option XmlNode
  | .element _ _ child, name => child.find? fun
    | .element n _ _ => n == name
    | .text _ _ => false
  | .text _ _, _ => none

def getAttr : XmlNode → String → Option (List Char)
  | .element _ attrs _, name => attrs.lookup name.toList
  | .text _ _, _ => none

end ValueMxml

/-- The library, as far as these documents go. -/
def valueMxml : Mxml where
  declaration := ValueMxml.declaration
  opening := ValueMxml.opening
  closing := ValueMxml.closing
  mxmlSaveAllocString := ValueMxml.save
  mxmlLoadString := ValueMxml.load
  mxmlFindElement := ValueMxml.find
  mxmlElementGetAttr := ValueMxml.getAttr

/-- The text of a document's element becomes its words. -/
theorem loadText_append {t : List Char} (ht : '<' ∉ t) (attrs : List (List Char × List Char)) {ws : List (Bool × List Char)}
    (hws : ((words isspace false [] t).map fun w => (w.1, entities.unescape none w.2)) = ws.map fun w => (w.1, some w.2)) :
    ValueMxml.loadText attrs (t ++ ValueMxml.closing) = .element ValueMxml.declaration []
      [.element "value".toList attrs (ws.map fun w => .text w.1 w.2)] := by
  have hclosing : ValueMxml.closing = '<' :: "/value>\n".toList := by decide
  have hnodes := congrArg (List.map fun w : Bool × Option (List Char) => XmlNode.text w.1 (w.2.getD [])) hws
  simp only [List.map_map, Function.comp_def, Option.getD_some] at hnodes
  rw [ValueMxml.loadText, hclosing, takeWhile_append_cons ht, hnodes]

/-- What stands behind `<value` is the end of the tag or its attribute. -/
theorem load_text (s : List Char) : ValueMxml.load (ValueMxml.prolog ++ '>' :: s) = some (ValueMxml.loadText [] s) := by
  rw [ValueMxml.load, List.drop_left]
  rfl

theorem load_timestampAttr (t : PlainText) (s : List Char) : ValueMxml.load (ValueMxml.prolog ++
    (ValueMxml.timestampAttr t.1 ++ '>' :: s)) = some (ValueMxml.loadText [("timestamp".toList, t.1)] s) := by
  have hquote : '"' ∉ entities.escape t.1 := fun h => (escape_plain h).2.2 rfl
  have hspace : ¬some (if 16 < t.1.length then '\n' else ' ') = some '>' := by
    split <;> decide
  have hdrop : (ValueMxml.timestampAttr t.1 ++ '>' :: s).drop 12 = entities.escape t.1 ++ '"' :: '>' :: s := by
    have hname : "timestamp=\"".toList.length = 11 := by decide
    rw [ValueMxml.timestampAttr, List.cons_append, List.drop_succ_cons, List.append_assoc, ← hname, List.drop_left,
      List.append_assoc]
    rfl
  have hload : ValueMxml.load (ValueMxml.prolog ++ (ValueMxml.timestampAttr t.1 ++ '>' :: s)) =
      ValueMxml.loadAttribute ((ValueMxml.timestampAttr t.1 ++ '>' :: s).drop 12) := by
    rw [ValueMxml.load, List.drop_left]
    exact if_neg hspace
  rw [hload, hdrop, ValueMxml.loadAttribute, takeWhile_append_cons hquote, dropWhile_append_cons hquote, Names.unescape_escape]
  rfl

theorem valueMxml_documented : valueMxml.Documented where
  save timestamp value := by
    have hattrs : (timestamp.toList.map fun t => ("timestamp".toList, t.1)).flatMap (fun a => ValueMxml.timestampAttr a.2) =
        timestamp.elim [] fun t => ValueMxml.timestampAttr t.1 := by
      cases timestamp with
      | none => rfl
      | some t => exact List.append_nil _
    change ValueMxml.prolog ++ (timestamp.toList.map fun t => ("timestamp".toList, t.1)).flatMap _ ++ _ ++ _ ++ _ = _
    rw [hattrs]
    rfl
  load timestamp t ws ht hws := by
    refine ⟨[], [], fun _ h => absurd h List.not_mem_nil, ?_⟩
    have hdocument : ValueMxml.opening timestamp ++ t.1 ++ ValueMxml.closing = ValueMxml.prolog ++
        ((timestamp.elim [] fun t => ValueMxml.timestampAttr t.1) ++ '>' :: (t.1 ++ ValueMxml.closing)) := by
      simp only [ValueMxml.opening, List.append_assoc, List.cons_append, List.nil_append]
    have hload : ValueMxml.load (ValueMxml.opening timestamp ++ t.1 ++ ValueMxml.closing) =
        some (ValueMxml.loadText (timestamp.toList.map fun t => ("timestamp".toList, t.1)) (t.1 ++ ValueMxml.closing)) := by
      rw [hdocument]
      cases timestamp with
      | none => exact load_text _
      | some stamp => exact load_timestampAttr stamp _
    rw [loadText_append ht _ hws] at hload
    exact hload
  find top name topAttrs attrs before after child hbefore := by
    change (before ++ .element name attrs child :: after).find? _ = _
    rw [List.find?_append, List.find?_eq_none.mpr]
    · simp only [Option.none_or, List.find?_cons, beq_self_eq_true]
    · intro n hn
      cases n with
      | element => exact absurd (hbefore _ hn) Bool.false_ne_true
      | text => simp

/-- The value `off`. -/
theorem value_arrives_off : get_value_from_xml_value valueMxml
    (get_xml_value valueMxml (plain "Thu Jan  1 00:00:00 1970".toList (by decide)) "off".toList) = some "off".toList :=
  (value_arrives_iff valueMxml valueMxml_documented _ (plain "off".toList (by decide)) (by decide)).1.mpr (by decide)

/-- The value `not available`. -/
theorem not_value_arrives : ¬∀ (x : Mxml), x.Documented → ∀ timestamp v : PlainText, v.1 ≠ [] →
    get_value_from_xml_value x (get_xml_value x timestamp v.1) = some v.1 := by
  intro h
  have hv := h valueMxml valueMxml_documented (plain [] rfl) (plain "not available".toList (by decide)) (by decide)
  have hspace : ' ' ∈ "not available".toList := by decide
  rw [get_xml_value, get_value_of_save valueMxml_documented _ (by decide), Option.some.injEq, firstWord_value] at hv
  exact hv hspace

end HomeBridge.Hpd
