import TagLens.Proofs.Cursor.UnterminatedTag
import TagLens.Proofs.Markup.Content

/-!
# The kind of every place in a document

`Content.marks` writes a document down once more, each character together with the kind of
place right behind it, as the grammar of documents has it. `Content.kindAt` reads the kind at
an offset from the marks.

The cursor's surroundings are computed from the raw text before the cursor. The main statement
is that they agree with the grammar at every offset of every document whose values are free of
quotation marks: the kind is the one marked there, and the enclosing element is the innermost
element that is open there.
-/

namespace TagLens.Cursor

open Text (doubleQuote singleQuote isBlank isQuote)
open Markup

/-- A character and the kind of place right behind it. -/
abbrev Mark := Char × Kind

/-- A stretch of text behind each character of which the kind is the same. -/
def mark (kind : Kind) (text : Text) : List Mark := text.map fun c => (c, kind)

@[simp] theorem map_fst_mark (kind : Kind) (text : Text) :
    (mark kind text).map Prod.fst = text := by
  rw [mark, List.map_map]
  exact List.map_id text

end TagLens.Cursor

namespace TagLens.Markup

open Cursor (Mark Kind mark map_fst_mark)

/-! ## Marked documents -/

/-- Between the equals sign and the closing quote nothing but the value can be typed, and right
behind the equals sign nothing in particular. Everywhere else attribute names can. -/
def Attribute.marks (attr : Attribute) : List Mark :=
  mark .attributeName (attr.gap ++ attr.name) ++ mark .none ['=']
    ++ mark .attributeValue (attr.quote :: attr.value) ++ mark .attributeName [attr.quote]

namespace StartTag

/-- The `<` and the name belong to the element name; blank space begins the attributes. -/
def headMarks (tag : StartTag) : List Mark :=
  mark .elementName ('<' :: tag.name) ++ tag.attributes.flatMap Attribute.marks
    ++ mark .attributeName tag.space.chars

/-- A slash without any blank space before it still counts with the element name. -/
def slashKind (tag : StartTag) : Kind :=
  if tag.body = [] then .elementName else .attributeName

/-- A closing tag is none until its slash is typed, and its name is not suggested once begun. -/
def closeMarks (tag : StartTag) : List Mark :=
  mark .elementName ['<'] ++ mark .closingTag ['/'] ++ mark .none (tag.name ++ ['>'])

end StartTag

/-- The document with the kind of place behind each of its characters. -/
def Content.marks : Content → List Mark
  | .leaf data => mark .none data.chars
  | .void data tag rest =>
    mark .none data.chars ++ (tag.headMarks ++ mark tag.slashKind ['/'] ++ mark .none ['>']
      ++ rest.marks)
  | .node data tag inner rest =>
    mark .none data.chars ++ (tag.headMarks ++ mark .none ['>']
      ++ (inner.marks ++ (tag.closeMarks ++ rest.marks)))

/-- The kind of place at an offset; nothing in particular can be typed at the beginning. -/
def Content.kindAt (content : Content) (k : Nat) : Kind :=
  ((content.marks.take k).getLast?.map Prod.snd).getD .none

def Content.enclosingAt (content : Content) (k : Nat) : Text :=
  ((content.toForest.openFrames 0 k).getLast?.map (·.name)).getD documentRoot

/-! ### The marks stand at the characters of the text -/

theorem Attribute.map_fst_marks (attr : Attribute) : attr.marks.map Prod.fst = attr.text := by
  simp [Attribute.marks, Attribute.text]

theorem StartTag.map_fst_headMarks (tag : StartTag) :
    tag.headMarks.map Prod.fst = '<' :: (tag.name ++ tag.body) := by
  simp [StartTag.headMarks, StartTag.body, List.map_flatMap, Attribute.map_fst_marks]

theorem StartTag.map_fst_closeMarks (tag : StartTag) :
    tag.closeMarks.map Prod.fst = tag.closeText := by
  simp [StartTag.closeMarks, StartTag.closeText]

theorem Content.map_fst_marks (content : Content) : content.marks.map Prod.fst = content.text := by
  induction content with
  | leaf data => simp [Content.marks, Content.text]
  | void data tag rest ih =>
      simp [Content.marks, Content.text, ih, tag.map_fst_headMarks, StartTag.voidText]
  | node data tag inner rest ihInner ihRest =>
      simp [Content.marks, Content.text, ihInner, ihRest, tag.map_fst_headMarks,
        tag.map_fst_closeMarks, StartTag.openText]

end TagLens.Markup

namespace TagLens.Cursor

open Text (doubleQuote singleQuote isBlank isQuote)
open Markup

/-! ## Agreeing with marks, character by character -/

/-- Typing the marked characters behind `typed`, one after the other, the kind is each time the
marked one. -/
def Agrees (kindOf : Text → Kind) (typed : Text) : List Mark → Prop
  | [] => True
  | (c, kind) :: rest => kindOf (typed ++ [c]) = kind ∧ Agrees kindOf (typed ++ [c]) rest

section Agrees

variable {kindOf : Text → Kind}

theorem agrees_append {typed : Text} {front back : List Mark} :
    Agrees kindOf typed (front ++ back)
      ↔ Agrees kindOf typed front ∧ Agrees kindOf (typed ++ front.map Prod.fst) back := by
  induction front generalizing typed with
  | nil => simp [Agrees]
  | cons m front ih =>
      obtain ⟨c, kind⟩ := m
      simp only [List.cons_append, Agrees, ih, List.map_cons, List.append_assoc, and_assoc,
        List.nil_append]

/-- A stretch of one kind agrees when every beginning of it has that kind. -/
theorem agrees_mark {typed text : Text} {kind : Kind}
    (h : ∀ front, front <+: text → front ≠ [] → kindOf (typed ++ front) = kind) :
    Agrees kindOf typed (mark kind text) := by
  induction text generalizing typed with
  | nil => trivial
  | cons c text ih =>
      refine ⟨h [c] ⟨text, rfl⟩ (by simp), ih ?_⟩
      intro front hfront _
      have hwhole := h (c :: front) ((List.prefix_cons_inj c).mpr hfront) (by simp)
      simpa using hwhole

/-- Agreement says what the kind is after any number of characters. -/
theorem kind_take_of_agrees {marks : List Mark} {typed : Text} (h : Agrees kindOf typed marks)
    (k : Nat) :
    kindOf (typed ++ (marks.map Prod.fst).take k)
      = ((marks.take k).getLast?.map Prod.snd).getD (kindOf typed) := by
  induction marks generalizing typed k with
  | nil => simp
  | cons m marks ih =>
      obtain ⟨c, kind⟩ := m
      cases k with
      | zero => simp
      | succ k =>
          obtain ⟨hhere, hlater⟩ := h
          have hrest := ih hlater k
          rw [hhere] at hrest
          rw [List.map_cons, List.take_succ_cons, List.take_succ_cons, List.getLast?_cons]
          rw [List.append_assoc, List.singleton_append] at hrest
          rw [hrest]
          cases (marks.take k).getLast? <;> rfl

end Agrees

/-- Inside a tag the kinds of the unterminated tag are the kinds of the text. -/
theorem Agrees.of_tag {inner : Text} {marks : List Mark} (before : Text)
    (h : Agrees kindInTag inner marks) (hinner : ∀ c ∈ inner, isInsideTag c = true)
    (hmarks : ∀ c ∈ marks.map Prod.fst, isInsideTag c = true) :
    Agrees classify (before ++ '<' :: inner) marks := by
  induction marks generalizing inner with
  | nil => trivial
  | cons m marks ih =>
      obtain ⟨c, kind⟩ := m
      obtain ⟨hhere, hlater⟩ := h
      -- the tag stays unterminated with one more character of its inside
      have hsofar : ∀ d ∈ inner ++ [c], isInsideTag d = true := by
        intro d hd
        rcases List.mem_append.mp hd with hd | hd
        · exact hinner d hd
        · exact hmarks d (by simp [List.mem_singleton.mp hd])
      have hrest := ih hlater hsofar (fun d hd => hmarks d (by simp [hd]))
      refine ⟨?_, ?_⟩
      · rw [List.append_assoc, List.cons_append, classify_tag before hsofar]
        exact hhere
      · rw [List.append_assoc, List.cons_append]
        exact hrest

/-! ## Quotation marks come in pairs -/

/-- Neither quotation mark stands in the text. -/
def Quoteless (text : Text) : Prop := ∀ c ∈ text, isQuote c = false

instance (text : Text) : Decidable (Quoteless text) :=
  decidable_of_iff (text.all (!isQuote ·) = true) (by simp [Quoteless])

theorem Quoteless.count_eq_zero {text : Text} (h : Quoteless text) {q : Char}
    (hq : isQuote q = true) : text.count q = 0 := by
  rw [List.count_eq_zero]
  intro hmem
  rw [h q hmem] at hq
  exact absurd hq (by simp)

theorem hasOpenQuote_eq_false_iff {inner : Text} :
    hasOpenQuote inner = false
      ↔ inner.count doubleQuote % 2 = 0 ∧ inner.count singleQuote % 2 = 0 := by
  rw [hasOpenQuote, Bool.or_eq_false_iff, beq_eq_false_iff_ne, beq_eq_false_iff_ne]
  omega

theorem hasOpenQuote_append {inner text : Text} (h : Quoteless text) :
    hasOpenQuote (inner ++ text) = hasOpenQuote inner := by
  have hdouble : text.count doubleQuote = 0 := h.count_eq_zero rfl
  have hsingle : text.count singleQuote = 0 := h.count_eq_zero rfl
  rw [hasOpenQuote, hasOpenQuote, List.count_append, List.count_append, hdouble, hsingle]
  rfl

theorem hasOpenQuote_open {inner : Text} {q : Char} (h : hasOpenQuote inner = false)
    (hq : isQuote q = true) : hasOpenQuote (inner ++ [q]) = true := by
  rw [hasOpenQuote_eq_false_iff] at h
  rw [← Bool.not_eq_false, hasOpenQuote_eq_false_iff, List.count_append, List.count_append]
  have hcases : q = doubleQuote ∨ q = singleQuote := by simpa [isQuote] using hq
  rcases hcases with rfl | rfl
  · have hone : [doubleQuote].count doubleQuote = 1 := rfl
    omega
  · have hone : [singleQuote].count singleQuote = 1 := rfl
    omega

/-- The same quote closes the value again. -/
theorem hasOpenQuote_close {inner value : Text} {q : Char} (h : hasOpenQuote inner = false)
    (hq : isQuote q = true) (hvalue : Quoteless value) :
    hasOpenQuote (inner ++ q :: (value ++ [q])) = false := by
  rw [hasOpenQuote_eq_false_iff] at h ⊢
  have hdouble : value.count doubleQuote = 0 := hvalue.count_eq_zero rfl
  have hsingle : value.count singleQuote = 0 := hvalue.count_eq_zero rfl
  have hcases : q = doubleQuote ∨ q = singleQuote := by simpa [isQuote] using hq
  simp only [List.count_append, List.count_cons, hdouble, hsingle, List.count_nil]
  rcases hcases with rfl | rfl
  · have hne : (doubleQuote == singleQuote) = false := rfl
    simp only [BEq.rfl, hne, Bool.false_eq_true, if_true, if_false]
    omega
  · have hne : (singleQuote == doubleQuote) = false := rfl
    simp only [BEq.rfl, hne, Bool.false_eq_true, if_true, if_false]
    omega

theorem quoteless_of_isDelimiter {text : Text} (h : ∀ c ∈ text, isDelimiter c = false) :
    Quoteless text := by
  intro c hc
  have hdelimiter := h c hc
  simp only [isDelimiter, Bool.or_eq_false_iff] at hdelimiter
  exact hdelimiter.2

/-! ## The phases of an opening tag -/

/-- An opening tag has been typed up to a place outside of its values. -/
structure Opening (inner : Text) : Prop where
  ne_nil : inner ≠ []
  head_ne : inner.head? ≠ some '/'
  noQuote : hasOpenQuote inner = false

theorem Opening.append {inner : Text} (h : Opening inner) {text : Text}
    (hquote : hasOpenQuote (inner ++ text) = false) : Opening (inner ++ text) where
  ne_nil := by simp [h.ne_nil]
  head_ne := by
    obtain ⟨c, rest, rfl⟩ := List.exists_cons_of_ne_nil h.ne_nil
    exact h.head_ne
  noQuote := hquote

section Kinds

variable {inner : Text}

theorem Opening.ne_slash (h : Opening inner) : inner ≠ ['/'] := by
  rintro rfl
  exact h.head_ne rfl

theorem Opening.kind_unspaced (h : Opening inner) (hblank : inner.any isBlank = false) :
    kindInTag inner = .elementName := by
  simp [kindInTag, h.noQuote, h.ne_slash, h.head_ne, hblank]

theorem Opening.kind_spaced (h : Opening inner) (hblank : inner.any isBlank = true)
    (hlast : inner.getLast? ≠ some '=') : kindInTag inner = .attributeName := by
  simp [kindInTag, h.noQuote, h.ne_slash, h.head_ne, hblank, hlast]

theorem Opening.kind_assigned (h : Opening inner) (hblank : inner.any isBlank = true)
    (hlast : inner.getLast? = some '=') : kindInTag inner = .none := by
  simp [kindInTag, h.noQuote, h.ne_slash, h.head_ne, hblank, hlast]

/-- Typing on in a tag that holds blank space, without quotes and not ending in an equals
sign, stays at attribute names. -/
theorem Opening.kind_append (h : Opening inner) {front : Text} (hne : front ≠ [])
    (hquote : Quoteless front) (hblank : (inner ++ front).any isBlank = true)
    (hassign : '=' ∉ front) : kindInTag (inner ++ front) = .attributeName := by
  have hopening : Opening (inner ++ front) :=
    h.append (by rw [hasOpenQuote_append hquote, h.noQuote])
  apply hopening.kind_spaced hblank
  intro hlast
  rw [List.getLast?_append_of_ne_nil _ hne] at hlast
  exact hassign (List.mem_of_getLast? hlast)

end Kinds

/-- A nonempty beginning of a text that begins with blank space holds blank space. -/
theorem any_isBlank_of_prefix {front gap rest : Text} (hgap : gap ≠ [])
    (hblank : ∀ c ∈ gap, isBlank c = true) (h : front <+: gap ++ rest) (hne : front ≠ []) :
    front.any isBlank = true := by
  obtain ⟨c, gap, rfl⟩ := List.exists_cons_of_ne_nil hgap
  obtain ⟨d, front, rfl⟩ := List.exists_cons_of_ne_nil hne
  obtain ⟨rfl, -⟩ := (List.cons_prefix_cons).mp h
  simp [hblank d (by simp)]

theorem any_isBlank_of_isNameChar {text : Text} (h : ∀ c ∈ text, isNameChar c = true) :
    text.any isBlank = false := by
  rw [List.any_eq_false]
  intro c hc
  rw [isBlank_of_isNameChar (h c hc)]
  simp

/-- Up to its equals sign an attribute holds no delimiter. -/
theorem isDelimiter_of_mem_lead {attr : Attribute} {c : Char} (h : c ∈ attr.gap ++ attr.name) :
    isDelimiter c = false := by
  rcases List.mem_append.mp h with h | h
  · exact isDelimiter_of_isBlank (attr.gap_blank c h)
  · exact isDelimiter_of_isNameChar (attr.isName.isNameChar_of_mem h)

/-- From the opening quote on a value is being typed: every beginning of the quoted value starts
with the quote, and no other quote follows. -/
theorem agrees_value {inner value : Text} {q : Char} (h : hasOpenQuote inner = false)
    (hq : isQuote q = true) (hvalue : Quoteless value) :
    Agrees kindInTag inner (mark .attributeValue (q :: value)) := by
  apply agrees_mark
  intro front hfront hne
  obtain ⟨c, front, rfl⟩ := List.exists_cons_of_ne_nil hne
  obtain ⟨rfl, hrest⟩ := List.cons_prefix_cons.mp hfront
  have hquoteless : Quoteless front := fun d hd => hvalue d (hrest.subset hd)
  have hopen : hasOpenQuote (inner ++ c :: front) = true := by
    rw [List.append_cons, hasOpenQuote_append hquoteless]
    exact hasOpenQuote_open h hq
  rw [kindInTag, if_pos hopen]

/-- One more attribute: behind its gap the tag holds blank space, so attribute names are typed
up to the equals sign and again from the closing quote on. -/
theorem agrees_attribute {inner : Text} (attr : Attribute) (hvalue : Quoteless attr.value)
    (h : Opening inner) :
    Agrees kindInTag inner attr.marks ∧ Opening (inner ++ attr.text) := by
  have hlead : Quoteless (attr.gap ++ attr.name) :=
    quoteless_of_isDelimiter fun c hc => isDelimiter_of_mem_lead hc
  have hassign : '=' ∉ attr.gap ++ attr.name := by
    intro hc
    exact absurd (isDelimiter_of_mem_lead hc) (by decide)
  have hspaced : (attr.gap ++ attr.name).any isBlank = true :=
    any_isBlank_of_prefix attr.gap_ne_nil attr.gap_blank (List.prefix_refl _)
      (by simp [attr.gap_ne_nil])
  -- the three places outside of the value: behind the name, the equals sign, the whole attribute
  have hnamed : Opening (inner ++ (attr.gap ++ attr.name)) :=
    h.append (by rw [hasOpenQuote_append hlead, h.noQuote])
  have hassigned : Opening (inner ++ (attr.gap ++ attr.name) ++ ['=']) :=
    hnamed.append (by rw [hasOpenQuote_append (by simp [Quoteless]; decide), hnamed.noQuote])
  have hdone : Opening (inner ++ attr.text) := by
    have hsplit : inner ++ attr.text = inner ++ (attr.gap ++ attr.name) ++ ['=']
        ++ attr.quote :: (attr.value ++ [attr.quote]) := by
      simp [Attribute.text]
    rw [hsplit]
    exact hassigned.append (hasOpenQuote_close hassigned.noQuote attr.isQuote hvalue)
  refine ⟨?_, hdone⟩
  rw [Attribute.marks, agrees_append, agrees_append, agrees_append]
  simp only [List.map_append, map_fst_mark]
  refine ⟨⟨⟨agrees_mark ?_, ?_, trivial⟩, ?_⟩, ?_, trivial⟩
  · intro front hfront hne
    have hsub := hfront.subset
    apply h.kind_append hne (fun c hc => hlead c (hsub hc)) _ (fun hc => hassign (hsub hc))
    rw [List.any_append,
      any_isBlank_of_prefix attr.gap_ne_nil attr.gap_blank hfront hne, Bool.or_true]
  · apply hassigned.kind_assigned
    · rw [List.any_append, List.any_append, hspaced, Bool.or_true, Bool.true_or]
    · simp
  · rw [← List.append_assoc]
    exact agrees_value hassigned.noQuote attr.isQuote hvalue
  · have hsplit : inner ++ (attr.gap ++ attr.name ++ ['='] ++ attr.quote :: attr.value)
        ++ [attr.quote] = inner ++ attr.text := by
      simp [Attribute.text]
    rw [hsplit]
    apply hdone.kind_spaced
    · rw [Attribute.text, ← List.append_assoc attr.gap, List.any_append, List.any_append, hspaced,
        Bool.true_or, Bool.or_true]
    · rw [List.getLast?_append, attr.getLast?_text, Option.some_or]
      intro hquote
      exact absurd attr.isQuote (by rw [Option.some.inj hquote]; decide)

theorem agrees_attributes {inner : Text} (attrs : List Attribute)
    (hvalues : ∀ attr ∈ attrs, Quoteless attr.value) (h : Opening inner) :
    Agrees kindInTag inner (attrs.flatMap Attribute.marks)
      ∧ Opening (inner ++ attrs.flatMap Attribute.text) := by
  induction attrs generalizing inner with
  | nil => exact ⟨trivial, by simpa using h⟩
  | cons attr attrs ih =>
      obtain ⟨hfirst, hopening⟩ := agrees_attribute attr (hvalues attr (by simp)) h
      obtain ⟨hrest, hdone⟩ := ih (fun other hother => hvalues other (by simp [hother])) hopening
      rw [List.flatMap_cons, List.flatMap_cons, agrees_append, attr.map_fst_marks,
        ← List.append_assoc]
      exact ⟨⟨hfirst, hrest⟩, hdone⟩

/-- The inside of a start tag: first the name, then the attributes, then blank space. -/
theorem agrees_inside (tag : StartTag) (hvalues : ∀ attr ∈ tag.attributes, Quoteless attr.value) :
    Agrees kindInTag [] (mark .elementName tag.name ++ tag.attributes.flatMap Attribute.marks
        ++ mark .attributeName tag.space.chars)
      ∧ Opening (tag.name ++ tag.body) := by
  -- the tag may be cut inside its name, so every beginning of the name has to be one
  have hnamed : ∀ front, front <+: tag.name → front ≠ [] → Opening front := by
    intro front hfront hne
    refine ⟨hne, ?_, ?_⟩
    · obtain ⟨c, front, rfl⟩ := List.exists_cons_of_ne_nil hne
      obtain ⟨rest, hname⟩ := hfront
      obtain ⟨d, tail, hsplit, hd⟩ := tag.isName.head_ne_slash []
      rw [List.append_nil, ← hname] at hsplit
      obtain ⟨rfl, -⟩ := List.cons.inj hsplit
      simpa using hd
    · have hquoteless : Quoteless front := quoteless_of_isDelimiter fun c hc =>
        isDelimiter_of_isNameChar (tag.isName.isNameChar_of_mem (hfront.subset hc))
      rw [← List.nil_append front, hasOpenQuote_append hquoteless]
      rfl
  have hname := hnamed tag.name (List.prefix_refl _) tag.isName.ne_nil
  obtain ⟨hattrs, hdone⟩ := agrees_attributes tag.attributes hvalues hname
  have hspace : Quoteless tag.space.chars := quoteless_of_isDelimiter fun c hc =>
    isDelimiter_of_isBlank (tag.space.blank c hc)
  rw [agrees_append, agrees_append]
  simp only [List.map_append, map_fst_mark, List.nil_append, List.map_flatMap,
    Attribute.map_fst_marks]
  refine ⟨⟨⟨agrees_mark ?_, hattrs⟩, agrees_mark ?_⟩, ?_⟩
  · intro front hfront hne
    apply (hnamed front hfront hne).kind_unspaced
    apply any_isBlank_of_isNameChar
    intro c hc
    exact tag.isName.isNameChar_of_mem (hfront.subset hc)
  · intro front hfront hne
    have hblank : ∀ c ∈ front, isBlank c = true := fun c hc =>
      tag.space.blank c (hfront.subset hc)
    apply hdone.kind_append hne (fun c hc => hspace c (hfront.subset hc))
    · have hany : front.any isBlank = true :=
        any_isBlank_of_prefix hne hblank (List.prefix_append front []) hne
      rw [List.any_append, hany, Bool.or_true]
    · intro hc
      exact absurd (hblank _ hc) (by decide)
  · rw [StartTag.body, ← List.append_assoc]
    exact hdone.append (by rw [hasOpenQuote_append hspace, hdone.noQuote])

/-- The slash of an empty element counts with the attributes exactly when blank space has been
typed. -/
theorem kindInTag_slash (tag : StartTag) (h : Opening (tag.name ++ tag.body)) :
    kindInTag (tag.name ++ tag.body ++ ['/']) = tag.slashKind := by
  have hslash : Opening (tag.name ++ tag.body ++ ['/']) :=
    h.append (by rw [hasOpenQuote_append (by simp [Quoteless]; decide), h.noQuote])
  have hname : tag.name.any isBlank = false :=
    any_isBlank_of_isNameChar fun c hc => tag.isName.isNameChar_of_mem hc
  have hlast : isBlank '/' = false := by decide
  rw [StartTag.slashKind]
  split
  · next hbody =>
      apply hslash.kind_unspaced
      simp [hbody, hname, hlast]
  · next hbody =>
      obtain ⟨c, rest, hsplit⟩ := List.exists_cons_of_ne_nil hbody
      have hhead : c ∈ tag.body.head? := by simp [hsplit]
      have hc : isBlank c = true := StartTag.head?_body hhead
      apply hslash.kind_spaced
      · simp [hsplit, hc]
      · simp

theorem isInsideTag_of_mem {tag : StartTag} {c : Char} (h : c ∈ tag.name ++ tag.body) :
    isInsideTag c = true := by
  rcases List.mem_append.mp h with h | h
  · have hdelimiter := isDelimiter_of_isNameChar (tag.isName.isNameChar_of_mem h)
    simp only [isDelimiter, Bool.or_eq_false_iff, beq_eq_false_iff_ne] at hdelimiter
    simp [isInsideTag, hdelimiter]
  · obtain ⟨hopen, hclose⟩ := StartTag.ne_of_mem_body h
    simp [isInsideTag, hopen, hclose]

/-! ## Whole documents -/

/-- Behind a finished tag, or at the beginning, character data changes nothing. -/
theorem agrees_data {before : Text} (data : CharData) (h : unterminatedTag? before = none) :
    Agrees classify before (mark .none data.chars)
      ∧ unterminatedTag? (before ++ data.chars) = none := by
  refine ⟨agrees_mark ?_, unterminatedTag?_append_text h data.unmarked⟩
  intro front hfront _
  apply classify_settled
  exact unterminatedTag?_append_text h fun hmem => data.unmarked (hfront.subset hmem)

theorem agrees_gt (before : Text) : Agrees classify before (mark .none ['>']) :=
  ⟨classify_settled (unterminatedTag?_append_gt before), trivial⟩

/-- A start tag up to its slash or its end. -/
theorem agrees_headMarks (before : Text) (tag : StartTag)
    (hvalues : ∀ attr ∈ tag.attributes, Quoteless attr.value) :
    Agrees classify before tag.headMarks := by
  have hinside : ∀ c ∈ tag.name ++ tag.body, isInsideTag c = true :=
    fun c hc => isInsideTag_of_mem hc
  have hsplit : tag.headMarks = ('<', .elementName) :: (mark .elementName tag.name
      ++ tag.attributes.flatMap Attribute.marks ++ mark .attributeName tag.space.chars) := rfl
  rw [hsplit]
  refine ⟨classify_tag before (by simp), ?_⟩
  apply (agrees_inside tag hvalues).1.of_tag before (by simp)
  simpa [List.map_flatMap, Attribute.map_fst_marks, StartTag.body] using hinside

/-- A closing tag: its slash stands right behind the `<`, and its name behind the slash. -/
theorem agrees_closeMarks (before : Text) (tag : StartTag) :
    Agrees classify before tag.closeMarks := by
  have hname : ∀ c ∈ tag.name, isDelimiter c = false := fun c hc =>
    isDelimiter_of_isNameChar (tag.isName.isNameChar_of_mem hc)
  have hkinds : Agrees kindInTag [] (mark .closingTag ['/'] ++ mark .none tag.name) := by
    rw [agrees_append]
    refine ⟨⟨rfl, trivial⟩, agrees_mark ?_⟩
    intro front hfront hne
    have hquoteless : Quoteless front :=
      quoteless_of_isDelimiter fun c hc => hname c (hfront.subset hc)
    have hquote : hasOpenQuote ('/' :: front) = false := by
      rw [← List.singleton_append, hasOpenQuote_append hquoteless]
      rfl
    simp [mark, kindInTag, hquote, hne]
  have hinside : ∀ c ∈ tag.name, isInsideTag c = true := fun c hc =>
    isInsideTag_of_mem (List.mem_append_left _ hc)
  have hsplit : tag.closeMarks = ('<', .elementName) :: ((mark .closingTag ['/']
      ++ mark .none tag.name) ++ mark .none ['>']) := by
    simp [StartTag.closeMarks, mark]
  rw [hsplit]
  refine ⟨classify_tag before (by simp), ?_⟩
  rw [agrees_append]
  refine ⟨hkinds.of_tag before (by simp) ?_, agrees_gt _⟩
  simpa [show isInsideTag '/' = true by decide] using hinside

/-- **Every character of a document** is followed by a place of the marked kind, and a document
leaves no unterminated tag. By induction on the document, for any text before it that leaves
none either. -/
theorem agrees_content {before : Text} (content : Content)
    (hvalues : ∀ tag ∈ content.tags, ∀ attr ∈ tag.attributes, Quoteless attr.value)
    (h : unterminatedTag? before = none) :
    Agrees classify before content.marks ∧ unterminatedTag? (before ++ content.text) = none := by
  induction content generalizing before with
  | leaf data => exact agrees_data data h
  | void data tag rest ih =>
      obtain ⟨hdata, -⟩ := agrees_data data h
      have htag := hvalues tag (by simp [Content.tags])
      have hend : unterminatedTag? (before ++ data.chars ++ tag.voidText) = none := by
        apply unterminatedTag?_of_getLast?
        simp [StartTag.voidText, List.getLast?_cons]
      obtain ⟨hrest, hdone⟩ := ih
        (fun other hother => hvalues other (by simp [Content.tags, hother])) hend
      have hslash : Agrees classify (before ++ data.chars ++ '<' :: (tag.name ++ tag.body))
          (mark tag.slashKind ['/']) := by
        have hinside : ∀ c ∈ tag.name ++ tag.body ++ ['/'], isInsideTag c = true := by
          intro c hc
          rcases List.mem_append.mp hc with hc | hc
          · exact isInsideTag_of_mem hc
          · rw [List.mem_singleton.mp hc]
            rfl
        refine ⟨?_, trivial⟩
        rw [List.append_assoc, List.cons_append, classify_tag _ hinside]
        exact kindInTag_slash tag (agrees_inside tag htag).2
      simp only [Content.marks, agrees_append, List.map_append, map_fst_mark,
        tag.map_fst_headMarks]
      refine ⟨⟨hdata, ⟨⟨agrees_headMarks _ tag htag, hslash⟩, agrees_gt _⟩, ?_⟩, ?_⟩
      · simpa [StartTag.voidText] using hrest
      · simpa [Content.text] using hdone
  | node data tag inner rest ihInner ihRest =>
      obtain ⟨hdata, -⟩ := agrees_data data h
      have htag := hvalues tag (by simp [Content.tags])
      have hend : unterminatedTag? (before ++ data.chars ++ tag.openText) = none := by
        apply unterminatedTag?_of_getLast?
        simp [StartTag.openText, List.getLast?_cons]
      obtain ⟨hinner, hclosed⟩ := ihInner
        (fun other hother => hvalues other (by simp [Content.tags, hother])) hend
      have hbehind : unterminatedTag? (before ++ data.chars ++ tag.openText ++ inner.text
          ++ tag.closeText) = none := by
        apply unterminatedTag?_of_getLast?
        simp [StartTag.closeText, List.getLast?_cons]
      obtain ⟨hrest, hdone⟩ := ihRest
        (fun other hother => hvalues other (by simp [Content.tags, hother])) hbehind
      simp only [Content.marks, agrees_append, List.map_append, map_fst_mark,
        tag.map_fst_headMarks, inner.map_fst_marks, tag.map_fst_closeMarks]
      refine ⟨⟨hdata, ⟨agrees_headMarks _ tag htag, agrees_gt _⟩, ?_, agrees_closeMarks _ tag, ?_⟩,
        ?_⟩
      · simpa [StartTag.openText] using hinner
      · simpa [StartTag.openText] using hrest
      · simpa [Content.text] using hdone

/-- The kind at every offset is the one the grammar of documents gives the place. -/
theorem classify_take (content : Content)
    (hvalues : ∀ tag ∈ content.tags, ∀ attr ∈ tag.attributes, Quoteless attr.value) (k : Nat) :
    classify (content.text.take k) = content.kindAt k := by
  have hbegin : unterminatedTag? [] = none := rfl
  have hkind := kind_take_of_agrees (agrees_content content hvalues hbegin).1 k
  rw [content.map_fst_marks, List.nil_append] at hkind
  exact hkind

theorem enclosingElement_take (content : Content) (k : Nat) :
    enclosingElement (content.text.take k) = content.enclosingAt k := by
  rw [enclosingElement, ← content.text_toForest, Forest.nesting_take, Content.enclosingAt,
    Nesting.top?, List.head?_reverse]

/-- **The cursor's surroundings at every offset** of a document are those that the grammar gives
the place. -/
theorem context_take (content : Content)
    (hvalues : ∀ tag ∈ content.tags, ∀ attr ∈ tag.attributes, Quoteless attr.value) (k : Nat) :
    (context (content.text.take k)).kind = content.kindAt k
      ∧ (context (content.text.take k)).enclosing = content.enclosingAt k :=
  ⟨classify_take content hvalues k, enclosingElement_take content k⟩

/-- The document `t<a x='1' y="b c" >u > v<b/></a>`. -/
def sampleContent : Content :=
  .node ⟨['t'], by decide⟩
    { name := ['a']
      attributes :=
        [.plain ['x'] singleQuote ['1'] rfl, .plain ['y'] doubleQuote ['b', ' ', 'c'] rfl]
      space := oneSpace
      isName := by decide
      unmarked := by decide }
    (.void ⟨['u', ' ', '>', ' ', 'v'], by decide⟩ (.bare ['b'] (by decide)) (.leaf noData))
    (.leaf noData)

/-- Inside the second value, behind its blank space, and behind the slash of the inner
element. -/
theorem context_take_sampleContent :
    (∀ tag ∈ sampleContent.tags, ∀ attr ∈ tag.attributes, Quoteless attr.value)
      ∧ (context (sampleContent.text.take 15)).kind = .attributeValue
      ∧ (context (sampleContent.text.take 15)).enclosing = documentRoot
      ∧ (context (sampleContent.text.take 27)).kind = .elementName
      ∧ (context (sampleContent.text.take 27)).enclosing = ['a'] := by
  have hvalues : ∀ tag ∈ sampleContent.tags, ∀ attr ∈ tag.attributes, Quoteless attr.value := by
    decide
  obtain ⟨hkind, henclosing⟩ := context_take sampleContent hvalues 15
  obtain ⟨hkind', henclosing'⟩ := context_take sampleContent hvalues 27
  refine ⟨hvalues, hkind.trans ?_, henclosing.trans ?_, hkind'.trans ?_, henclosing'.trans ?_⟩
  · decide
  · decide
  · decide
  · decide

end TagLens.Cursor
