import TagLens.Proofs.Markup.Forest

/-!
# Documents with attributes

`Content` is the strict counterpart of `Forest`: character data without `<`, and elements whose
tags hold nothing but a name, attributes and blank space. An attribute is written
`name=` and a quoted value, without space around the equals sign, and blank space stands
before it.

Every document is a forest (`Content.toForest`), so what the tolerant scan sees of it is known
from there. What the strict form adds is the inside of the tags.
-/

namespace TagLens.Markup

open Text (isBlank isQuote)

/-! ## Attributes and tags -/

/-- An attribute as it stands in a tag, with the blank space in front of it. -/
structure Attribute where
  gap : Text
  name : Text
  quote : Char
  value : Text
  gap_ne_nil : gap ≠ []
  gap_blank : ∀ c ∈ gap, isBlank c = true
  isName : IsName name
  isQuote : isQuote quote = true
  not_mem_value : quote ∉ value

/-- The attribute written down. -/
def Attribute.text (attr : Attribute) : Text :=
  attr.gap ++ (attr.name ++ '=' :: attr.quote :: (attr.value ++ [attr.quote]))

/-- A tag that begins an element: its name, its attributes and the blank space behind them. -/
structure StartTag where
  name : Text
  attributes : List Attribute
  space : Space
  isName : IsName name
  unmarked : ∀ attr ∈ attributes, '<' ∉ attr.value ∧ '>' ∉ attr.value

namespace StartTag

/-- What stands between the name of the tag and its end. -/
def body (tag : StartTag) : Text := tag.attributes.flatMap Attribute.text ++ tag.space.chars

/-- `<name attributes>` -/
def openText (tag : StartTag) : Text := '<' :: (tag.name ++ (tag.body ++ ['>']))

/-- `<name attributes/>` -/
def voidText (tag : StartTag) : Text := '<' :: (tag.name ++ (tag.body ++ ['/', '>']))

/-- `</name>` -/
def closeText (tag : StartTag) : Text := '<' :: '/' :: (tag.name ++ ['>'])

end StartTag

/-! ### What stands inside a tag -/

/-- The characters of an attribute are blank space, a name, an equals sign, quotes and the
value. -/
theorem Attribute.mem_text {attr : Attribute} {c : Char} (h : c ∈ attr.text) :
    isBlank c = true ∨ isNameChar c = true ∨ c = '=' ∨ c = attr.quote ∨ c ∈ attr.value := by
  simp only [Attribute.text, List.mem_append, List.mem_cons, List.not_mem_nil, or_false] at h
  rcases h with h | h | h | h | h | h
  · exact .inl (attr.gap_blank c h)
  · exact .inr (.inl (attr.isName.isNameChar_of_mem h))
  · exact .inr (.inr (.inl h))
  · exact .inr (.inr (.inr (.inl h)))
  · exact .inr (.inr (.inr (.inr h)))
  · exact .inr (.inr (.inr (.inl h)))

theorem StartTag.ne_of_mem_body {tag : StartTag} {c : Char} (h : c ∈ tag.body) :
    c ≠ '<' ∧ c ≠ '>' := by
  rw [StartTag.body, List.mem_append, List.mem_flatMap] at h
  rcases h with ⟨attr, hattr, h⟩ | h
  · rcases attr.mem_text h with h | h | h | h | h
    · constructor <;> rintro rfl <;> exact absurd h (by decide)
    · constructor <;> rintro rfl <;> exact absurd h (by decide)
    · subst h
      decide
    · have hquote := attr.isQuote
      rw [← h] at hquote
      constructor <;> rintro rfl <;> exact absurd hquote (by decide)
    · obtain ⟨hopen, hclose⟩ := tag.unmarked attr hattr
      constructor <;> rintro rfl <;> contradiction
  · have hblank := tag.space.blank c h
    constructor <;> rintro rfl <;> exact absurd hblank (by decide)

/-- The body of a tag is empty or begins with blank space. -/
theorem StartTag.head?_body {tag : StartTag} {c : Char} (h : c ∈ tag.body.head?) :
    isBlank c = true := by
  rw [StartTag.body] at h
  cases hattrs : tag.attributes with
  | nil =>
      rw [hattrs] at h
      exact tag.space.blank c (List.mem_of_mem_head? (by simpa using h))
  | cons attr more =>
      obtain ⟨d, gap, hgap⟩ := List.exists_cons_of_ne_nil attr.gap_ne_nil
      have hd : isBlank d = true := attr.gap_blank d (by simp [hgap])
      rw [hattrs] at h
      simp only [List.flatMap_cons, Attribute.text, hgap, List.cons_append, List.head?_cons,
        Option.mem_some] at h
      rwa [← h]

theorem Attribute.getLast?_text (attr : Attribute) : attr.text.getLast? = some attr.quote := by
  simp [Attribute.text, List.getLast?_cons]

/-- The body of a tag ends in a quote or in blank space, so no slash makes the tag void. -/
theorem StartTag.getLast?_body (tag : StartTag) : tag.body.getLast? ≠ some '/' := by
  intro h
  have hspace := (Forest.space_body tag.space).2.2
  rw [StartTag.body, List.getLast?_append] at h
  cases hlast : tag.space.chars.getLast? with
  | some c =>
      rw [hlast] at h hspace
      exact hspace h
  | none =>
      -- without blank space at the end the last attribute decides
      rw [hlast, Option.none_or] at h
      rcases List.eq_nil_or_concat tag.attributes with hattrs | ⟨init, attr, hattrs⟩
      · rw [hattrs] at h
        exact absurd h (by simp)
      · rw [hattrs, List.concat_eq_append, List.flatMap_append, List.getLast?_append,
          List.flatMap_singleton, attr.getLast?_text, Option.some_or] at h
        have hquote := attr.isQuote
        rw [Option.some.inj h] at hquote
        exact absurd hquote (by decide)

/-- What the tolerant scan sees of a tag. -/
def StartTag.toHead (tag : StartTag) : Head where
  name := tag.name
  body := tag.body
  isName := tag.isName
  endsName _ hc := isNameChar_of_isBlank (StartTag.head?_body hc)
  unclosed h := (StartTag.ne_of_mem_body h).2 rfl

def noSpace : Space := ⟨[], by simp⟩

def oneSpace : Space := ⟨[' '], List.all_eq_true.mp rfl⟩

/-- An attribute behind a single blank; that its parts are sound is checked by evaluation. -/
def Attribute.plain (name : Text) (quote : Char) (value : Text)
    (h : (decide (IsName name) && Text.isQuote quote && !value.elem quote) = true) :
    Attribute where
  gap := oneSpace.chars
  name := name
  quote := quote
  value := value
  gap_ne_nil := by simp [oneSpace]
  gap_blank := oneSpace.blank
  isName := by
    simp only [Bool.and_eq_true, decide_eq_true_eq] at h
    exact h.1.1
  isQuote := by
    simp only [Bool.and_eq_true] at h
    exact h.1.2
  not_mem_value := by
    simp only [Bool.and_eq_true] at h
    simpa using h.2

/-- A tag with nothing but its name. -/
def StartTag.bare (name : Text) (h : IsName name) : StartTag := ⟨name, [], noSpace, h, by simp⟩

theorem StartTag.openText_eq (tag : StartTag) : tag.openText = tag.toHead.openTag := by
  simp [StartTag.openText, Head.openTag, StartTag.toHead, tagText]

theorem StartTag.voidText_eq (tag : StartTag) : tag.voidText = tag.toHead.voidTag := by
  simp [StartTag.voidText, Head.voidTag, StartTag.toHead, tagText]

theorem StartTag.closeText_eq (tag : StartTag) : tag.closeText = tag.toHead.closeTag noSpace := by
  simp [StartTag.closeText, Head.closeTag, StartTag.toHead, tagText, noSpace]

/-! ## Documents -/

/-- Text outside of tags. -/
structure CharData where
  chars : Text
  unmarked : '<' ∉ chars

def noData : CharData := ⟨[], by simp⟩

/-- Elements in a row, each behind some character data, and character data behind them all. -/
inductive Content where
  | leaf (data : CharData)
  /-- An element without content. -/
  | void (data : CharData) (tag : StartTag) (rest : Content)
  /-- An element with its content. -/
  | node (data : CharData) (tag : StartTag) (inner rest : Content)

namespace Content

/-- The document written down. -/
def text : Content → Text
  | .leaf data => data.chars
  | .void data tag rest => data.chars ++ (tag.voidText ++ rest.text)
  | .node data tag inner rest =>
    data.chars ++ (tag.openText ++ (inner.text ++ (tag.closeText ++ rest.text)))

/-- The tags that begin an element, in the order of the text. -/
def tags : Content → List StartTag
  | .leaf _ => []
  | .void _ tag rest => tag :: rest.tags
  | .node _ tag inner rest => tag :: (inner.tags ++ rest.tags)

/-- What the tolerant scan sees of a document. -/
def toForest : Content → Forest
  | .leaf data => .leaf ⟨data.chars, tagFree_of_not_mem data.unmarked⟩
  | .void data tag rest =>
    .void ⟨data.chars, tagFree_of_not_mem data.unmarked⟩ tag.toHead rest.toForest
  | .node data tag inner rest =>
    .node ⟨data.chars, tagFree_of_not_mem data.unmarked⟩ tag.toHead tag.getLast?_body noSpace
      inner.toForest rest.toForest

theorem text_toForest (content : Content) : content.toForest.text = content.text := by
  induction content with
  | leaf data => rfl
  | void data tag rest ih => simp only [toForest, Forest.text, text, ih, tag.voidText_eq]
  | node data tag inner rest ihInner ihRest =>
      simp only [toForest, Forest.text, text, ihInner, ihRest, tag.openText_eq,
        tag.closeText_eq]

end Content
end TagLens.Markup
