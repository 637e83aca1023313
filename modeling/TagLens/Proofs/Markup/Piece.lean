import TagLens.Proofs.Markup.Content

/-!
# Documents as rows of pieces

The checks of single lines see neither elements nor their nesting. For them a document is a row
of *pieces*, single characters outside of tags and whole tags (`Content.pieces`), and a line is a
row again, made of some of these pieces (`lines_textOf`), as long as no tag reaches over a line
feed. The names behind a `<` are those of the elements the row begins, as long as every `<` is
that of a tag (`exists_startTag_of_suffix`, `exists_suffix_of_startTag`).
-/

namespace TagLens.Markup

open Text (lines)

/-! ## Pieces -/

/-- A character outside of tags, or a whole tag. -/
inductive Piece where
  | char (c : Char)
  | opening (tag : StartTag)
  | void (tag : StartTag)
  | closing (tag : StartTag)

namespace Piece

def text : Piece → Text
  | .char c => [c]
  | .opening tag => tag.openText
  | .void tag => tag.voidText
  | .closing tag => tag.closeText

/-- The tag with which the piece begins an element. -/
def startTag? : Piece → Option StartTag
  | .char _ | .closing _ => none
  | .opening tag | .void tag => some tag

/-- Outside of tags nothing looks like a tag or an assignment, and a tag lies on one line. -/
def Tidy : Piece → Prop
  | .char c => c ≠ '<' ∧ c ≠ '='
  | .opening tag | .void tag | .closing tag => '\n' ∉ tag.body

theorem Tidy.ne_mark {piece : Piece} (h : piece.Tidy) : piece ≠ .char '<' := by
  rintro rfl
  exact h.1 rfl

end Piece

def textOf (row : List Piece) : Text := row.flatMap Piece.text

/-- The tags with which a row begins elements. -/
def startTags (row : List Piece) : List StartTag := row.filterMap Piece.startTag?

@[simp] theorem textOf_nil : textOf [] = [] := rfl

@[simp] theorem textOf_cons (piece : Piece) (row : List Piece) :
    textOf (piece :: row) = piece.text ++ textOf row := rfl

@[simp] theorem textOf_append (first second : List Piece) :
    textOf (first ++ second) = textOf first ++ textOf second := List.flatMap_append

theorem text_infix_textOf {piece : Piece} {row : List Piece} (h : piece ∈ row) :
    piece.text <:+: textOf row := by
  rw [textOf, List.flatMap_def]
  exact List.infix_of_mem_flatten (List.mem_map_of_mem h)

namespace Content

/-- The pieces of a document. -/
def pieces : Content → List Piece
  | .leaf data => data.chars.map .char
  | .void data tag rest => data.chars.map .char ++ .void tag :: rest.pieces
  | .node data tag inner rest =>
    data.chars.map .char ++ .opening tag :: (inner.pieces ++ .closing tag :: rest.pieces)

/-- The character data of a document, in the order of the text. -/
def data : Content → List CharData
  | .leaf data => [data]
  | .void data _ rest => data :: rest.data
  | .node data _ inner rest => data :: (inner.data ++ rest.data)

theorem textOf_map_char (chars : Text) : textOf (chars.map .char) = chars := by
  induction chars with
  | nil => rfl
  | cons c chars ih => rw [List.map_cons, textOf_cons, ih, Piece.text, List.singleton_append]

theorem startTags_map_char (chars : Text) : startTags (chars.map .char) = [] := by
  simp [startTags, Piece.startTag?]

theorem textOf_pieces (content : Content) : textOf content.pieces = content.text := by
  induction content with
  | leaf data => exact textOf_map_char data.chars
  | void data tag rest ih =>
      rw [pieces, textOf_append, textOf_cons, textOf_map_char, ih]
      rfl
  | node data tag inner rest ihInner ihRest =>
      rw [pieces, textOf_append, textOf_cons, textOf_append, textOf_cons, textOf_map_char,
        ihInner, ihRest]
      rfl

theorem startTags_pieces (content : Content) : startTags content.pieces = content.tags := by
  induction content with
  | leaf data => exact startTags_map_char data.chars
  | void data tag rest ih =>
      have hdata := startTags_map_char data.chars
      rw [startTags] at ih hdata ⊢
      rw [pieces, List.filterMap_append, hdata, List.filterMap_cons, ih]
      rfl
  | node data tag inner rest ihInner ihRest =>
      have hdata := startTags_map_char data.chars
      rw [startTags] at ihInner ihRest hdata ⊢
      rw [pieces, List.filterMap_append, hdata, List.filterMap_cons, List.filterMap_append,
        List.filterMap_cons, ihInner, ihRest]
      rfl

/-- Character data holds no `<`, so each of them is that of a tag. -/
theorem ne_mark_of_mem_pieces (content : Content) :
    ∀ piece ∈ content.pieces, piece ≠ .char '<' := by
  have hchars : ∀ data : CharData, ∀ piece ∈ data.chars.map Piece.char, piece ≠ .char '<' := by
    rintro data _ hpiece rfl
    obtain ⟨c, hc, heq⟩ := List.mem_map.mp hpiece
    obtain rfl := Piece.char.inj heq
    exact data.unmarked hc
  induction content with
  | leaf data => exact hchars data
  | void data tag rest ih =>
      simp only [pieces, List.forall_mem_append, List.forall_mem_cons]
      exact ⟨hchars data, Piece.noConfusion, ih⟩
  | node data tag inner rest ihInner ihRest =>
      simp only [pieces, List.forall_mem_append, List.forall_mem_cons]
      exact ⟨hchars data, Piece.noConfusion, ihInner, Piece.noConfusion, ihRest⟩

/-- The pieces are tidy when no equals sign stands outside of tags and every tag lies on one
line. -/
theorem tidy_of_mem_pieces {content : Content} (hdata : ∀ data ∈ content.data, '=' ∉ data.chars)
    (htags : ∀ tag ∈ content.tags, '\n' ∉ tag.body) :
    ∀ piece ∈ content.pieces, piece.Tidy := by
  have hchars : ∀ data : CharData, '=' ∉ data.chars →
      ∀ piece ∈ data.chars.map Piece.char, piece.Tidy := by
    intro data heq piece hpiece
    obtain ⟨c, hc, rfl⟩ := List.mem_map.mp hpiece
    constructor
    · rintro rfl
      exact data.unmarked hc
    · rintro rfl
      exact heq hc
  induction content with
  | leaf data => exact hchars data (hdata data (by simp [Content.data]))
  | void data tag rest ih =>
      simp only [Content.data, tags, List.forall_mem_cons] at hdata htags
      simp only [pieces, List.forall_mem_append, List.forall_mem_cons]
      exact ⟨hchars data hdata.1, htags.1, ih hdata.2 htags.2⟩
  | node data tag inner rest ihInner ihRest =>
      simp only [Content.data, tags, List.forall_mem_cons, List.forall_mem_append] at hdata htags
      simp only [pieces, List.forall_mem_append, List.forall_mem_cons]
      exact ⟨hchars data hdata.1, htags.1, ihInner hdata.2.1 htags.2.1, htags.1,
        ihRest hdata.2.2 htags.2.2⟩

end Content

/-! ## Lines -/

/-- Only a line feed of its own reaches over the end of a line. -/
theorem Piece.newline_not_mem {piece : Piece} (h : piece.Tidy) (hne : piece ≠ .char '\n') :
    '\n' ∉ piece.text := by
  have hname : ∀ tag : StartTag, '\n' ∉ tag.name := fun tag => tag.isName.not_mem (by decide)
  cases piece with
  | char c =>
      intro hmem
      obtain rfl : '\n' = c := by simpa [Piece.text] using hmem
      exact hne rfl
  | opening tag =>
      have hbody : '\n' ∉ tag.body := h
      simp [Piece.text, StartTag.openText, hname tag, hbody]
  | void tag =>
      have hbody : '\n' ∉ tag.body := h
      simp [Piece.text, StartTag.voidText, hname tag, hbody]
  | closing tag => simp [Piece.text, StartTag.closeText, hname tag]

/-- **The lines of a tidy row** are rows of its pieces. -/
theorem lines_textOf {row : List Piece} (h : ∀ piece ∈ row, piece.Tidy) :
    ∃ parts : List (List Piece), lines (textOf row) = parts.map textOf
      ∧ ∀ part ∈ parts, part ⊆ row := by
  induction row with
  | nil => exact ⟨[[]], rfl, by simp⟩
  | cons piece row ih =>
      obtain ⟨hpiece, hrow⟩ := List.forall_mem_cons.mp h
      obtain ⟨parts, hlines, hparts⟩ := ih hrow
      have hwider : ∀ part ∈ parts, part ⊆ piece :: row := by
        intro part hpart
        exact List.subset_cons_of_subset piece (hparts part hpart)
      by_cases hfeed : piece = .char '\n'
      · subst hfeed
        refine ⟨[] :: parts, ?_, ?_⟩
        · rw [textOf_cons, Piece.text, List.singleton_append, Text.lines_newline, hlines,
            List.map_cons, textOf_nil]
        · rw [List.forall_mem_cons]
          exact ⟨List.nil_subset _, hwider⟩
      · -- any other piece goes to the front of the first line
        cases parts with
        | nil => exact absurd hlines (Text.lines_ne_nil _)
        | cons part more =>
            rw [List.map_cons] at hlines
            rw [List.forall_mem_cons] at hwider
            refine ⟨(piece :: part) :: more, ?_, ?_⟩
            · rw [textOf_cons, Text.lines_append (Piece.newline_not_mem hpiece hfeed) hlines,
                List.map_cons, textOf_cons]
            · rw [List.forall_mem_cons]
              exact ⟨List.cons_subset_cons piece (hparts part (by simp)), hwider.2⟩

/-! ## Names behind a `<` -/

/-- The `<` of a tag is the only one in it. -/
theorem Piece.lt_not_mem_tail (piece : Piece) :
    ∃ c tail, piece.text = c :: tail ∧ '<' ∉ tail := by
  have hname : ∀ tag : StartTag, '<' ∉ tag.name := fun tag => tag.isName.not_mem (by decide)
  have hbody : ∀ tag : StartTag, '<' ∉ tag.body := by
    intro tag hmem
    exact (StartTag.ne_of_mem_body hmem).1 rfl
  cases piece with
  | char c => exact ⟨c, [], rfl, by simp⟩
  | opening tag => exact ⟨'<', _, rfl, by simp [hname tag, hbody tag]⟩
  | void tag => exact ⟨'<', _, rfl, by simp [hname tag, hbody tag]⟩
  | closing tag => exact ⟨'<', _, rfl, by simp [hname tag]⟩

theorem exists_piece_of_suffix {row : List Piece} {tail : Text}
    (hsuffix : '<' :: tail <:+ textOf row) :
    ∃ piece after, piece ∈ row ∧ '<' :: tail = piece.text ++ after := by
  induction row with
  | nil => simp at hsuffix
  | cons piece row ih =>
      obtain ⟨c, inner, htext, hinner⟩ := piece.lt_not_mem_tail
      obtain ⟨before, hbefore⟩ := hsuffix
      rw [textOf_cons] at hbefore
      -- the `<` lies behind the piece, or in it and then at its front
      rcases List.append_eq_append_iff.mp hbefore with ⟨part, hpart, hrest⟩ | ⟨part, hpart, hrest⟩
      · cases before with
        | nil =>
            rw [List.nil_append] at hpart
            exact ⟨piece, textOf row, by simp, by rw [hrest, hpart]⟩
        | cons d before =>
            rw [htext, List.cons_append] at hpart
            obtain ⟨-, hinside⟩ := List.cons.inj hpart
            cases part with
            | nil =>
                obtain ⟨other, after, hmem, heq⟩ := ih ⟨[], by simpa using hrest⟩
                exact ⟨other, after, by simp [hmem], heq⟩
            | cons e part =>
                obtain ⟨rfl, -⟩ := List.cons.inj hrest
                exact absurd (by simp [hinside]) hinner
      · obtain ⟨other, after, hmem, heq⟩ := ih ⟨part, hrest.symm⟩
        exact ⟨other, after, by simp [hmem], heq⟩

/-- Behind the name of a tag stands blank space or the end of the tag. -/
theorem StartTag.endsName {tag : StartTag} {c : Char} (hc : isDelimiter c = true) (rest : Text) :
    EndsName (tag.body ++ c :: rest) := by
  intro d hd
  rw [Option.mem_def, List.head?_append] at hd
  cases hbody : tag.body.head? with
  | some e =>
      rw [hbody, Option.some_or, Option.some.injEq] at hd
      subst hd
      exact isNameChar_of_isBlank (StartTag.head?_body hbody)
  | none =>
      rw [hbody, Option.none_or, List.head?_cons, Option.some.injEq] at hd
      subst hd
      exact isNameChar_of_isDelimiter hc

theorem StartTag.nameAt?_openText (tag : StartTag) {c : Char} (hc : isDelimiter c = true)
    (rest : Text) : nameAt? (tag.name ++ (tag.body ++ c :: rest)) = some tag.name :=
  nameAt?_append tag.isName (StartTag.endsName hc rest)

/-- A piece that begins an element is written as the tag is; `c` is the `>` or the slash with
which it ends. -/
theorem Piece.text_of_startTag? {piece : Piece} {tag : StartTag}
    (h : piece.startTag? = some tag) :
    ∃ c ending, isDelimiter c = true
      ∧ piece.text = '<' :: (tag.name ++ (tag.body ++ c :: ending)) := by
  cases piece with
  | char c => exact absurd h (by simp [Piece.startTag?])
  | opening other =>
      obtain rfl : other = tag := Option.some.inj h
      exact ⟨'>', [], by decide, rfl⟩
  | void other =>
      obtain rfl : other = tag := Option.some.inj h
      exact ⟨'/', ['>'], by decide, rfl⟩
  | closing other => exact absurd h (by simp [Piece.startTag?])

/-- The name behind the `<` of a tag is that of the element it begins. -/
theorem Piece.startTag?_of_nameAt? {piece : Piece} (h : piece ≠ .char '<')
    {tail after name : Text} (htail : '<' :: tail = piece.text ++ after)
    (hname : nameAt? tail = some name) :
    ∃ tag, piece.startTag? = some tag ∧ tag.name = name := by
  cases piece with
  | char c =>
      obtain ⟨rfl, -⟩ := List.cons.inj htail
      exact absurd rfl h
  | opening tag =>
      obtain rfl : tail = tag.name ++ (tag.body ++ '>' :: after) := by
        simpa [Piece.text, StartTag.openText] using htail
      rw [tag.nameAt?_openText (by decide)] at hname
      exact ⟨tag, rfl, Option.some.inj hname⟩
  | void tag =>
      obtain rfl : tail = tag.name ++ (tag.body ++ '/' :: '>' :: after) := by
        simpa [Piece.text, StartTag.voidText] using htail
      rw [tag.nameAt?_openText (by decide)] at hname
      exact ⟨tag, rfl, Option.some.inj hname⟩
  | closing tag =>
      obtain rfl : tail = '/' :: (tag.name ++ '>' :: after) := by
        simpa [Piece.text, StartTag.closeText] using htail
      rw [nameAt?_eq_none (by decide)] at hname
      exact absurd hname (by simp)

/-- **Names behind a `<`**: in a row of which every `<` is that of a tag, each of them is the name
of an element that the row begins. -/
theorem exists_startTag_of_suffix {row : List Piece} (h : ∀ piece ∈ row, piece ≠ .char '<')
    {tail name : Text} (hsuffix : '<' :: tail <:+ textOf row) (hname : nameAt? tail = some name) :
    ∃ tag ∈ startTags row, tag.name = name := by
  obtain ⟨piece, after, hmem, htail⟩ := exists_piece_of_suffix hsuffix
  obtain ⟨tag, htag, heq⟩ := Piece.startTag?_of_nameAt? (h piece hmem) htail hname
  exact ⟨tag, List.mem_filterMap.mpr ⟨piece, hmem, htag⟩, heq⟩

/-- Every element that a row begins has its name behind a `<`. -/
theorem exists_suffix_of_startTag {row : List Piece} {tag : StartTag} (h : tag ∈ startTags row) :
    ∃ tail, '<' :: tail <:+ textOf row ∧ nameAt? tail = some tag.name := by
  obtain ⟨piece, hmem, htag⟩ := List.mem_filterMap.mp h
  obtain ⟨before, after, rfl⟩ := List.append_of_mem hmem
  obtain ⟨c, ending, hc, htext⟩ := Piece.text_of_startTag? htag
  refine ⟨tag.name ++ (tag.body ++ c :: (ending ++ textOf after)), ⟨textOf before, ?_⟩,
    tag.nameAt?_openText hc _⟩
  simp [htext]

end TagLens.Markup
