import TagLens.Proofs.Markup.TypedTag

/-!
# The value that is being typed

The attribute whose value is left open at the end of a tag is looked for from the left: it is the
first name in front of an equals sign and a quotation mark that does not come again. In a tag with
finished attributes the mark that opens one of them does come again, at the end of the value. The
mark that ends a value need not, and if the value ends in an assignment of its own, that assignment
and the closing mark look like an open value.

`readOpenValue_append_quote` says what is read in front of a quotation mark, and
`OpenTag.head?_occurrences_text` what is found in a tag: the name of the attribute whose value is
being typed, unless the last finished attribute with the other mark ends in an assignment
(`OpenTag.heardName`).
-/

namespace TagLens.Markup

open Text (isBlank isQuote occurrences occurrences_skip occurrences_skip_of_forall
  occurrences_cons_none occurrences_some)

/-! ## Assignments that run to the end -/

/-- The name that a text assigns as a whole: behind the name stand an equals sign and nothing but
blank space. -/
def wholeAssignment? (text : Text) : Option Text :=
  match readAssignment text with
  | some (name, n) => if (text.drop n).all isBlank then some name else none
  | none => none

/-- The first name in a text from which an assignment runs to the end of the text. -/
def trailingName? (text : Text) : Option Text := text.tails.findSome? wholeAssignment?

theorem trailingName?_nil : trailingName? [] = none := rfl

theorem trailingName?_cons (c : Char) (rest : Text) :
    trailingName? (c :: rest) = (wholeAssignment? (c :: rest)).or (trailingName? rest) := by
  rw [trailingName?, List.tails_cons, List.findSome?_cons]
  cases wholeAssignment? (c :: rest) with
  | none => rfl
  | some name => rfl

theorem isName_of_wholeAssignment? {text name : Text} (h : wholeAssignment? text = some name) :
    IsName name := by
  rw [wholeAssignment?] at h
  split at h
  · next found n hread =>
      obtain ⟨-, -, -, hname, -⟩ := exists_of_readAssignment_eq_some hread
      split at h
      · rwa [← Option.some.inj h]
      · exact absurd h (by simp)
  · exact absurd h (by simp)

theorem isName_of_trailingName? {text name : Text} (h : trailingName? text = some name) :
    IsName name := by
  obtain ⟨tail, -, hwhole⟩ := List.exists_of_findSome?_eq_some h
  exact isName_of_wholeAssignment? hwhole

theorem wholeAssignment?_append {name : Text} (h : IsName name) (before after : Space) :
    wholeAssignment? (name ++ (before.chars ++ '=' :: after.chars)) = some name := by
  have hdrop : (name ++ (before.chars ++ '=' :: after.chars)).drop
      (name.length + before.chars.length + 1) = after.chars := by
    rw [Nat.add_assoc, ← List.drop_drop, List.drop_left, ← List.drop_drop, List.drop_left]
    rfl
  rw [wholeAssignment?, readAssignment_append h before.blank]
  simp only [hdrop]
  rw [if_pos (List.all_eq_true.mpr after.blank)]

/-- Up to its value an attribute assigns its name. -/
theorem trailingName?_lead (attr : SpacedAttribute) : trailingName? attr.lead = some attr.name := by
  have hskip : ∀ gap : Text, (∀ c ∈ gap, isBlank c = true) → ∀ rest,
      trailingName? (gap ++ rest) = trailingName? rest := by
    intro gap hgap rest
    induction gap with
    | nil => rfl
    | cons c gap ih =>
        obtain ⟨hc, hgap⟩ := List.forall_mem_cons.mp hgap
        have hnone : wholeAssignment? (c :: (gap ++ rest)) = none := by
          rw [wholeAssignment?, readAssignment_cons _ (isNameChar_of_isBlank hc)]
        rw [List.cons_append, trailingName?_cons, hnone, Option.none_or, ih hgap]
  obtain ⟨c, rest, hname⟩ := List.exists_cons_of_ne_nil attr.isName.ne_nil
  have hwhole := wholeAssignment?_append attr.isName attr.before attr.after
  rw [SpacedAttribute.lead, hskip _ attr.gap_blank]
  rw [hname, List.cons_append] at hwhole ⊢
  rw [trailingName?_cons, hwhole, Option.some_or]

/-! ## Reading in front of a quotation mark -/

section

variable {text rest : Text} {q : Char}

/-- No assignment reaches over a quotation mark. -/
theorem readAssignment_append_quote (hq : isQuote q = true) (text rest : Text) :
    readAssignment (text ++ q :: rest) = readAssignment text := by
  cases hread : readAssignment text with
  | some found =>
      obtain ⟨name, n⟩ := found
      obtain ⟨blanks, tail, rfl, hname, hblanks, rfl⟩ := exists_of_readAssignment_eq_some hread
      have happend := readAssignment_append hname hblanks (tail ++ q :: rest)
      simpa using happend
  | none =>
      by_contra hsome
      obtain ⟨⟨name, n⟩, hlong⟩ := Option.ne_none_iff_exists'.mp hsome
      obtain ⟨blanks, tail, hsplit, hname, hblanks, -⟩ := exists_of_readAssignment_eq_some hlong
      have hassigned : ∀ c ∈ name ++ (blanks ++ ['=']), isQuote c = false := by
        intro c hc
        simp only [List.mem_append, List.mem_singleton] at hc
        rcases hc with hc | hc | rfl
        · exact isQuote_of_isNameChar (hname.isNameChar_of_mem hc)
        · exact isQuote_of_isBlank (hblanks c hc)
        · decide
      -- the assignment holds no mark, so it ends before the mark begins
      obtain ⟨inner, rfl⟩ : ∃ inner, text = (name ++ (blanks ++ ['='])) ++ inner := by
        have hsame : text ++ q :: rest = (name ++ (blanks ++ ['='])) ++ tail := by
          simpa using hsplit
        rcases List.append_eq_append_iff.mp hsame with ⟨part, hpart, htail⟩ | ⟨part, hpart, -⟩
        · cases part with
          | nil => exact ⟨[], by simpa using hpart.symm⟩
          | cons d part =>
              obtain ⟨rfl, -⟩ := List.cons.inj htail
              rw [hassigned q (by simp [hpart])] at hq
              exact absurd hq (by simp)
        · exact ⟨part, hpart⟩
      have happend := readAssignment_append hname hblanks inner
      rw [show (name ++ (blanks ++ ['='])) ++ inner = name ++ (blanks ++ '=' :: inner) by simp,
        happend] at hread
      exact absurd hread (by simp)

/-- In front of a quotation mark an open value is read where an assignment runs up to the mark and
the mark does not come again. -/
theorem readOpenValue_append_quote (hq : isQuote q = true)
    (htext : ∀ c ∈ text, isQuote c = false) :
    readOpenValue (text ++ q :: rest)
      = if q ∈ rest then none
        else (wholeAssignment? text).map fun name => (name, (text ++ q :: rest).length) := by
  rw [readOpenValue, wholeAssignment?, readAssignment_append_quote hq]
  cases hread : readAssignment text with
  | none => simp
  | some found =>
      obtain ⟨name, n⟩ := found
      have hn : n ≤ text.length := by
        obtain ⟨blanks, tail, rfl, -, -, rfl⟩ := exists_of_readAssignment_eq_some hread
        simp only [List.length_append, List.length_cons]
        omega
      simp only [List.drop_append_of_le_length hn]
      by_cases hblank : ∀ c ∈ text.drop n, isBlank c = true
      · have hend : isBlank q = false :=
          isBlank_of_isDelimiter (by simp [isDelimiter, hq])
        rw [dropWhile_isBlank_append hblank hend, if_pos (List.all_eq_true.mpr hblank)]
        by_cases hmem : q ∈ rest
        · simp [hmem]
        · simp [hmem, hq]
      · -- something else stands between the equals sign and the mark
        have hall : (text.drop n).all isBlank = false := by
          rw [Bool.eq_false_iff]
          intro hall
          exact hblank (List.all_eq_true.mp hall)
        obtain ⟨c, more, hmore⟩ :
            ∃ c more, (text.drop n).dropWhile isBlank = c :: more := by
          apply List.exists_cons_of_ne_nil
          rw [ne_eq, List.dropWhile_eq_nil_iff]
          exact hblank
        have hc : isQuote c = false := by
          apply htext
          have hsub := (List.dropWhile_sublist isBlank).trans (List.drop_sublist n text)
          exact hsub.subset (by simp [hmore])
        have hdrop : (text.drop n ++ q :: rest).dropWhile isBlank = c :: (more ++ q :: rest) := by
          rw [List.dropWhile_append, hmore]
          rfl
        rw [hdrop]
        simp [hc, hall]

theorem readOpenValue_of_readAssignment (h : readAssignment text = none) :
    readOpenValue text = none := by
  rw [readOpenValue, h]

/-! ## Searching up to a quotation mark -/

/-- A stretch up to a mark that comes again is passed over. -/
theorem occurrences_recurring (offset : Nat) (hq : isQuote q = true)
    (htext : ∀ c ∈ text, isQuote c = false) (hrest : q ∈ rest) :
    occurrences readOpenValue offset ((text ++ [q]) ++ rest)
      = occurrences readOpenValue (offset + (text ++ [q]).length) rest := by
  apply occurrences_skip
  intro before tail hsplit hne
  obtain ⟨init, c, rfl⟩ := (List.eq_nil_or_concat tail).resolve_left hne
  rw [List.concat_eq_append] at hsplit ⊢
  rw [← List.append_assoc] at hsplit
  obtain ⟨rfl, hlast⟩ := List.append_inj' hsplit rfl
  obtain rfl : q = c := by simpa using hlast
  have hinit : ∀ c ∈ init, isQuote c = false := by
    intro c hc
    exact htext c (by simp [hc])
  rw [List.append_assoc, List.singleton_append, readOpenValue_append_quote hq hinit, if_pos hrest]

/-- Up to a mark that does not come again the first find is the first assignment that runs up to the
mark; if there is none, it lies behind the mark. -/
theorem head?_occurrences_quote (offset : Nat) (hq : isQuote q = true)
    (htext : ∀ c ∈ text, isQuote c = false) (hrest : q ∉ rest) :
    (occurrences readOpenValue offset (text ++ q :: rest)).head?.map (·.value)
      = (trailingName? text).or
          ((occurrences readOpenValue (offset + text.length + 1) rest).head?.map (·.value)) := by
  induction text generalizing offset with
  | nil =>
      have hnone : readOpenValue (q :: rest) = none := by
        apply readOpenValue_of_readAssignment
        exact readAssignment_cons rest (isNameChar_of_isDelimiter (by simp [isDelimiter, hq]))
      rw [List.nil_append, occurrences_cons_none _ hnone, trailingName?_nil, Option.none_or]
      rfl
  | cons c text ih =>
      have hread : readOpenValue (c :: (text ++ q :: rest))
          = (wholeAssignment? (c :: text)).map
              fun name => (name, (c :: text ++ q :: rest).length) := by
        have happend : readOpenValue (c :: text ++ q :: rest) = _ :=
          readOpenValue_append_quote hq htext
        rwa [if_neg hrest] at happend
      rw [trailingName?_cons]
      cases hwhole : wholeAssignment? (c :: text) with
      | none =>
          rw [hwhole, Option.map_none] at hread
          obtain ⟨-, htext⟩ := List.forall_mem_cons.mp htext
          rw [List.cons_append, occurrences_cons_none _ hread, ih _ htext, Option.none_or,
            List.length_cons, Nat.add_assoc offset 1, Nat.add_comm 1]
      | some name =>
          rw [hwhole, Option.map_some] at hread
          rw [List.cons_append, occurrences_some _ hread (by simp) (by simp), Option.some_or]
          rfl

end

/-! ## Tags with an open value -/

/-- There are two quotation marks. -/
theorem eq_or_eq_of_isQuote {a b c : Char} (ha : isQuote a = true) (hb : isQuote b = true)
    (hc : isQuote c = true) (hne : b ≠ c) : a = b ∨ a = c := by
  simp only [isQuote, Bool.or_eq_true, beq_iff_eq] at ha hb hc
  rcases ha with rfl | rfl <;> rcases hb with rfl | rfl <;> rcases hc with rfl | rfl <;> simp_all

theorem not_mem_of_isQuote {text : Text} {q : Char} (hq : isQuote q = true)
    (htext : ∀ c ∈ text, isQuote c = false) : q ∉ text := by
  intro hmem
  rw [htext q hmem] at hq
  exact absurd hq (by simp)

/-- Neither a quotation mark nor an end of a tag stands in the text. -/
def IsPlain (text : Text) : Prop := ∀ c ∈ text, isQuote c = false ∧ c ≠ '<' ∧ c ≠ '>'

instance (text : Text) : Decidable (IsPlain text) :=
  decidable_of_iff (text.all fun c => !isQuote c && (c != '<' && c != '>')) (by simp [IsPlain])

/-- A tag typed up to somewhere inside a value. The attributes before that one are finished; of the
current one the value is what has been typed of it. -/
structure OpenTag where
  name : Text
  finished : List SpacedAttribute
  current : SpacedAttribute
  isName : IsName name
  plain : ∀ attr ∈ finished, IsPlain attr.value
  unmarked : '<' ∉ current.value ∧ '>' ∉ current.value

namespace OpenTag

/-- The current attribute, whose value is not closed. -/
def openText (tag : OpenTag) : Text :=
  tag.current.lead ++ tag.current.quote :: tag.current.value

/-- What stands behind the `<` of the tag. -/
def inner (tag : OpenTag) : Text :=
  tag.name ++ (tag.finished.flatMap SpacedAttribute.text ++ tag.openText)

def text (tag : OpenTag) : Text := '<' :: tag.inner

/-- The last finished attribute that is written with the other quotation mark, unless that mark has
been typed again in the current value. -/
def rival? (tag : OpenTag) : Option SpacedAttribute :=
  if tag.current.value.any isQuote then none
  else tag.finished.reverse.find? fun attr => attr.quote != tag.current.quote

/-- The name that is found for the open value: the one that the value of the rival assigns at its
end, and else that of the current attribute. -/
def heardName (tag : OpenTag) : Text :=
  (tag.rival?.bind fun rival => trailingName? rival.value).getD tag.current.name

variable (tag : OpenTag)

/-- Neither end of a tag stands inside the tag. -/
theorem ne_of_mem_inner {c : Char} (h : c ∈ tag.inner) : c ≠ '<' ∧ c ≠ '>' := by
  simp only [inner, openText, List.mem_append, List.mem_flatMap, List.mem_cons] at h
  rcases h with hname | ⟨attr, hattr, htext⟩ | hlead | rfl | hvalue
  · have hchar := tag.isName.isNameChar_of_mem hname
    constructor <;> rintro rfl <;> exact absurd hchar (by decide)
  · apply SpacedAttribute.ne_of_mem_text _ htext
    intro d hd
    exact (tag.plain attr hattr d hd).2
  · exact SpacedAttribute.ne_of_mem_lead hlead
  · exact ne_of_isQuote tag.current.isQuote
  · obtain ⟨hopen, hclose⟩ := tag.unmarked
    constructor <;> rintro rfl <;> contradiction

/-- Behind the element's name there is an attribute. -/
theorem exists_lead : ∃ (attr : SpacedAttribute) (rest : Text),
    tag.finished.flatMap SpacedAttribute.text ++ tag.openText = attr.lead ++ rest := by
  cases tag.finished with
  | nil => exact ⟨tag.current, _, rfl⟩
  | cons attr more =>
      rw [List.flatMap_cons, SpacedAttribute.text, List.append_assoc, List.append_assoc]
      exact ⟨attr, _, rfl⟩

/-- Attributes whose marks all come again behind them are passed over. -/
theorem occurrences_attributes {attributes : List SpacedAttribute} {rest : Text} (offset : Nat)
    (hplain : ∀ attr ∈ attributes, ∀ c ∈ attr.value, isQuote c = false)
    (hrest : ∀ attr ∈ attributes, attr.quote ∈ rest) :
    occurrences readOpenValue offset (attributes.flatMap SpacedAttribute.text ++ rest)
      = occurrences readOpenValue
          (offset + (attributes.flatMap SpacedAttribute.text).length) rest := by
  induction attributes generalizing offset with
  | nil => rfl
  | cons attr attributes ih =>
      obtain ⟨hvalue, hplain⟩ := List.forall_mem_cons.mp hplain
      obtain ⟨hquote, hrest⟩ := List.forall_mem_cons.mp hrest
      have htext : (attr :: attributes).flatMap SpacedAttribute.text ++ rest
          = (attr.lead ++ [attr.quote]) ++ ((attr.value ++ [attr.quote])
            ++ (attributes.flatMap SpacedAttribute.text ++ rest)) := by
        simp [SpacedAttribute.text]
      -- the opening mark comes again at the end of the value, the closing one behind the attribute
      rw [htext,
        occurrences_recurring _ attr.isQuote (fun c hc => attr.isQuote_of_mem_lead hc)
          (by simp),
        occurrences_recurring _ attr.isQuote hvalue (by simp [hquote]), ih _ hplain hrest]
      congr 1
      simp only [List.flatMap_cons, SpacedAttribute.text, List.length_append, List.length_cons,
        List.length_nil]
      omega

/-- An attribute whose mark does not come again is taken for open if its value assigns something at
its end. -/
theorem head?_occurrences_attribute {rest : Text} (offset : Nat) (attr : SpacedAttribute)
    (hplain : ∀ c ∈ attr.value, isQuote c = false) (hrest : attr.quote ∉ rest) :
    (occurrences readOpenValue offset (attr.text ++ rest)).head?.map (·.value)
      = (trailingName? attr.value).or
          ((occurrences readOpenValue (offset + attr.text.length) rest).head?.map (·.value)) := by
  have htext : attr.text ++ rest
      = (attr.lead ++ [attr.quote]) ++ (attr.value ++ attr.quote :: rest) := by
    simp [SpacedAttribute.text]
  have hlength : attr.text.length
      = (attr.lead ++ [attr.quote]).length + attr.value.length + 1 := by
    simp only [SpacedAttribute.text, List.length_append, List.length_cons, List.length_nil]
    omega
  rw [htext,
    occurrences_recurring _ attr.isQuote (fun c hc => attr.isQuote_of_mem_lead hc)
      (by simp),
    head?_occurrences_quote _ attr.isQuote hplain hrest, hlength]
  simp only [Nat.add_assoc]

/-- The current attribute is found. -/
theorem head?_occurrences_openText (offset : Nat) :
    (occurrences readOpenValue offset tag.openText).head?.map (·.value)
      = some tag.current.name := by
  rw [openText, head?_occurrences_quote _ tag.current.isQuote
    (fun c hc => tag.current.isQuote_of_mem_lead hc) tag.current.not_mem_value,
    trailingName?_lead, Option.some_or]

/-- Nothing is found up to the end of the element's name. -/
theorem occurrences_text :
    occurrences readOpenValue 0 tag.text
      = occurrences readOpenValue (('<' :: tag.name).length)
          (tag.finished.flatMap SpacedAttribute.text ++ tag.openText) := by
  have hopen : ∀ c ∈ ['<'], ∀ tail, readOpenValue (c :: tail) = none := by
    intro c hc tail
    obtain rfl : c = '<' := by simpa using hc
    exact readOpenValue_of_readAssignment (readAssignment_cons tail (by decide))
  have hname : ∀ before tail, tag.name = before ++ tail → tail ≠ [] →
      readOpenValue (tail ++ (tag.finished.flatMap SpacedAttribute.text ++ tag.openText))
        = none := by
    intro before tail hsplit _
    have htail : ∀ c ∈ tail, isNameChar c = true := by
      intro c hc
      exact tag.isName.isNameChar_of_mem (by simp [hsplit, hc])
    obtain ⟨attr, rest, hlead⟩ := tag.exists_lead
    rw [hlead]
    exact readOpenValue_of_readAssignment (readAssignment_append_lead htail attr rest)
  rw [text, inner, ← List.singleton_append, occurrences_skip_of_forall _ _ hopen,
    occurrences_skip _ _ hname]
  congr 1
  simp only [List.length_cons, List.length_nil]
  omega

/-! ### The rival -/

/-- Around and inside a plain value there is no mark but those that delimit it. -/
theorem quote_mem_text_iff {attr : SpacedAttribute} (hplain : ∀ c ∈ attr.value, isQuote c = false)
    {q : Char} (hq : isQuote q = true) : q ∈ attr.text ↔ q = attr.quote := by
  have hlead : q ∉ attr.lead := not_mem_of_isQuote hq fun c hc => attr.isQuote_of_mem_lead hc
  have hvalue : q ∉ attr.value := not_mem_of_isQuote hq hplain
  simp [SpacedAttribute.text, hlead, hvalue]

theorem quote_mem_openText_iff {q : Char} (hq : isQuote q = true) :
    q ∈ tag.openText ↔ q = tag.current.quote ∨ q ∈ tag.current.value := by
  have hlead : q ∉ tag.current.lead :=
    not_mem_of_isQuote hq fun c hc => tag.current.isQuote_of_mem_lead hc
  simp [openText, hlead]

/-- Without a rival all marks come again behind the finished attributes. -/
theorem quote_mem_of_rival?_eq_none (h : tag.rival? = none) :
    ∀ attr ∈ tag.finished, attr.quote ∈ tag.openText := by
  intro attr hattr
  rw [tag.quote_mem_openText_iff attr.isQuote]
  rw [rival?] at h
  split at h
  · next hany =>
      obtain ⟨c, hc, hquote⟩ := List.any_eq_true.mp hany
      have hne : tag.current.quote ≠ c := by
        rintro rfl
        exact tag.current.not_mem_value hc
      rcases eq_or_eq_of_isQuote attr.isQuote tag.current.isQuote hquote hne with heq | heq
      · exact .inl heq
      · exact .inr (by rwa [heq])
  · have hsame := List.find?_eq_none.mp h attr (List.mem_reverse.mpr hattr)
    exact .inl (by simpa using hsame)

/-- A rival stands between attributes whose marks come again, and its own does not. -/
theorem exists_of_rival?_eq_some {rival : SpacedAttribute} (h : tag.rival? = some rival) :
    ∃ front back, tag.finished = front ++ rival :: back
      ∧ (∀ attr ∈ back, attr.quote ∈ tag.openText)
      ∧ (∀ attr ∈ front, attr.quote ∈ rival.text
          ++ (back.flatMap SpacedAttribute.text ++ tag.openText))
      ∧ rival.quote ∉ back.flatMap SpacedAttribute.text ++ tag.openText := by
  rw [rival?] at h
  split at h
  · exact absurd h (by simp)
  next hany =>
  obtain ⟨hother, later, earlier, hsplit, hlater⟩ := List.find?_eq_some_iff_append.mp h
  have hne : rival.quote ≠ tag.current.quote := by simpa using hother
  have hfinished : tag.finished = earlier.reverse ++ rival :: later.reverse := by
    have hreverse := congrArg List.reverse hsplit
    simpa using hreverse
  have hback : ∀ attr ∈ later.reverse, attr.quote = tag.current.quote := by
    intro attr hattr
    simpa using hlater attr (List.mem_reverse.mp hattr)
  have hcurrent : tag.current.quote ∈ tag.openText :=
    (tag.quote_mem_openText_iff tag.current.isQuote).mpr (.inl rfl)
  refine ⟨earlier.reverse, later.reverse, hfinished, ?_, ?_, ?_⟩
  · intro attr hattr
    rwa [hback attr hattr]
  · -- there are but two marks: that of the rival and that of the current attribute
    intro attr _
    rcases eq_or_eq_of_isQuote attr.isQuote rival.isQuote tag.current.isQuote hne with heq | heq
    · simp [heq, SpacedAttribute.text]
    · simp [heq, hcurrent]
  · intro hmem
    rcases List.mem_append.mp hmem with hmem | hmem
    · obtain ⟨attr, hattr, hmem⟩ := List.mem_flatMap.mp hmem
      have hmember : attr ∈ tag.finished := by
        rw [hfinished]
        exact List.mem_append_right _ (List.mem_cons_of_mem _ hattr)
      have hplain : ∀ c ∈ attr.value, isQuote c = false := fun c hc =>
        (tag.plain attr hmember c hc).1
      rw [quote_mem_text_iff hplain rival.isQuote, hback attr hattr] at hmem
      exact hne hmem
    · rcases (tag.quote_mem_openText_iff rival.isQuote).mp hmem with heq | hvalue
      · exact hne heq
      · exact hany (List.any_eq_true.mpr ⟨_, hvalue, rival.isQuote⟩)

/-- **The open value of a tag**: what is found first in a tag is the name heard. -/
theorem head?_occurrences_text :
    (occurrences readOpenValue 0 tag.text).head?.map (·.value) = some tag.heardName := by
  have hplain : ∀ attr ∈ tag.finished, ∀ c ∈ attr.value, isQuote c = false := by
    intro attr hattr c hc
    exact (tag.plain attr hattr c hc).1
  rw [occurrences_text, heardName]
  cases hrival : tag.rival? with
  | none =>
      rw [occurrences_attributes _ hplain (tag.quote_mem_of_rival?_eq_none hrival),
        head?_occurrences_openText]
      rfl
  | some rival =>
      obtain ⟨front, back, hfinished, hback, hfront, hquote⟩ := tag.exists_of_rival?_eq_some hrival
      have hsplit : tag.finished.flatMap SpacedAttribute.text ++ tag.openText
          = front.flatMap SpacedAttribute.text ++ (rival.text
            ++ (back.flatMap SpacedAttribute.text ++ tag.openText)) := by
        simp [hfinished]
      rw [hfinished] at hplain
      have hplainFront : ∀ attr ∈ front, ∀ c ∈ attr.value, isQuote c = false := by
        intro attr hattr
        exact hplain attr (by simp [hattr])
      have hplainBack : ∀ attr ∈ back, ∀ c ∈ attr.value, isQuote c = false := by
        intro attr hattr
        exact hplain attr (by simp [hattr])
      rw [hsplit, occurrences_attributes _ hplainFront hfront,
        head?_occurrences_attribute _ rival (hplain rival (by simp)) hquote,
        occurrences_attributes _ hplainBack hback, head?_occurrences_openText, Option.bind_some]
      cases trailingName? rival.value with
      | none => rfl
      | some name => rfl

/-- The name heard is the right one unless the rival assigns another at its end. -/
theorem heardName_eq_iff :
    tag.heardName = tag.current.name
      ↔ ∀ rival ∈ tag.rival?, ∀ name ∈ trailingName? rival.value, name = tag.current.name := by
  rw [heardName]
  cases tag.rival? with
  | none => simp
  | some rival =>
      cases htrailing : trailingName? rival.value with
      | none => simp [htrailing]
      | some name => simp [htrailing]

theorem isName_heardName : IsName tag.heardName := by
  rw [heardName]
  cases hname : tag.rival?.bind fun rival => trailingName? rival.value with
  | none => exact tag.current.isName
  | some name =>
      obtain ⟨rival, -, htrailing⟩ := Option.bind_eq_some_iff.mp hname
      exact isName_of_trailingName? htrailing

end OpenTag

end TagLens.Markup
