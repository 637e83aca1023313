import TagLens.Markup.Attribute
import TagLens.Proofs.Markup.Piece

/-!
# The values that a text assigns

`readValue` looks for a name, an equals sign and a quoted value anywhere in a text. In a tidy row
of pieces it finds the attributes of the tags with their values, in order, and nothing else
(`values_textOf`): an equals sign inside a value lies inside a find, an attribute with an empty
value is passed over as a whole, and everywhere else no equals sign follows a name.
-/

namespace TagLens.Markup

open Text (Occurrence Reader isBlank occurrences occurrences_skip occurrences_skip_of_forall
  occurrences_hit occurrences_cons_none)

/-! ## Where nothing is assigned -/

/-- The name characters at the head of the text are not followed by an equals sign. -/
def Unassigned (text : Text) : Prop := ∀ c ∈ (text.dropWhile isNameChar).head?, c ≠ '='

theorem unassigned_cons {c : Char} (rest : Text) (hc : isNameChar c = false) (hne : c ≠ '=') :
    Unassigned (c :: rest) := by
  intro d hd
  rw [List.dropWhile_cons, if_neg (by simp [hc])] at hd
  obtain rfl : c = d := by simpa using hd
  exact hne

theorem unassigned_append {piece rest : Text} (hpiece : '=' ∉ piece) (hrest : Unassigned rest) :
    Unassigned (piece ++ rest) := by
  induction piece with
  | nil => exact hrest
  | cons c piece ih =>
      rw [List.mem_cons, not_or] at hpiece
      cases hc : isNameChar c with
      | false => exact unassigned_cons _ hc (Ne.symm hpiece.1)
      | true =>
          have hlater := ih hpiece.2
          rw [Unassigned] at hlater ⊢
          rwa [List.cons_append, List.dropWhile_cons, if_pos hc]

theorem readValue_of_unassigned {text : Text} (h : Unassigned text) : readValue text = none := by
  cases hname : nameAt? text with
  | none => rw [readValue, hname]
  | some name =>
      obtain ⟨-, hdrop, -⟩ := eq_of_nameAt?_eq_some hname
      rw [Unassigned, ← hdrop] at h
      rw [readValue, hname]
      simp only
      split
      · next heq =>
          rw [heq] at h
          exact absurd rfl (h '=' (by simp))
      · rfl

/-- A value is assigned to a name, so nothing is read where no name begins. -/
theorem readValue_cons {c : Char} (rest : Text) (hc : isNameChar c = false) :
    readValue (c :: rest) = none := by
  rw [readValue, nameAt?_eq_none (isNameStart_of_isNameChar_eq_false hc)]

/-- A piece without an equals sign is passed over, if none follows it either. -/
theorem occurrences_readValue_unassigned {piece rest : Text} (offset : Nat) (hpiece : '=' ∉ piece)
    (hrest : Unassigned rest) :
    occurrences readValue offset (piece ++ rest)
      = occurrences readValue (offset + piece.length) rest := by
  apply occurrences_skip
  intro before tail hsplit _
  apply readValue_of_unassigned
  apply unassigned_append _ hrest
  intro hmem
  exact hpiece (by rw [hsplit]; exact List.mem_append_right _ hmem)

theorem readValue_fits : Reader.Fits readValue := by
  intro text found n h
  unfold readValue at h
  split at h
  · exact absurd h (by simp)
  · next name hname =>
      split at h
      · next quote rest hdrop =>
          simp only at h
          split at h
          · next hcomplete =>
              obtain ⟨-, rfl⟩ := Prod.mk.inj (Option.some.inj h)
              have hmem : quote ∈ rest := by
                simp only [Bool.and_eq_true] at hcomplete
                simpa using hcomplete.1.2
              obtain ⟨value, more, rfl, hvalue⟩ := List.eq_append_cons_of_mem hmem
              have hlength := congrArg List.length hdrop
              rw [Text.takeWhile_ne_append hvalue]
              simp only [List.length_drop, List.length_cons, List.length_append] at hlength
              omega
          · exact absurd h (by simp)
      · exact absurd h (by simp)

/-! ## Attributes -/

namespace Attribute

/-- The attribute without the blank space in front of it. -/
def assignment (attr : Attribute) : Text :=
  attr.name ++ '=' :: attr.quote :: (attr.value ++ [attr.quote])

/-- The value that an attribute shows to a reader of nonempty values. -/
def assigned (attr : Attribute) : List (Text × Text) :=
  if attr.value = [] then [] else [(attr.name, attr.value)]

theorem endsName_eq (rest : Text) : EndsName ('=' :: rest) := by
  intro c hc
  obtain rfl : '=' = c := by simpa using hc
  decide

theorem readValue_assignment (attr : Attribute) (h : attr.value ≠ []) (rest : Text) :
    readValue (attr.assignment ++ rest)
      = some ((attr.name, attr.value), attr.assignment.length) := by
  have htext : attr.assignment ++ rest
      = attr.name ++ '=' :: attr.quote :: (attr.value ++ attr.quote :: rest) := by
    simp [assignment]
  have hlength : attr.assignment.length = attr.name.length + attr.value.length + 3 := by
    simp [assignment]
    omega
  have hname := nameAt?_append attr.isName
    (endsName_eq (attr.quote :: (attr.value ++ attr.quote :: rest)))
  have hvalue : (attr.value ++ attr.quote :: rest).takeWhile (· != attr.quote) = attr.value :=
    Text.takeWhile_ne_append attr.not_mem_value rest
  have hnonempty : attr.value.isEmpty = false := by simpa using h
  rw [htext, hlength, readValue, hname]
  simp [hvalue, attr.isQuote, hnonempty]

/-- An empty value is not read, wherever in its name the reading begins. -/
theorem readValue_empty {tail : Text} (htail : ∀ c ∈ tail, isNameChar c = true) (quote : Char)
    (rest : Text) : readValue (tail ++ '=' :: quote :: quote :: rest) = none := by
  cases hname : nameAt? (tail ++ '=' :: quote :: quote :: rest) with
  | none => rw [readValue, hname]
  | some name =>
      -- whatever name is read, the equals sign and the two quotes are left behind it
      obtain ⟨-, hdrop, -⟩ := eq_of_nameAt?_eq_some hname
      rw [dropWhile_isNameChar_append htail (endsName_eq _)] at hdrop
      rw [readValue, hname]
      simp [hdrop]

/-- An attribute with an empty value is passed over: nothing is read in its name, and the equals
sign and the two quotes begin no name. -/
theorem occurrences_assignment (attr : Attribute) (h : attr.value = []) (offset : Nat)
    (rest : Text) :
    occurrences readValue offset (attr.assignment ++ rest)
      = occurrences readValue (offset + attr.assignment.length) rest := by
  have hquote : isNameChar attr.quote = false :=
    isNameChar_of_isDelimiter (by simp [isDelimiter, attr.isQuote])
  have hname : ∀ before tail, attr.name = before ++ tail → tail ≠ [] →
      readValue (tail ++ (['=', attr.quote, attr.quote] ++ rest)) = none := by
    intro before tail hsplit _
    apply readValue_empty
    intro c hc
    exact attr.isName.isNameChar_of_mem (by rw [hsplit]; exact List.mem_append_right _ hc)
  have hmarks : ∀ c ∈ ['=', attr.quote, attr.quote], ∀ tail, readValue (c :: tail) = none := by
    intro c hc tail
    apply readValue_cons
    simp only [List.mem_cons, List.not_mem_nil, or_false] at hc
    rcases hc with rfl | rfl | rfl
    · decide
    · exact hquote
    · exact hquote
  have htext : attr.assignment = attr.name ++ ['=', attr.quote, attr.quote] := by
    simp [assignment, h]
  rw [htext, List.append_assoc, occurrences_skip _ _ hname, occurrences_skip_of_forall _ _ hmarks,
    List.length_append, Nat.add_assoc]

/-- The attribute as it is found when its name begins at an offset. -/
def foundAt (attr : Attribute) (start : Nat) : Occurrence (Text × Text) :=
  ⟨start, start + attr.assignment.length, (attr.name, attr.value)⟩

/-- Does the attribute show a value to a reader of nonempty values? -/
def hasValue (attr : Attribute) : Bool := attr.value ≠ []

/-- What is read of an attribute is its assignment, if there is a value. -/
theorem occurrences_readValue (attr : Attribute) (offset : Nat) (rest : Text) :
    occurrences readValue offset (attr.text ++ rest)
      = (if attr.hasValue then [attr.foundAt (offset + attr.gap.length)] else [])
        ++ occurrences readValue (offset + attr.text.length) rest := by
  have htext : attr.text = attr.gap ++ attr.assignment := rfl
  have hgap : ∀ c ∈ attr.gap, ∀ tail, readValue (c :: tail) = none := by
    intro c hc tail
    exact readValue_cons tail (isNameChar_of_isBlank (attr.gap_blank c hc))
  rw [htext, List.append_assoc, occurrences_skip_of_forall _ _ hgap, List.length_append,
    ← Nat.add_assoc]
  by_cases hvalue : attr.value = []
  · rw [if_neg (by simp [hasValue, hvalue]), attr.occurrences_assignment hvalue, List.nil_append]
  · have hne : attr.assignment ≠ [] := by simp [assignment]
    rw [if_pos (by simp [hasValue, hvalue]),
      occurrences_hit _ _ hne (attr.readValue_assignment hvalue rest), List.singleton_append,
      foundAt]

end Attribute

/-! ## Attributes in a row -/

/-- Attributes in a row with the offsets of their names, when the blank space in front of the first
one begins at `offset`. -/
def placedFrom (offset : Nat) : List Attribute → List (Nat × Attribute)
  | [] => []
  | attr :: more => (offset + attr.gap.length, attr) :: placedFrom (offset + attr.text.length) more

theorem map_snd_placedFrom (offset : Nat) (attributes : List Attribute) :
    (placedFrom offset attributes).map (·.2) = attributes := by
  induction attributes generalizing offset with
  | nil => rfl
  | cons attr attributes ih => rw [placedFrom, List.map_cons, ih]

/-- **What is read of attributes in a row** are the ones with a value, each at its place. -/
theorem occurrences_readValue_attributes (attributes : List Attribute) (offset : Nat)
    (rest : Text) :
    occurrences readValue offset (attributes.flatMap Attribute.text ++ rest)
      = ((placedFrom offset attributes).filter (·.2.hasValue)).map (fun entry =>
          entry.2.foundAt entry.1)
        ++ occurrences readValue (offset + (attributes.flatMap Attribute.text).length) rest := by
  induction attributes generalizing offset with
  | nil => rfl
  | cons attr attributes ih =>
      rw [List.flatMap_cons, List.append_assoc, attr.occurrences_readValue, ih,
        List.length_append, Nat.add_assoc, placedFrom, List.filter_cons]
      cases attr.hasValue <;> rfl

/-! ## Tags and rows -/

def StartTag.assigned (tag : StartTag) : List (Text × Text) :=
  tag.attributes.flatMap Attribute.assigned

theorem StartTag.mem_assigned {tag : StartTag} {entry : Text × Text} (h : entry ∈ tag.assigned) :
    ∃ attr ∈ tag.attributes, attr.value ≠ [] ∧ entry = (attr.name, attr.value) := by
  obtain ⟨attr, hattr, hentry⟩ := List.mem_flatMap.mp h
  rw [Attribute.assigned] at hentry
  split at hentry
  · simp at hentry
  · next hne => exact ⟨attr, hattr, hne, by simpa using hentry⟩

/-- The values of the attributes found are those that the tag assigns. -/
theorem StartTag.map_value_placedFrom (tag : StartTag) (offset : Nat) :
    (((placedFrom offset tag.attributes).filter (·.2.hasValue)).map fun entry =>
        (entry.2.foundAt entry.1).value) = tag.assigned := by
  rw [StartTag.assigned]
  induction tag.attributes generalizing offset with
  | nil => rfl
  | cons attr attributes ih =>
      rw [placedFrom, List.filter_cons, List.flatMap_cons, ← ih (offset + attr.text.length),
        Attribute.assigned, Attribute.hasValue]
      by_cases hvalue : attr.value = []
      · simp [hvalue]
      · simp [hvalue, Attribute.foundAt]

/-- Behind its name a tag goes on with blank space or ends with the delimiter `c`. -/
theorem unassigned_attributes (attributes : List Attribute) (space : Space) {c : Char}
    (hc : isDelimiter c = true) (hne : c ≠ '=') (rest : Text) :
    Unassigned (attributes.flatMap Attribute.text ++ (space.chars ++ c :: rest)) := by
  have hblank : ∀ {d : Char} (more : Text), isBlank d = true → Unassigned (d :: more) := by
    intro d more hd
    apply unassigned_cons _ (isNameChar_of_isBlank hd)
    rintro rfl
    exact absurd hd (by decide)
  cases attributes with
  | nil =>
      cases hspace : space.chars with
      | nil => exact unassigned_cons rest (isNameChar_of_isDelimiter hc) hne
      | cons d more => exact hblank _ (space.blank d (by simp [hspace]))
  | cons attr attributes =>
      obtain ⟨d, gap, hgap⟩ := List.exists_cons_of_ne_nil attr.gap_ne_nil
      rw [List.flatMap_cons, Attribute.text, hgap]
      exact hblank _ (attr.gap_blank d (by simp [hgap]))

/-- **What is read of a tag that begins an element** are its attributes, each at its place; `c` is
the `>` or the slash behind them. -/
theorem occurrences_readValue_tag {name : Text} (h : IsName name) (attributes : List Attribute)
    (space : Space) {c : Char} (hc : isDelimiter c = true) (hne : c ≠ '=') (offset : Nat)
    (rest : Text) :
    ∃ next, occurrences readValue offset
        ('<' :: (name ++ (attributes.flatMap Attribute.text ++ (space.chars ++ c :: rest))))
      = ((placedFrom (offset + (name.length + 1)) attributes).filter (·.2.hasValue)).map
          (fun entry => entry.2.foundAt entry.1)
        ++ occurrences readValue next rest := by
  have hname : '=' ∉ '<' :: name := by
    rw [List.mem_cons, not_or]
    exact ⟨by decide, h.not_mem (by decide)⟩
  have hspace : ∀ d ∈ space.chars, ∀ tail, readValue (d :: tail) = none := by
    intro d hd tail
    exact readValue_cons tail (isNameChar_of_isBlank (space.blank d hd))
  have hbody := unassigned_attributes attributes space hc hne rest
  rw [← List.cons_append, occurrences_readValue_unassigned _ hname hbody,
    occurrences_readValue_attributes, occurrences_skip_of_forall _ _ hspace,
    occurrences_cons_none _ (readValue_cons rest (isNameChar_of_isDelimiter hc))]
  exact ⟨_, rfl⟩

theorem StartTag.values_text (tag : StartTag) {c : Char} (hc : isDelimiter c = true) (hne : c ≠ '=')
    (offset : Nat) (rest : Text) :
    ∃ next, (occurrences readValue offset ('<' :: (tag.name ++ (tag.body ++ c :: rest)))).map
        (·.value)
      = tag.assigned ++ (occurrences readValue next rest).map (·.value) := by
  obtain ⟨next, hfound⟩ :=
    occurrences_readValue_tag tag.isName tag.attributes tag.space hc hne offset rest
  refine ⟨next, ?_⟩
  rw [StartTag.body, List.append_assoc, hfound, List.map_append, List.map_map,
    ← tag.map_value_placedFrom]
  rfl

theorem StartTag.eq_not_mem_closeText (tag : StartTag) : '=' ∉ tag.closeText := by
  have hname : '=' ∉ tag.name := tag.isName.not_mem (by decide)
  simp [StartTag.closeText, hname]

/-- A tidy row never begins in the middle of an assignment. -/
theorem unassigned_textOf {row : List Piece} (h : ∀ piece ∈ row, piece.Tidy) :
    Unassigned (textOf row) := by
  induction row with
  | nil => simp [Unassigned]
  | cons piece row ih =>
      obtain ⟨hpiece, hrow⟩ := List.forall_mem_cons.mp h
      cases piece with
      | char c =>
          have hc : '=' ∉ [c] := by simpa using Ne.symm hpiece.2
          exact unassigned_append hc (ih hrow)
      | opening tag => exact unassigned_cons _ (by decide) (by decide)
      | void tag => exact unassigned_cons _ (by decide) (by decide)
      | closing tag => exact unassigned_cons _ (by decide) (by decide)

/-- **The values of a tidy row** are those of the attributes of its tags, from left to right. -/
theorem values_textOf {row : List Piece} (h : ∀ piece ∈ row, piece.Tidy) (offset : Nat) :
    (occurrences readValue offset (textOf row)).map (·.value)
      = (startTags row).flatMap StartTag.assigned := by
  induction row generalizing offset with
  | nil => simp [startTags]
  | cons piece row ih =>
      obtain ⟨hpiece, hrow⟩ := List.forall_mem_cons.mp h
      have hlater := unassigned_textOf hrow
      cases piece with
      | char c =>
          have hc : '=' ∉ [c] := by simpa using Ne.symm hpiece.2
          rw [textOf_cons, Piece.text, occurrences_readValue_unassigned _ hc hlater, ih hrow]
          rfl
      | opening tag =>
          have htext : textOf (.opening tag :: row)
              = '<' :: (tag.name ++ (tag.body ++ '>' :: textOf row)) := by
            simp [Piece.text, StartTag.openText]
          obtain ⟨next, hvalues⟩ := tag.values_text (c := '>') (by decide) (by decide) offset
            (textOf row)
          rw [htext, hvalues, ih hrow]
          rfl
      | void tag =>
          have htext : textOf (.void tag :: row)
              = '<' :: (tag.name ++ (tag.body ++ '/' :: '>' :: textOf row)) := by
            simp [Piece.text, StartTag.voidText]
          obtain ⟨next, hvalues⟩ := tag.values_text (c := '/') (by decide) (by decide) offset
            ('>' :: textOf row)
          rw [htext, hvalues, occurrences_cons_none _ (readValue_cons _ (by decide)), ih hrow]
          rfl
      | closing tag =>
          rw [textOf_cons, Piece.text,
            occurrences_readValue_unassigned _ tag.eq_not_mem_closeText hlater, ih hrow]
          rfl

/-- The attributes of a tag are assigned in every row that holds the tag. -/
theorem assignment_infix_textOf {row : List Piece} {tag : StartTag} (htag : tag ∈ startTags row)
    {attr : Attribute} (hattr : attr ∈ tag.attributes) : attr.name ++ ['='] <:+: textOf row := by
  have hassignment : attr.name ++ ['='] <:+: attr.text :=
    ⟨attr.gap, attr.quote :: (attr.value ++ [attr.quote]), by simp [Attribute.text]⟩
  have hbody : attr.text <:+: tag.body := by
    rw [StartTag.body, List.flatMap_def]
    exact (List.infix_of_mem_flatten (List.mem_map_of_mem hattr)).trans
      (List.prefix_append _ _).isInfix
  obtain ⟨piece, hpiece, hstarts⟩ := List.mem_filterMap.mp htag
  obtain ⟨c, ending, -, htext⟩ := Piece.text_of_startTag? hstarts
  have hpiece' : tag.body <:+: piece.text := ⟨'<' :: tag.name, c :: ending, by simp [htext]⟩
  exact hassignment.trans (hbody.trans (hpiece'.trans (text_infix_textOf hpiece)))

end TagLens.Markup
