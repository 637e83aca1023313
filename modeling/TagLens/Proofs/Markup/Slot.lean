import TagLens.Proofs.Markup.TypedTag

/-!
# Attributes with their values

`readSlot` reads a name, an equals sign and, if there is one, a complete quoted value. So it keeps
in step with the attributes of a tag whatever their values say: each is read as a whole, and nothing
is read in between (`occurrences_readSlot_attributes`). The name of the tag itself is passed over,
be it as a whole or cut (`occurrences_readSlot_tag`).
-/

namespace TagLens.Markup

open Text (Occurrence Reader isBlank isQuote occurrences occurrences_skip occurrences_skip_of_forall
  occurrences_hit)

/-! ## What is read -/

/-- Without an assignment there is no slot. -/
theorem readSlot_eq_none {text : Text} (h : readAssignment text = none) : readSlot text = none := by
  rw [readSlot, h]

theorem readSlot_cons {c : Char} (rest : Text) (hc : isNameChar c = false) :
    readSlot (c :: rest) = none :=
  readSlot_eq_none (readAssignment_cons rest hc)

theorem quotedLength?_le {text : Text} {n : Nat} (h : quotedLength? text = some n) :
    n ≤ text.length := by
  cases text with
  | nil => exact absurd h (by simp [quotedLength?])
  | cons quote rest =>
      rw [quotedLength?] at h
      split at h
      · next hcomplete =>
          have hmem : quote ∈ rest := by
            rw [Bool.and_eq_true] at hcomplete
            simpa using hcomplete.2
          obtain ⟨value, more, rfl, hvalue⟩ := List.eq_append_cons_of_mem hmem
          rw [Text.takeWhile_ne_append hvalue, Option.some.injEq] at h
          simp only [List.length_cons, List.length_append]
          omega
      · exact absurd h (by simp)

/-- A slot begins with its assignment and ends inside the text. -/
theorem exists_of_readSlot_eq_some {text name : Text} {n : Nat}
    (h : readSlot text = some (name, n)) :
    ∃ m, readAssignment text = some (name, m) ∧ m ≤ n ∧ n ≤ text.length := by
  rw [readSlot] at h
  split at h
  · exact absurd h (by simp)
  · next found m hread =>
      obtain ⟨rfl, rfl⟩ := Prod.mk.inj (Option.some.inj h)
      obtain ⟨blanks, rest, htext, -, -, rfl⟩ := exists_of_readAssignment_eq_some hread
      refine ⟨_, hread, by omega, ?_⟩
      generalize hm : found.length + blanks.length + 1 = m
      have hassigned : m ≤ text.length := by
        rw [htext, ← hm]
        simp only [List.length_append, List.length_cons]
        omega
      have hblanks : (blanksAt (text.drop m)).length ≤ (text.drop m).length :=
        (List.takeWhile_sublist _).length_le
      rw [List.length_drop] at hblanks
      cases hvalue : quotedLength? (text.drop (m + (blanksAt (text.drop m)).length)) with
      | none =>
          rw [Option.getD_none]
          omega
      | some q =>
          have hq := quotedLength?_le hvalue
          rw [List.length_drop] at hq
          rw [Option.getD_some]
          omega

/-- A slot reaches beyond the name in it, at least over the equals sign. -/
theorem length_lt_of_readSlot {text name : Text} {n : Nat} (h : readSlot text = some (name, n)) :
    name.length < n := by
  obtain ⟨m, hread, hle, -⟩ := exists_of_readSlot_eq_some h
  obtain ⟨blanks, -, -, -, -, rfl⟩ := exists_of_readAssignment_eq_some hread
  omega

theorem readSlot_fits : Reader.Fits readSlot := by
  intro text name n h
  have hlt := length_lt_of_readSlot h
  obtain ⟨-, -, -, hle⟩ := exists_of_readSlot_eq_some h
  omega

/-! ## Attributes -/

namespace SpacedAttribute

/-- The attribute without the blank space in front of it. -/
def slot (attr : SpacedAttribute) : Text :=
  attr.name ++ (attr.before.chars ++ '=' :: (attr.after.chars
    ++ attr.quote :: (attr.value ++ [attr.quote])))

theorem text_eq (attr : SpacedAttribute) : attr.text = attr.gap ++ attr.slot := by
  simp [text, lead, slot]

theorem slot_ne_nil (attr : SpacedAttribute) : attr.slot ≠ [] := by
  simp [slot]

theorem quotedLength?_value (attr : SpacedAttribute) (rest : Text) :
    quotedLength? (attr.quote :: (attr.value ++ attr.quote :: rest))
      = some (attr.value.length + 2) := by
  have htake : (attr.value ++ attr.quote :: rest).takeWhile (· != attr.quote) = attr.value :=
    Text.takeWhile_ne_append attr.not_mem_value rest
  rw [quotedLength?, if_pos (by simp [attr.isQuote]), htake]

/-- **An attribute is read as a whole**, with the value that belongs to it. -/
theorem readSlot_slot (attr : SpacedAttribute) (rest : Text) :
    readSlot (attr.slot ++ rest) = some (attr.name, attr.slot.length) := by
  -- the equals sign, the space behind it and the value, as they are met one after the other
  let value := attr.quote :: (attr.value ++ attr.quote :: rest)
  have hquote : isBlank attr.quote = false :=
    isBlank_of_isDelimiter (by simp [isDelimiter, attr.isQuote])
  have htext : attr.slot ++ rest
      = (attr.name ++ (attr.before.chars ++ ['='])) ++ (attr.after.chars ++ value) := by
    simp [slot, value]
  have hread : readAssignment (attr.slot ++ rest)
      = some (attr.name, (attr.name ++ (attr.before.chars ++ ['='])).length) := by
    have happend := readAssignment_append attr.isName attr.before.blank (attr.after.chars ++ value)
    rw [htext]
    simpa [Nat.add_assoc] using happend
  have hblanks : blanksAt (attr.after.chars ++ value) = attr.after.chars := by
    rw [blanksAt, List.takeWhile_append_of_pos attr.after.blank,
      List.takeWhile_cons_of_neg (by simp [hquote]), List.append_nil]
  rw [readSlot, hread]
  simp only
  rw [← List.drop_drop, htext, List.drop_left, hblanks, List.drop_left, attr.quotedLength?_value]
  simp [slot]
  omega

end SpacedAttribute

/-- The names of attributes in a row with their spans, when the blank space in front of the first
one begins at `offset`. -/
def namesFrom (offset : Nat) : List SpacedAttribute → List (Occurrence Text)
  | [] => []
  | attr :: more =>
    ⟨offset + attr.gap.length, offset + attr.gap.length + attr.name.length, attr.name⟩
      :: namesFrom (offset + attr.text.length) more

/-- A name stands behind the blank space in front of it, and its value stands behind it. -/
theorem mem_namesFrom_bounds {attributes : List SpacedAttribute} {offset : Nat}
    {found : Occurrence Text} (h : found ∈ namesFrom offset attributes) :
    offset < found.start
      ∧ found.stop < offset + (attributes.flatMap SpacedAttribute.text).length := by
  induction attributes generalizing offset with
  | nil => simp [namesFrom] at h
  | cons attr attributes ih =>
      have hgap := List.length_pos_iff.mpr attr.gap_ne_nil
      have hlength : attr.gap.length + attr.name.length < attr.text.length := by
        rw [attr.text_eq, SpacedAttribute.slot]
        simp only [List.length_append, List.length_cons]
        omega
      rw [List.flatMap_cons, List.length_append]
      rcases List.mem_cons.mp h with rfl | h
      · dsimp only
        omega
      · have hmore := ih h
        omega

/-- What an occurrence of a slot tells about the name in it. -/
def slotName (found : Occurrence Text) : Occurrence Text :=
  ⟨found.start, found.start + found.value.length, found.value⟩

/-- **The slots of attributes in a row** are the attributes, each at its place. -/
theorem occurrences_readSlot_attributes (attributes : List SpacedAttribute) (offset : Nat)
    (rest : Text) :
    (occurrences readSlot offset (attributes.flatMap SpacedAttribute.text ++ rest)).map slotName
      = namesFrom offset attributes
        ++ (occurrences readSlot
            (offset + (attributes.flatMap SpacedAttribute.text).length) rest).map slotName := by
  induction attributes generalizing offset with
  | nil => rfl
  | cons attr attributes ih =>
      have hgap : ∀ c ∈ attr.gap, ∀ tail, readSlot (c :: tail) = none := by
        intro c hc tail
        exact readSlot_cons tail (isNameChar_of_isBlank (attr.gap_blank c hc))
      have htext : (attr :: attributes).flatMap SpacedAttribute.text ++ rest
          = attr.gap ++ (attr.slot ++ (attributes.flatMap SpacedAttribute.text ++ rest)) := by
        simp [attr.text_eq]
      have hlength : attr.text.length = attr.gap.length + attr.slot.length := by
        rw [attr.text_eq, List.length_append]
      rw [htext, occurrences_skip_of_forall _ _ hgap,
        occurrences_hit _ _ attr.slot_ne_nil (attr.readSlot_slot _), List.map_cons,
        Nat.add_assoc offset, ← hlength, ih, namesFrom, List.flatMap_cons, List.length_append,
        Nat.add_assoc offset, List.cons_append]
      rfl

/-- **The slots of a tag** are those of its attributes. `word` is the end of the tag's name, or all
of it, and `ending` holds nothing that could begin a name. -/
theorem occurrences_readSlot_tag {word ending : Text} (hword : ∀ c ∈ word, isNameChar c = true)
    (hending : ∀ c ∈ ending, isNameChar c = false ∧ c ≠ '=') (attributes : List SpacedAttribute)
    (offset : Nat) :
    (occurrences readSlot offset
        (word ++ (attributes.flatMap SpacedAttribute.text ++ ending))).map slotName
      = namesFrom (offset + word.length) attributes := by
  have hname : ∀ before tail, word = before ++ tail → tail ≠ [] →
      readSlot (tail ++ (attributes.flatMap SpacedAttribute.text ++ ending)) = none := by
    intro before tail hsplit _
    have htail : ∀ c ∈ tail, isNameChar c = true := by
      intro c hc
      exact hword c (by simp [hsplit, hc])
    apply readSlot_eq_none
    cases attributes with
    | nil =>
        apply readAssignment_eq_none_of_not_mem
        intro hmem
        rcases List.mem_append.mp hmem with hmem | hmem
        · exact absurd (htail _ hmem) (by decide)
        · exact (hending _ hmem).2 rfl
    | cons attr more =>
        rw [List.flatMap_cons, SpacedAttribute.text, List.append_assoc, List.append_assoc]
        exact readAssignment_append_lead htail attr _
  have hend : ∀ c ∈ ending, ∀ tail, readSlot (c :: tail) = none := by
    intro c hc tail
    exact readSlot_cons tail (hending c hc).1
  have hnothing : ∀ next, occurrences readSlot next ending = [] := by
    intro next
    have hskip := occurrences_skip_of_forall next [] hend
    simpa using hskip
  rw [occurrences_skip _ _ hname, occurrences_readSlot_attributes, hnothing, List.map_nil,
    List.append_nil]

end TagLens.Markup
