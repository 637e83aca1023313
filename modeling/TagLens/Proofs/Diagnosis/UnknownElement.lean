import TagLens.Proofs.Text.LineSearch
import TagLens.Proofs.Diagnosis.Location

/-!
# Unknown elements

Element names are looked for line by line, yet no line feed has a say in what is found: a name does
not reach over the end of its line, so the lines together hold exactly the names of the whole text
(`mem_openings_iff`), and the columns that a line gives them are where they are located in the text
(`filter_linewiseFindings`). Every place at which an unknown element begins is reported, once and
under its longest name, and no other place is (`checkLines_unknownElements`).
-/

namespace TagLens.Diagnosis

open Markup (isNameStart isNameChar nameAt? readOpening openings)
open Text (Occurrence Reader occurrences lines lineStarts)

/-! ## Names in a text -/

/-- At the offset a `<` stands directly before a name, which goes as far as name characters do. -/
structure NameAt (text : Text) (offset : Nat) (name : Text) : Prop where
  mark : text[offset]? = some '<'
  start : ∃ c, text[offset + 1]? = some c ∧ isNameStart c = true
  longest : name = (text.drop (offset + 1)).takeWhile isNameChar

/-- Names stand where openings are read. -/
theorem nameAt_iff {text name : Text} {offset : Nat} :
    NameAt text offset name
      ↔ ∃ tail, text.drop offset = '<' :: tail ∧ nameAt? tail = some name := by
  constructor
  · rintro ⟨hmark, ⟨c, hc, hstart⟩, hlongest⟩
    obtain ⟨hoffset, hmark⟩ := List.getElem?_eq_some_iff.mp hmark
    obtain ⟨hnext, hc⟩ := List.getElem?_eq_some_iff.mp hc
    refine ⟨text.drop (offset + 1), ?_, ?_⟩
    · rw [List.drop_eq_getElem_cons hoffset, hmark]
    · have htail : text.drop (offset + 1) = c :: text.drop (offset + 1 + 1) := by
        rw [List.drop_eq_getElem_cons hnext, hc]
      rw [hlongest, htail, nameAt?, if_pos hstart, List.takeWhile_cons,
        if_pos (Markup.isNameChar_of_isNameStart hstart)]
  · rintro ⟨tail, hdrop, hname⟩
    have htail : text.drop (offset + 1) = tail := by
      rw [← List.drop_drop, hdrop, List.drop_one, List.tail_cons]
    have hread := Markup.eq_of_nameAt?_eq_some hname
    refine ⟨?_, ?_, by rw [htail]; exact hread.1⟩
    · rw [← List.head?_drop, hdrop, List.head?_cons]
    · rw [← List.head?_drop, htail]
      cases tail with
      | nil => exact absurd hname (by simp [nameAt?])
      | cons c rest =>
          refine ⟨c, rfl, ?_⟩
          by_contra hc
          rw [Markup.nameAt?_eq_none (by simpa using hc)] at hname
          exact absurd hname (by simp)

/-- A name holds no `<`, so no name stands inside another one. -/
theorem NameAt.lt_of_lt {text name other : Text} {offset later : Nat} (h : NameAt text offset name)
    (hother : NameAt text later other) (hlt : offset < later) : offset + name.length < later := by
  by_contra hinside
  have hindex : later - (offset + 1) < name.length := by omega
  obtain ⟨rest, hrest⟩ : name <+: text.drop (offset + 1) := by
    rw [h.longest]
    exact List.takeWhile_prefix isNameChar
  have hmark : name[later - (offset + 1)]? = some '<' := by
    rw [← List.getElem?_append_left hindex, hrest, List.getElem?_drop,
      Nat.add_sub_cancel' hlt, hother.mark]
  have hchar : isNameChar '<' = true := by
    have hmem : '<' ∈ (text.drop (offset + 1)).takeWhile isNameChar := by
      rw [← h.longest]
      exact List.mem_of_getElem? hmark
    exact List.mem_takeWhile_imp hmem
  exact absurd hchar (by decide)

/-- **Openings are the names of a text.** -/
theorem mem_openings_iff {text : Text} {found : Occurrence Text} :
    found ∈ openings text
      ↔ NameAt text found.start found.value
        ∧ found.stop = found.start + (1 + found.value.length) := by
  have hname : ∀ {found}, found ∈ openings text → NameAt text found.start found.value
      ∧ found.stop = found.start + (1 + found.value.length) := by
    intro found hfound
    obtain ⟨before, whole, n, htext, hread, hstart, hstop⟩ :=
      Text.exists_split_of_mem_occurrences Markup.readOpening_fits hfound
    obtain ⟨tail, rfl, hname, rfl⟩ := Markup.readOpening_eq_some_iff.mp hread
    refine ⟨nameAt_iff.mpr ⟨tail, ?_, hname⟩, hstop⟩
    rw [htext, hstart, Nat.zero_add, List.drop_left]
  refine ⟨hname, ?_⟩
  rintro ⟨hfound, hstop⟩
  obtain ⟨tail, hdrop, hread⟩ := nameAt_iff.mp hfound
  have hsplit : text = text.take found.start ++ '<' :: tail := by
    rw [← hdrop, List.take_append_drop]
  have hlength : (text.take found.start).length = found.start := by
    have hmark := (List.getElem?_eq_some_iff.mp hfound.mark).1
    rw [List.length_take]
    omega
  -- a search passes over places inside a find, so at first only some find around the place is known
  obtain ⟨other, hother, hbefore, hafter⟩ := Text.exists_mem_occurrences_of_read
    Markup.readOpening_fits hsplit (Markup.readOpening_eq_some_iff.mpr ⟨tail, rfl, hread, rfl⟩) 0
  rw [hlength, Nat.zero_add] at hbefore hafter
  obtain ⟨hnamed, hend⟩ := hname hother
  have hstart : other.start = found.start := by
    rcases Nat.lt_or_eq_of_le hbefore with hlt | heq
    · have hclear := hnamed.lt_of_lt hfound hlt
      omega
    · exact heq
  have hvalue : other.value = found.value := by
    rw [hnamed.longest, hfound.longest, hstart]
  have hsame : other = found := by
    obtain ⟨start, stop, value⟩ := found
    obtain ⟨start', stop', value'⟩ := other
    simp only at hstart hvalue hstop hend
    rw [hstart, hvalue] at hend
    rw [hstart, hvalue, hstop, hend]
  rwa [← hsame]

/-! ## Line by line -/

theorem readOpening_onLines : Reader.OnLines readOpening where
  fits := Markup.readOpening_fits
  newline := fun rest => rfl
  append := by
    intro piece rest hne _
    exact Markup.readOpening_append_of_neg (by decide) hne rest

section

variable {validator : Validator} {text : Text}

/-- The report of an unknown element, located in the whole text. -/
def reportIn (text : Text) (found : Occurrence Text) : Finding :=
  ⟨⟨locate text found.start, locate text found.stop⟩, .unknownElement found.value⟩

/-- What a line reports stands where it is located in the text. -/
theorem elementFindings_eq {line : Text} {index : Nat} (hline : (lines text)[index]? = some line) :
    validator.elementFindings line index
      = ((occurrences readOpening ((lineStarts text).getD index 0) line).filter fun found =>
          !validator.schema.isKnown found.value).map (reportIn text) := by
  have hshift : occurrences readOpening ((lineStarts text).getD index 0) line
      = (openings line).map (Occurrence.shift ((lineStarts text).getD index 0)) :=
    Text.occurrences_add ((lineStarts text).getD index 0) 0 line
  rw [hshift, List.filter_map, List.map_map]
  -- a shift does not change names, so the same finds are kept on both sides
  apply List.map_congr_left
  intro found hfound
  obtain ⟨hlt, hstop⟩ := Text.lt_and_le_of_mem_occurrences Markup.readOpening_fits
    (List.mem_filter.mp hfound).1
  show _ = reportIn text (found.shift _)
  rw [reportIn, Occurrence.shift]
  simp only
  rw [locate_line hline (by omega), locate_line hline hstop]
  rfl

theorem filter_linewiseFindings :
    (validator.linewiseFindings text).filter (·.problem.code == "unknown-element")
      = (validator.unknownOpenings text).map (reportIn text) := by
  have hline : ∀ entry ∈ (lines text).zipIdx,
      (validator.lineFindings entry.1 entry.2).filter (·.problem.code == "unknown-element")
        = ((occurrences readOpening ((lineStarts text).getD entry.2 0) entry.1).filter fun found =>
            !validator.schema.isKnown found.value).map (reportIn text) := by
    intro entry hentry
    have hvalues : (validator.valueFindings entry.1 entry.2).filter
        (·.problem.code == "unknown-element") = [] := by
      rw [List.filter_eq_nil_iff]
      intro finding hfinding hcode
      have hmem := code_of_mem_valueFindings hfinding
      rw [beq_iff_eq.mp hcode] at hmem
      exact absurd hmem (by decide)
    rw [filter_lineFindings (· == "unknown-element"), hvalues,
      ← elementFindings_eq (List.mem_zipIdx_iff_getElem?.mp hentry)]
    simp
  rw [Validator.linewiseFindings, List.filter_flatMap, List.flatMap_congr hline,
    Validator.unknownOpenings, openings, Text.occurrences_lines readOpening_onLines,
    List.filter_flatMap, List.map_flatMap]

end

/-! ## Every unknown element is reported where it stands -/

/-- **Checking line by line neither loses nor invents unknown elements.** The lines of a text are
checked exactly when the protocol can address their ends. The findings about unknown elements then
come in the order of the text, one for each offset that holds a name of no known element; each names
it and runs from where its `<` is located in the whole text to where the end of the name is. -/
theorem checkLines_unknownElements (validator : Validator) (text : Text) :
    ((∃ found, validator.checkLines text = .ok found) ↔ Addressable text)
      ∧ ∀ found, validator.checkLines text = .ok found →
        ∃ places : List (Nat × Text),
          (places.map (·.1)).Pairwise (· < ·)
            ∧ (∀ offset name, (offset, name) ∈ places
                ↔ NameAt text offset name ∧ validator.schema.isKnown name = false)
            ∧ List.Forall₂ (fun finding place =>
                finding.problem = .unknownElement place.2
                  ∧ finding.problem.message = "Unknown element: " ++ String.ofList place.2
                  ∧ finding.range.start = locate text place.1
                  ∧ finding.range.stop = locate text (place.1 + 1 + place.2.length))
              (found.filter (·.problem.code == "unknown-element")) places := by
  constructor
  · constructor
    · rintro ⟨found, hfound⟩
      exact (checkLines_eq_ok_iff.mp hfound).1
    · intro hreach
      exact ⟨_, checkLines_eq_ok_iff.mpr ⟨hreach, rfl⟩⟩
  · intro found hfound
    obtain ⟨-, rfl⟩ := checkLines_eq_ok_iff.mp hfound
    refine ⟨(validator.unknownOpenings text).map fun opening => (opening.start, opening.value),
      ?_, ?_, ?_⟩
    · rw [List.map_map, List.pairwise_map]
      exact (Text.occurrences_ordered Markup.readOpening_fits 0 text).filter _
    · intro offset name
      simp only [Validator.unknownOpenings, List.mem_map, List.mem_filter, mem_openings_iff,
        Prod.mk.injEq, Bool.not_eq_true']
      constructor
      · rintro ⟨opening, ⟨⟨hname, -⟩, hunknown⟩, rfl, rfl⟩
        exact ⟨hname, hunknown⟩
      · rintro ⟨hname, hunknown⟩
        exact ⟨⟨offset, offset + (1 + name.length), name⟩, ⟨⟨hname, rfl⟩, hunknown⟩, rfl, rfl⟩
    · rw [filter_linewiseFindings, List.forall₂_map_left_iff, List.forall₂_map_right_iff,
        List.forall₂_same]
      intro opening hopening
      obtain ⟨-, hstop⟩ := mem_openings_iff.mp (List.mem_filter.mp hopening).1
      refine ⟨rfl, rfl, rfl, ?_⟩
      rw [reportIn, hstop, Nat.add_assoc]

/-- Two unknown elements among other marks: one behind a second `<`, with letters of another script
in its name and a carriage return at its end, and one on the third line. -/
def oddNames : Text := "<é <<b.ü:\r\n<list/>\n<_\n<".toList

theorem checkLines_unknownElements_oddNames :
    (Validator.mk listSchema true false).checkLines oddNames
        = .ok [⟨⟨⟨0, 4⟩, ⟨0, 9⟩⟩, .unknownElement "b.ü:".toList⟩,
            ⟨⟨⟨2, 0⟩, ⟨2, 2⟩⟩, .unknownElement "_".toList⟩]
      ∧ ∀ offset name, NameAt oddNames offset name ∧ listSchema.isKnown name = false
          ↔ (offset, name) ∈ [(4, "b.ü:".toList), (19, "_".toList)] := by
  have hfound : (Validator.mk listSchema true false).checkLines oddNames
      = .ok [⟨⟨⟨0, 4⟩, ⟨0, 9⟩⟩, .unknownElement "b.ü:".toList⟩,
          ⟨⟨⟨2, 0⟩, ⟨2, 2⟩⟩, .unknownElement "_".toList⟩] := by decide +kernel
  refine ⟨hfound, ?_⟩
  obtain ⟨places, hordered, hplaces, hreports⟩ :=
    (checkLines_unknownElements _ oddNames).2 _ hfound
  have hfirst : (4, "b.ü:".toList) ∈ places :=
    (hplaces _ _).mpr ⟨⟨rfl, ⟨'b', rfl, by decide⟩, by decide +kernel⟩, by decide⟩
  have hsecond : (19, "_".toList) ∈ places :=
    (hplaces _ _).mpr ⟨⟨rfl, ⟨'_', rfl, by decide⟩, by decide +kernel⟩, by decide⟩
  -- there are as many places as reports, so there are no others
  obtain ⟨first, second, rfl⟩ := List.length_eq_two.mp hreports.length_eq.symm
  obtain ⟨rfl, rfl⟩ : first = (4, "b.ü:".toList) ∧ second = (19, "_".toList) := by
    simp only [List.mem_cons, List.not_mem_nil, or_false] at hfirst hsecond
    grind
  intro offset name
  exact (hplaces offset name).symm

end TagLens.Diagnosis
