import Mathlib.Data.List.Forall2
import TagLens.Proofs.Document.LineTable
import TagLens.Proofs.Markup.NearestMatch
import TagLens.Proofs.Diagnosis.Findings

/-!
# Where findings stand

The checks find out the position of an offset by looking back to the last line feed (`locate`); an
open document does so by its table of lines. The two agree on every offset of a text
(`locate_eq_positionAt`), so a range that was located leads back to the offsets it was made of
(`offsetAt_locate`), and a line's own columns are what is located on it (`locate_line`).

So the ranges of all checks come down to one kind: apart from the two fixed ranges for what concerns
the document as a whole, they run from one offset of the text to another
(`placed_of_mem_allFindings`). The range of a closing tag that closes nothing selects that tag in the
editor, and nothing else (`unmatchedClosing_selects`).
-/

namespace TagLens.Diagnosis

open Document (Position Range InRange endPosition positionAt offsetAt)
open Markup (IsName Token nesting tokens tagText)
open Text (Occurrence Reader occurrences lines lineStarts)

/-! ## Located positions -/

section

variable {text : Text} {offset : Nat}

theorem locate_eq_endPosition (text : Text) (offset : Nat) :
    locate text offset = endPosition (text.take offset) := rfl

/-- **Looking back and looking up agree** on every offset of a text. -/
theorem locate_eq_positionAt (h : offset ≤ text.length) :
    locate text offset = positionAt text offset := by
  rw [Document.positionAt_eq_endPosition, Document.clampOffset_natCast h, locate_eq_endPosition]

theorem offsetAt_locate (h : offset ≤ text.length) :
    offsetAt text (locate text offset) = offset := by
  rw [locate_eq_positionAt h, Document.offsetAt_positionAt, Document.clampOffset_natCast h]

theorem inRange_locate (h : offset ≤ text.length) : InRange text (locate text offset) := by
  rw [locate_eq_positionAt h]
  exact Document.inRange_positionAt text offset

/-- Located positions stand in the order of their offsets: if they did not, the offsets they lead
back to would not either. -/
theorem locate_precedes {first second : Nat} (hle : first ≤ second) (h : second ≤ text.length) :
    (locate text first).Precedes (locate text second) := by
  by_contra hafter
  have hback : (locate text second).Precedes (locate text first) := by
    unfold Position.Precedes at hafter ⊢
    omega
  have hnonneg : 0 ≤ (locate text second).line := (inRange_locate h).1.1
  have hoffsets : offsetAt text (locate text second) ≤ offsetAt text (locate text first) :=
    Document.offsetAt_mono hnonneg hback
  rw [offsetAt_locate h, offsetAt_locate (Nat.le_trans hle h)] at hoffsets
  obtain rfl : first = second := Nat.le_antisymm hle hoffsets
  exact hafter hback

/-- A column of a line is counted from where the line begins. -/
theorem offsetAt_line {line : Text} {index column : Nat} (hline : (lines text)[index]? = some line)
    (hcolumn : column ≤ line.length) :
    offsetAt text ⟨index, column⟩ = (lineStarts text).getD index 0 + column := by
  obtain ⟨hindex, -⟩ := List.getElem?_eq_some_iff.mp hline
  have hgetD : (lines text).getD index [] = line := by
    rw [List.getD_eq_getElem?_getD, hline, Option.getD_some]
  rw [Document.offsetAt_natCast, if_pos hindex, hgetD, Nat.min_eq_left hcolumn]

/-- What is located on a line of the text is a column of that line. -/
theorem locate_line {line : Text} {index column : Nat} (hline : (lines text)[index]? = some line)
    (hcolumn : column ≤ line.length) :
    locate text ((lineStarts text).getD index 0 + column) = ⟨index, column⟩ := by
  have hrange : InRange text ⟨index, column⟩ := by
    obtain ⟨hindex, -⟩ := List.getElem?_eq_some_iff.mp hline
    rw [Document.inRange_natCast, List.getD_eq_getElem?_getD, hline]
    exact ⟨hindex, hcolumn⟩
  rw [locate_eq_endPosition, ← offsetAt_line hline hcolumn, hrange.endPosition_take]

end

/-! ## Every finding stands in its text -/

/-- The range runs from an offset of the text to one that does not come before it. -/
def Located (text : Text) (range : Range) : Prop :=
  ∃ first last, first ≤ last ∧ last ≤ text.length
    ∧ range = ⟨locate text first, locate text last⟩

/-- The codes of what is reported about the document as a whole. -/
def documentCodes : List String := ["missing-root", "unclosed-tag", "missing-xml-declaration"]

/-- The codes of what is reported where it stands. -/
def locatedCodes : List String :=
  "unknown-element" :: "missing-required-attribute" :: "unmatched-closing-tag" :: valueCodes

/-- A finding concerns the document as a whole and stands at its first line, or it stands in the
text. -/
inductive Placed (text : Text) (finding : Finding) : Prop
  | document (code : finding.problem.code ∈ documentCodes)
      (range : finding.range = documentStart ∨ finding.range = .onLine 0 0 5)
  | located (code : finding.problem.code ∈ locatedCodes) (range : Located text finding.range)

section

variable {text : Text} {finding : Finding}

namespace Placed

theorem bounded (hplaced : Placed text finding) (h : text.length ≤ 2147483647) :
    finding.range.bounded = .ok finding.range := by
  cases hplaced with
  | document _ range =>
      rcases range with hrange | hrange
      · rw [hrange]
        rfl
      · rw [hrange]
        rfl
  | located _ range =>
      obtain ⟨first, last, -, -, hrange⟩ := range
      rw [hrange, Range.bounded, bounded_locate h, bounded_locate h]
      rfl

theorem precedes (hplaced : Placed text finding) :
    finding.range.start.Precedes finding.range.stop := by
  cases hplaced with
  | document _ range =>
      rcases range with hrange | hrange
      · rw [hrange]
        decide
      · rw [hrange]
        decide
  | located _ range =>
      obtain ⟨first, last, hle, hlast, hrange⟩ := range
      rw [hrange]
      exact locate_precedes hle hlast

theorem range_eq (hplaced : Placed text finding) (hcode : finding.problem.code ∈ documentCodes) :
    finding.range = .onLine 0 0 10 ∨ finding.range = .onLine 0 0 5 := by
  cases hplaced with
  | document _ range => exact range
  | located code _ =>
      have hdisjoint : ∀ code ∈ locatedCodes, code ∉ documentCodes := by decide
      exact absurd hcode (hdisjoint _ code)

theorem inRange (hplaced : Placed text finding) (hcode : finding.problem.code ∉ documentCodes) :
    InRange text finding.range.start ∧ InRange text finding.range.stop := by
  cases hplaced with
  | document code _ => exact absurd code hcode
  | located _ range =>
      obtain ⟨first, last, hle, hlast, hrange⟩ := range
      rw [hrange]
      exact ⟨inRange_locate (Nat.le_trans hle hlast), inRange_locate hlast⟩

theorem code_ne (hplaced : Placed text finding) : finding.problem.code ≠ "internal-error" := by
  intro hcode
  cases hplaced with
  | document code _ | located code _ =>
      rw [hcode] at code
      exact absurd code (by decide)

end Placed

/-- Columns of a line are located in the text. -/
theorem located_onLine {line : Text} {index first last : Nat}
    (hline : (lines text)[index]? = some line) (hle : first ≤ last) (hlast : last ≤ line.length) :
    Located text (.onLine index first last) := by
  refine ⟨(lineStarts text).getD index 0 + first, (lineStarts text).getD index 0 + last,
    Nat.add_le_add_left hle _, ?_, ?_⟩
  · rw [← offsetAt_line hline hlast]
    exact Document.offsetAt_le_length text _
  · rw [locate_line hline (Nat.le_trans hle hlast), locate_line hline hlast]
    rfl

/-- What is searched on a line is found there. -/
theorem located_of_mem_occurrences {α : Type} {read : Reader α} (hfit : Reader.Fits read)
    {line : Text} {index : Nat} (hline : (lines text)[index]? = some line) {found : Occurrence α}
    (h : found ∈ occurrences read 0 line) :
    Located text (.onLine index found.start found.stop) := by
  obtain ⟨hlt, hstop⟩ := Text.lt_and_le_of_mem_occurrences hfit h
  exact located_onLine hline (Nat.le_of_lt hlt) hstop

variable {validator : Validator}

theorem placed_of_mem_lineFindings {line : Text} {index : Nat}
    (hline : (lines text)[index]? = some line)
    (h : finding ∈ validator.lineFindings line index) : Placed text finding := by
  simp only [Validator.lineFindings, List.mem_append] at h
  rcases h with (h | h) | h
  · refine .located (by rw [code_of_mem_elementFindings h]; decide) ?_
    obtain ⟨found, hfound, rfl⟩ := List.mem_map.mp h
    exact located_of_mem_occurrences Markup.readOpening_fits hline (List.mem_filter.mp hfound).1
  · refine .located (by rw [code_of_mem_requiredFindings h]; decide) ?_
    obtain ⟨problem, -, rfl⟩ := List.mem_map.mp h
    exact located_onLine hline (Nat.zero_le _) (Nat.le_refl _)
  · have hcodes : valueCodes ⊆ locatedCodes := by decide
    refine .located (hcodes (code_of_mem_valueFindings h)) ?_
    obtain ⟨found, hfound, hfinding⟩ := List.mem_flatMap.mp h
    obtain ⟨problem, -, rfl⟩ := List.mem_map.mp hfinding
    exact located_of_mem_occurrences Markup.readValue_fits hline hfound

theorem mem_tokens_of_mem_unmatched {token : Token}
    (h : token ∈ (nesting text).unmatched) : token ∈ tokens text ∧ token.value.closing = true := by
  obtain ⟨before, after, hrow, hclosing, -⟩ := Markup.mem_unmatched_foldl.mp h
  exact ⟨by simp [hrow], hclosing⟩

theorem placed_of_mem_nestingFindings (h : finding ∈ nestingFindings text) :
    Placed text finding := by
  rcases List.mem_append.mp h with h | h
  · obtain ⟨token, htoken, rfl⟩ := List.mem_map.mp h
    obtain ⟨hlt, hstop⟩ := Text.lt_and_le_of_mem_occurrences Markup.readTag_fits
      (mem_tokens_of_mem_unmatched htoken).1
    exact .located (by simp [complaint, locatedCodes, Problem.code])
      ⟨token.start, token.stop, Nat.le_of_lt hlt, hstop, rfl⟩
  · obtain ⟨frame, -, rfl⟩ := List.mem_map.mp h
    exact .document (by simp [documentCodes, Problem.code]) (.inl rfl)

/-- **Every finding is placed.** The five checks make their ranges in five ways; each of them stays
inside the text. -/
theorem placed_of_mem_allFindings (h : finding ∈ validator.allFindings text) :
    Placed text finding := by
  simp only [Validator.allFindings, List.mem_append] at h
  rcases h with ((h | h) | h) | h
  · obtain ⟨-, rfl⟩ : _ ∧ finding = ⟨documentStart, .missingRoot validator.schema.root⟩ := by
      simpa [Validator.checkRoot] using h
    exact .document (by simp [documentCodes, Problem.code]) (.inl rfl)
  · obtain ⟨entry, hentry, hfinding⟩ := List.mem_flatMap.mp h
    exact placed_of_mem_lineFindings (List.mem_zipIdx_iff_getElem?.mp hentry) hfinding
  · obtain ⟨-, h⟩ : _ ∧ finding ∈ nestingFindings text := by simpa using h
    exact placed_of_mem_nestingFindings h
  · obtain ⟨-, -, rfl⟩ : _ ∧ _ ∧ finding = ⟨.onLine 0 0 5, .missingDeclaration⟩ := by
      simpa [checkDeclaration] using h
    exact .document (by simp [documentCodes, Problem.code]) (.inr rfl)

end

/-! ## Closing tags that close nothing -/

/-- A tag that is found is the stretch of the text between its offsets. -/
theorem exists_tagText_of_mem_tokens {text : Text} {token : Token} (h : token ∈ tokens text) :
    ∃ body, '>' ∉ body ∧ IsName token.value.name
      ∧ (text.take token.stop).drop token.start
        = tagText token.value.closing token.value.name body := by
  obtain ⟨before, tail, n, rfl, hread, hstart, hstop⟩ :=
    Text.exists_split_of_mem_occurrences Markup.readTag_fits h
  obtain ⟨body, rest, rfl, rfl, hname, hbody, -, -⟩ := Markup.exists_of_readTag_eq_some hread
  refine ⟨body, hbody, hname, ?_⟩
  rw [hstop, hstart, Nat.zero_add, ← List.append_assoc, List.take_left' (by simp), List.drop_left]

/-- The complaints among the findings about the nesting are those about the unmatched closing tags,
in the order of the text. -/
theorem filter_nestingFindings {text : Text} (h : text.length ≤ 2147483647) :
    (nestingFindings text).filter (·.problem.code == "unmatched-closing-tag")
      = (nesting text).unmatched.map (complaint text) := by
  have hfilter := map_filter_checkNesting text
  rw [checkNesting_eq_ok h, mapM_eq_ok fun token _ => complain_eq_ok h token] at hfilter
  exact Except.ok.inj hfilter

/-- **The range of an unmatched closing tag selects the tag.** In a text within the protocol's
bounds the position that is located for an offset is the one an open document has for it, and it is
within the bounds too. The findings about unmatched closing tags are as many as these tags and in
the same order; the offsets that a finding's range leads back to are those of its tag, and what
stands between them begins with `</` and the name and ends with its only `>`. -/
theorem unmatchedClosing_selects (text : Text) (h : text.length ≤ 2147483647) :
    (∀ offset : Nat, offset ≤ text.length → locate text offset = positionAt text offset
        ∧ (locate text offset).bounded = .ok (locate text offset))
      ∧ ∃ found, checkNesting text = .ok found
        ∧ List.Forall₂ (fun finding token =>
            finding.problem = .unmatchedClosing token.value.name
              ∧ offsetAt text finding.range.start = token.start
              ∧ offsetAt text finding.range.stop = token.stop
              ∧ ∃ body, (text.take token.stop).drop token.start
                  = '<' :: '/' :: (token.value.name ++ body) ++ ['>']
                ∧ '>' ∉ '<' :: '/' :: (token.value.name ++ body))
          (found.filter (·.problem.code == "unmatched-closing-tag")) (nesting text).unmatched := by
  refine ⟨?_, nestingFindings text, checkNesting_eq_ok h, ?_⟩
  · intro offset hoffset
    exact ⟨locate_eq_positionAt hoffset, bounded_locate h offset⟩
  · rw [filter_nestingFindings h, List.forall₂_map_left_iff, List.forall₂_same]
    intro token htoken
    obtain ⟨hmem, hclosing⟩ := mem_tokens_of_mem_unmatched htoken
    obtain ⟨hlt, hstop⟩ := Text.lt_and_le_of_mem_occurrences Markup.readTag_fits hmem
    refine ⟨rfl, offsetAt_locate (by omega), offsetAt_locate hstop, ?_⟩
    obtain ⟨body, hbody, hname, hslice⟩ := exists_tagText_of_mem_tokens hmem
    refine ⟨body, ?_, ?_⟩
    · rw [hslice, hclosing]
      simp [tagText]
    · have hgt : '>' ∉ token.value.name := hname.not_mem (by decide)
      simp [hgt, hbody]

/-- Two closing tags that close nothing, the first of them over two lines. -/
def strayTags : Text := "x\n</a\n b></c>".toList

theorem unmatchedClosing_selects_strayTags :
    strayTags.length ≤ 2147483647
      ∧ (nesting strayTags).unmatched
        = [⟨2, 9, ⟨['a'], true, false⟩⟩, ⟨9, 13, ⟨['c'], true, false⟩⟩]
      ∧ (strayTags.take 9).drop 2 = "</a\n b>".toList
      ∧ ∃ found first second, checkNesting strayTags = .ok found
        ∧ found.filter (·.problem.code == "unmatched-closing-tag") = [first, second]
        ∧ offsetAt strayTags first.range.start = 2 ∧ offsetAt strayTags first.range.stop = 9
        ∧ offsetAt strayTags second.range.start = 9
        ∧ offsetAt strayTags second.range.stop = 13 := by
  have hlength : strayTags.length ≤ 2147483647 := by decide
  have hunmatched : (nesting strayTags).unmatched
      = [⟨2, 9, ⟨['a'], true, false⟩⟩, ⟨9, 13, ⟨['c'], true, false⟩⟩] := by decide +kernel
  refine ⟨hlength, hunmatched, by decide, ?_⟩
  obtain ⟨-, found, hfound, hselects⟩ := unmatchedClosing_selects strayTags hlength
  rw [hunmatched] at hselects
  generalize hrow : found.filter (·.problem.code == "unmatched-closing-tag") = row at hselects
  obtain _ | ⟨⟨-, hstart, hstop, -⟩, _ | ⟨⟨-, hstart', hstop', -⟩, _ | _⟩⟩ := hselects
  exact ⟨found, _, _, hfound, hrow, hstart, hstop, hstart', hstop'⟩

end TagLens.Diagnosis
