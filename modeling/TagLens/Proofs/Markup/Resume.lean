import TagLens.Markup.Nesting
import TagLens.Proofs.Cursor.UnterminatedTag
import TagLens.Proofs.Markup.Scan

/-!
# Scanning a text in two parts

A text in which every `<` has a `>` behind it can be scanned on its own: whatever follows, no tag
reaches over its end, and no tag begins in it that did not begin before. The scan of a longer text
is then the scan of this part, resumed behind it (`tokens_append`, `nesting_append`). Any text can be
scanned on its own when no `>` follows it (`tokens_append_of_not_mem`). The search for openings is
resumed in the same way (`openings_append`).

The cursor's view of the first kind of text is that it has no unterminated tag
(`Settled.of_unterminatedTag?`).
-/

namespace TagLens.Markup

open Cursor (unterminatedTag? isInsideTag unterminatedTag?_append)
open Text (occurrences)

/-! ## Texts that end outside of tags -/

/-- Every `<` of the text has a `>` behind it. -/
def Settled (text : Text) : Prop := ∀ tail, '<' :: tail <:+ text → '>' ∈ tail

theorem Settled.of_unterminatedTag? {text : Text} (h : unterminatedTag? text = none) :
    Settled text := by
  rintro tail ⟨before, rfl⟩
  by_contra hgt
  -- behind the last `<` there is neither a `<` nor a `>`
  have hmem : '<' ∈ ('<' :: tail).reverse := by simp
  obtain ⟨inner, front, hsplit, hinner⟩ := List.eq_append_cons_of_mem hmem
  have htail : '<' :: tail = front.reverse ++ '<' :: inner.reverse := by
    rw [← List.reverse_reverse ('<' :: tail), hsplit]
    simp
  have hinside : ∀ c ∈ inner.reverse, isInsideTag c = true := by
    intro c hc
    have hcmem : c ∈ '<' :: tail := by
      rw [htail]
      simp [List.mem_reverse.mp hc]
    have hlt : c ≠ '<' := by
      rintro rfl
      exact hinner (List.mem_reverse.mp hc)
    have hne : c ≠ '>' := by
      rintro rfl
      exact hgt (List.mem_of_ne_of_mem hlt hcmem)
    simp [isInsideTag, hlt, hne]
  rw [htail, ← List.append_assoc, unterminatedTag?_append _ hinside] at h
  exact absurd h (by simp)

/-! ## No tag reaches over the end -/

theorem eq_of_append_gt {first second rest other : Text} (hfirst : '>' ∉ first)
    (hsecond : '>' ∉ second) (h : first ++ '>' :: rest = second ++ '>' :: other) :
    first = second := by
  rw [← Text.takeWhile_ne_append hfirst rest, h, Text.takeWhile_ne_append hsecond other]

theorem exists_tagText_eq (closing : Bool) {name body : Text} (hname : IsName name)
    (hbody : '>' ∉ body) : ∃ front, tagText closing name body = front ++ ['>'] ∧ '>' ∉ front := by
  have hconcat : tagText closing name body
      = ('<' :: ((if closing then ['/'] else []) ++ name ++ body)) ++ ['>'] := by
    simp [tagText]
  refine ⟨_, hconcat, ?_⟩
  have hlt : ('<' :: ((if closing then ['/'] else []) ++ name ++ body)).length
      < (tagText closing name body).length := by
    rw [hconcat, List.length_append]
    exact Nat.lt_succ_self _
  have hnot := not_mem_take_tagText hname hbody hlt
  rwa [hconcat, List.take_left] at hnot

/-- Where a `>` stands in the text, nothing behind the text makes a tag of its beginning. -/
theorem readTag_append_eq_none {text : Text} (hgt : '>' ∈ text) (h : readTag text = none)
    (other : Text) : readTag (text ++ other) = none := by
  cases hread : readTag (text ++ other) with
  | none => rfl
  | some found =>
      obtain ⟨tag, n⟩ := found
      obtain ⟨body, after, htext, -, hname, hbody, hend, -⟩ := exists_of_readTag_eq_some hread
      obtain ⟨front, hfront, hnot⟩ := exists_tagText_eq tag.closing hname hbody
      obtain ⟨piece, back, rfl, hpiece⟩ := List.eq_append_cons_of_mem hgt
      -- the first `>` is that of the tag, so the tag ends where the text does or before
      have hsame : front = piece := by
        apply eq_of_append_gt hnot hpiece
        rw [hfront] at htext
        simpa using htext.symm
      have hwhole : piece ++ '>' :: back = tagText tag.closing tag.name body ++ back := by
        rw [hfront, hsame]
        simp
      rw [hwhole, readTag_tagText tag.closing hname hbody hend] at h
      exact absurd h (by simp)

theorem readTag_cons_of_ne {c : Char} (hc : c ≠ '<') (rest : Text) :
    readTag (c :: rest) = none := by
  unfold readTag
  split
  · next heq => exact absurd (List.cons.inj heq).1 hc
  · rfl

/-- **The scan resumed**: the tags of a text, then those behind it, if nothing that begins in the
text becomes a tag by what stands behind: a tag that is there does not depend on it. -/
theorem occurrences_readTag_append {before rest : Text}
    (h : ∀ tail, tail <:+ before → tail ≠ [] → readTag tail = none → readTag (tail ++ rest) = none)
    (offset : Nat) :
    occurrences readTag offset (before ++ rest)
      = occurrences readTag offset before ++ occurrences readTag (offset + before.length) rest := by
  apply Text.occurrences_append readTag_fits
  intro tail hsuffix hne
  cases hread : readTag tail with
  | none => exact h tail hsuffix hne hread
  | some found =>
      obtain ⟨tag, n⟩ := found
      obtain ⟨piece, after, rfl, rfl, hpiece, -⟩ := exists_piece_of_readTag hread
      rw [List.append_assoc, hpiece]

/-! ## Two places to resume at -/

theorem tokens_append {before : Text} (h : Settled before) (rest : Text) :
    tokens (before ++ rest) = tokens before ++ occurrences readTag before.length rest := by
  have hkeep : ∀ tail, tail <:+ before → tail ≠ [] → readTag tail = none →
      readTag (tail ++ rest) = none := by
    intro tail hsuffix hne hread
    obtain ⟨c, tail, rfl⟩ := List.exists_cons_of_ne_nil hne
    by_cases hc : c = '<'
    · subst hc
      have hgt : '>' ∈ '<' :: tail := List.mem_cons_of_mem _ (h tail hsuffix)
      exact readTag_append_eq_none hgt hread rest
    · exact readTag_cons_of_ne hc _
  have happend := occurrences_readTag_append hkeep 0
  rwa [Nat.zero_add] at happend

/-- Where no `>` follows no more tags are found, even if the text ends inside a tag. -/
theorem tokens_append_of_not_mem {rest : Text} (before : Text) (h : '>' ∉ rest) :
    tokens (before ++ rest) = tokens before := by
  have hkeep : ∀ tail, tail <:+ before → tail ≠ [] → readTag tail = none →
      readTag (tail ++ rest) = none := by
    intro tail _ _ hread
    by_cases hgt : '>' ∈ tail
    · exact readTag_append_eq_none hgt hread rest
    · apply readTag_eq_none_of_not_mem
      rw [List.mem_append]
      exact not_or.mpr ⟨hgt, h⟩
  have happend := occurrences_readTag_append hkeep 0
  rwa [occurrences_readTag_eq_nil h, List.append_nil] at happend

theorem nesting_append {before : Text} (h : Settled before) (rest : Text) :
    nesting (before ++ rest)
      = (occurrences readTag before.length rest).foldl Nesting.step (nesting before) := by
  rw [nesting, tokens_append h, List.foldl_append]
  rfl

/-- Openings are found in a settled text as they are found when it stands alone. -/
theorem openings_append {before : Text} (h : Settled before) (rest : Text) :
    openings (before ++ rest)
      = openings before ++ occurrences readOpening before.length rest := by
  have hsame : ∀ tail, tail <:+ before → tail ≠ [] →
      readOpening (tail ++ rest) = readOpening tail := by
    intro tail hsuffix hne
    obtain ⟨c, tail, rfl⟩ := List.exists_cons_of_ne_nil hne
    by_cases hc : c = '<'
    · subst hc
      obtain ⟨front, back, rfl, -⟩ := List.eq_append_cons_of_mem (h tail hsuffix)
      -- the `>` ends the name, if there is one, before the rest begins
      have hcut : ∀ more, readOpening ('<' :: (front ++ '>' :: more))
          = readOpening ('<' :: front) :=
        readOpening_append_of_neg (by decide) (List.cons_ne_nil _ _)
      rw [List.cons_append, List.append_assoc, List.cons_append, hcut, hcut]
    · rw [List.cons_append, readOpening_cons_of_ne hc, readOpening_cons_of_ne hc]
  have happend := Text.occurrences_append readOpening_fits hsame 0
  rwa [Nat.zero_add] at happend

end TagLens.Markup
