import TagLens.Proofs.Markup.NearestMatch
import TagLens.Proofs.Markup.Resume

/-!
# Cutting a text and putting it together

What stands behind an offset has no say in the tags that end before it. A text that is cut off
there has just these tags, which are the first ones of the whole text, so the scan of the whole text
goes on from the state at the cut (`tokens_take_eq_takeWhile`, `exists_nesting_eq_foldl_take`). And
behind a text that ends outside of tags another text has the tags it has alone, moved by the length of
the first (`tokens_append_shift`).
-/

namespace TagLens.Markup

open Cursor (unterminatedTag?)
open Text (Occurrence occurrences)

/-! ## The tags before a cut -/

/-- Where no entry that passes stands behind one that fails, those that pass are the first ones. -/
theorem filter_eq_takeWhile {α : Type} {p : α → Bool} {row : List α}
    (h : row.Pairwise fun first second => p second = true → p first = true) :
    row.filter p = row.takeWhile p := by
  induction row with
  | nil => rfl
  | cons first row ih =>
      obtain ⟨hfirst, hrow⟩ := List.pairwise_cons.mp h
      by_cases hp : p first = true
      · rw [List.filter_cons_of_pos hp, List.takeWhile_cons_of_pos hp, ih hrow]
      · rw [List.filter_cons_of_neg hp, List.takeWhile_cons_of_neg hp, List.filter_eq_nil_iff]
        intro second hsecond hpass
        exact hp (hfirst second hsecond hpass)

theorem tokens_take_eq_takeWhile (text : Text) (k : Nat) :
    tokens (text.take k) = (tokens text).takeWhile (fun token => token.stop ≤ k) := by
  rw [tokens_take]
  apply filter_eq_takeWhile
  apply (Text.occurrences_pairwise readTag_fits 0 text).imp_of_mem
  intro first second hfirst hsecond hle hstop
  have hbounds := (Text.mem_occurrences_bounds readTag_fits hsecond).2.1
  simp only [decide_eq_true_eq] at hstop ⊢
  omega

/-- The scan of the whole text goes on from the state at the cut. -/
theorem exists_nesting_eq_foldl_take (text : Text) (k : Nat) :
    ∃ row, tokens text = tokens (text.take k) ++ row
      ∧ nesting text = row.foldl Nesting.step (nesting (text.take k)) := by
  refine ⟨(tokens text).dropWhile (fun token => token.stop ≤ k), ?_, ?_⟩
  · rw [tokens_take_eq_takeWhile, List.takeWhile_append_dropWhile]
  · rw [nesting, nesting, ← List.foldl_append, tokens_take_eq_takeWhile,
      List.takeWhile_append_dropWhile]

/-- A closing tag that was set aside stays aside, whatever follows. -/
theorem unmatched_prefix_foldl (row : List Token) (state : Nesting) :
    state.unmatched <+: (row.foldl Nesting.step state).unmatched := by
  induction row generalizing state with
  | nil => exact List.prefix_refl _
  | cons token row ih =>
      have hstep : state.unmatched <+: (state.step token).unmatched := by
        rw [state.unmatched_step]
        exact List.prefix_append _ _
      exact hstep.trans (ih (state.step token))

/-- **Cutting a text** at any offset keeps the tags that end at or before it, as they are. They are
the first tags of the text, and the closing tags that match nothing among them are the first such
tags of the text. -/
theorem cut_keeps_tags (text : Text) (k : Nat) :
    tokens (text.take k) = (tokens text).filter (fun token => token.stop ≤ k)
      ∧ tokens (text.take k) <+: tokens text
      ∧ (nesting (text.take k)).unmatched <+: (nesting text).unmatched := by
  obtain ⟨row, htokens, hnesting⟩ := exists_nesting_eq_foldl_take text k
  refine ⟨tokens_take text k, ⟨row, htokens.symm⟩, ?_⟩
  rw [hnesting]
  exact unmatched_prefix_foldl row _

/-! ## The tags behind a seam -/

theorem tokens_append_shift {before : Text} (h : Settled before) (rest : Text) :
    tokens (before ++ rest)
      = tokens before ++ (tokens rest).map (Occurrence.shift before.length) := by
  rw [tokens_append h, tokens, tokens, ← Text.occurrences_add, Nat.add_zero]

/-- **Putting texts together** at a seam outside of tags: the tags of the first text, then those of
the second moved by the length of the first, and the open elements of the first text, then what the
moved tags make of them. -/
theorem seam_keeps_tags (before rest : Text) (h : unterminatedTag? before = none) :
    tokens (before ++ rest)
        = tokens before ++ (tokens rest).map (Occurrence.shift before.length)
      ∧ nesting (before ++ rest)
        = ((tokens rest).map (Occurrence.shift before.length)).foldl Nesting.step
            (nesting before) := by
  have htokens := tokens_append_shift (Settled.of_unterminatedTag? h) rest
  refine ⟨htokens, ?_⟩
  rw [nesting, htokens, List.foldl_append]
  rfl

/-- A `<` inside a tag, a tag without a name, a stray closing tag, and a second `>`. -/
def looseText : Text := "<p <q></r><1>>".toList

/-- Behind it come a `>` that finishes nothing, a closing tag for nothing, one for what is open, and
a tag that is not finished. -/
theorem seam_keeps_tags_looseText :
    unterminatedTag? looseText = none
      ∧ tokens (looseText ++ "q></q></p><s".toList)
        = tokens looseText ++ [⟨16, 20, ⟨['q'], true, false⟩⟩, ⟨20, 24, ⟨['p'], true, false⟩⟩]
      ∧ (nesting looseText).stack = [⟨['p'], 0⟩]
      ∧ (nesting (looseText ++ "q></q></p><s".toList)).stack = []
      ∧ (nesting (looseText ++ "q></q></p><s".toList)).unmatched
        = [⟨6, 10, ⟨['r'], true, false⟩⟩, ⟨16, 20, ⟨['q'], true, false⟩⟩] := by
  have hsettled : unterminatedTag? looseText = none := by decide
  obtain ⟨htokens, hnesting⟩ := seam_keeps_tags looseText "q></q></p><s".toList hsettled
  refine ⟨hsettled, ?_, by decide +kernel, ?_, ?_⟩
  · rw [htokens]
    decide +kernel
  · rw [hnesting]
    decide +kernel
  · rw [hnesting]
    decide +kernel

end TagLens.Markup
