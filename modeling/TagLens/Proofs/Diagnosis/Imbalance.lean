import TagLens.Proofs.Document.Place
import TagLens.Proofs.Diagnosis.Silence
import TagLens.Proofs.Outcome

/-!
# Findings about the nesting

The check of the nesting complains about the closing tags that closed nothing and about the
elements that stay open. A complaint about a closing tag looks at the text before the end of the
tag only, so it is the same in every longer text (`complain_append`), and in a text within the
protocol's bounds it never fails (`complain_eq_ok`), and neither does the check as a whole
(`checkNesting_eq_ok`).
-/

namespace TagLens.Diagnosis

open Document (Range OutOfBounds)
open Markup (Token Nesting nesting)

/-! ## Complaints about closing tags -/

/-- The complaint about a closing tag that closes nothing. -/
def complain (text : Text) (token : Token) : Except OutOfBounds Finding := do
  let range ← (Range.mk (locate text token.start) (locate text token.stop)).bounded
  pure (Finding.mk range (.unmatchedClosing token.value.name))

theorem locate_append {text : Text} {offset : Nat} (h : offset ≤ text.length) (more : Text) :
    locate (text ++ more) offset = locate text offset := by
  rw [locate, locate, List.take_append_of_le_length h]

theorem complain_append {text : Text} {token : Token} (hle : token.start ≤ token.stop)
    (hstop : token.stop ≤ text.length) (more : Text) :
    complain (text ++ more) token = complain text token := by
  rw [complain, complain, locate_append hstop, locate_append (Nat.le_trans hle hstop)]

theorem problem_of_complain {text : Text} {token : Token} {finding : Finding}
    (h : complain text token = .ok finding) :
    finding.problem = .unmatchedClosing token.value.name := by
  obtain ⟨range, -, h⟩ := exists_of_bind_eq_ok h
  rw [← Except.ok.inj h]

/-- A text within the bounds holds no place beyond them. -/
theorem bounded_locate {text : Text} (h : text.length ≤ 2147483647) (offset : Nat) :
    (locate text offset).bounded = .ok (locate text offset) := by
  apply Document.bounded_endPosition
  exact Nat.le_trans (List.length_take_le' offset text) h

/-- What is said about a closing tag in a text within the bounds. -/
def complaint (text : Text) (token : Token) : Finding :=
  ⟨⟨locate text token.start, locate text token.stop⟩, .unmatchedClosing token.value.name⟩

theorem complain_eq_ok {text : Text} (h : text.length ≤ 2147483647) (token : Token) :
    complain text token = .ok (complaint text token) := by
  rw [complain, Range.bounded, bounded_locate h, bounded_locate h]
  rfl

/-! ## The check as a whole -/

/-- First the complaints, then the elements that stay open. -/
theorem checkNesting_eq (text : Text) :
    checkNesting text
      = ((nesting text).unmatched.mapM (complain text)).map
          (· ++ (nesting text).stack.map fun frame => ⟨documentStart, .unclosed frame.name⟩) := by
  show (((nesting text).unmatched.mapM (complain text)) >>= _) = _
  cases (nesting text).unmatched.mapM (complain text) with
  | error fault => rfl
  | ok found => rfl

theorem checkNesting_of_nil {text : Text} (h : (nesting text).frames = []) :
    checkNesting text = (nesting text).unmatched.mapM (complain text) := by
  rw [checkNesting_eq, Nesting.stack, h]
  cases (nesting text).unmatched.mapM (complain text) with
  | error fault => rfl
  | ok found => simp [Except.map]

/-- The findings about the nesting of a text within the bounds. -/
def nestingFindings (text : Text) : List Finding :=
  (nesting text).unmatched.map (complaint text)
    ++ (nesting text).stack.map fun frame => ⟨documentStart, .unclosed frame.name⟩

theorem checkNesting_eq_ok {text : Text} (h : text.length ≤ 2147483647) :
    checkNesting text = .ok (nestingFindings text) := by
  rw [checkNesting_eq, mapM_eq_ok fun token _ => complain_eq_ok h token]
  rfl

theorem exists_checkNesting_eq_ok {text : Text} (h : text.length ≤ 2147483647) :
    ∃ found, checkNesting text = .ok found :=
  ⟨_, checkNesting_eq_ok h⟩

/-- The complaints alone, picked out by their code. -/
theorem map_filter_checkNesting (text : Text) :
    (checkNesting text).map (List.filter (·.problem.code == "unmatched-closing-tag"))
      = (nesting text).unmatched.mapM (complain text) := by
  rw [checkNesting_eq]
  cases hmap : (nesting text).unmatched.mapM (complain text) with
  | error fault => rfl
  | ok found =>
      have hcomplaint : ∀ finding ∈ found,
          (finding.problem.code == "unmatched-closing-tag") = true := by
        refine forall_of_mapM_eq_ok ?_ hmap
        intro token finding hfinding
        rw [problem_of_complain hfinding]
        rfl
      have hunclosed : ((nesting text).stack.map fun frame =>
          (⟨documentStart, .unclosed frame.name⟩ : Finding)).filter
            (·.problem.code == "unmatched-closing-tag") = [] := by
        rw [List.filter_eq_nil_iff]
        intro finding hfinding
        obtain ⟨frame, -, rfl⟩ := List.mem_map.mp hfinding
        simp [Problem.code]
      simp only [Except.map, List.filter_append, List.filter_eq_self.mpr hcomplaint, hunclosed,
        List.append_nil]

end TagLens.Diagnosis
