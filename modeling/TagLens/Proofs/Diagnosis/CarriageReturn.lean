import TagLens.Proofs.Diagnosis.Imbalance
import TagLens.Proofs.Markup.CarriageReturn

/-!
# Findings with and without carriage returns

Texts that differ in carriage returns in front of line feeds have the same findings, as far as they
are put in words: the problems are the same, and they begin at the same positions
(`gists_validate`). Only the range of a whole line ends one character later where the line ends
with a carriage return.
-/

namespace TagLens.Diagnosis

open Document (Position Range OutOfBounds)
open Markup (IsName Token nesting placed mentions)
open Text (Joined lines)

/-- Where a finding begins, and what the problem is. -/
def Finding.gist (finding : Finding) : Position × Problem := (finding.range.start, finding.problem)

def gists (result : Except OutOfBounds (List Finding)) :
    Except OutOfBounds (List (Position × Problem)) := result.map (List.map Finding.gist)

/-- What the checks look for by name are names. -/
structure ProperNames (schema : Schema) : Prop where
  root : IsName schema.root
  required : ∀ element ∈ schema.elementsWithRequired,
    IsName element ∧ ∀ attr ∈ schema.requiredOf element, IsName attr

variable {validator : Validator}

/-! ## One line -/

section

variable (hnames : ProperNames validator.schema) (line : Text)

include hnames

theorem missingAttributes_append_return :
    validator.missingAttributes (line ++ ['\r']) = validator.missingAttributes line := by
  have hmentions : (validator.schema.elementsWithRequired.filter fun element =>
      mentions element (line ++ ['\r']))
        = validator.schema.elementsWithRequired.filter fun element => mentions element line := by
    apply List.filter_congr
    intro element helement
    rw [Bool.eq_iff_iff]
    exact Markup.mentions_append_return line (hnames.required element helement).1
  rw [Validator.missingAttributes, Validator.missingAttributes, hmentions]
  apply List.flatMap_congr
  intro element helement
  have hattrs := (hnames.required element (List.mem_filter.mp helement).1).2
  congr 1
  apply List.filter_congr
  intro attr hattr
  -- the carriage return is no part of what is looked for
  have hreturn : '\r' ∉ attr ++ ['='] := by
    simpa using (hattrs attr hattr).not_mem (c := '\r') (by decide)
  have hcontains : Text.contains (attr ++ ['=']) (line ++ ['\r']) = true
      ↔ Text.contains (attr ++ ['=']) line = true := by
    rw [Text.contains_iff_infix, Text.contains_iff_infix, Text.infix_append_cons_iff hreturn]
    simp
  rw [Bool.eq_iff_iff.mpr hcontains]

/-- The checks of a line pass over the carriage return at its end. -/
theorem gists_checkLine {index : Nat} (hreach : Reachable index (line ++ ['\r']).length) :
    gists (validator.checkLine (line ++ ['\r']) index)
      = gists (validator.checkLine line index) := by
  have helements : validator.checkElements (line ++ ['\r']) index
      = validator.checkElements line index := by
    rw [Validator.checkElements, Validator.checkElements, Markup.openings_append_return]
  have hvalues : validator.checkValues (line ++ ['\r']) index
      = validator.checkValues line index := by
    rw [Validator.checkValues, Validator.checkValues, Markup.values_append_return]
  have hshorter : Reachable index line.length := by
    refine ⟨hreach.1, Int.le_trans ?_ hreach.2⟩
    simp only [List.length_append]
    omega
  have hlonger : validator.checkRequired (line ++ ['\r']) index
      = .ok ((validator.missingAttributes line).map fun problem =>
          ⟨Range.onLine index 0 (line ++ ['\r']).length, problem⟩) := by
    rw [checkRequired_eq_ok_iff, missingAttributes_append_return hnames]
    exact ⟨hreach, rfl⟩
  have hrequired : validator.checkRequired line index
      = .ok ((validator.missingAttributes line).map fun problem =>
          ⟨Range.onLine index 0 line.length, problem⟩) :=
    checkRequired_eq_ok_iff.mpr ⟨hshorter, rfl⟩
  rw [Validator.checkLine, Validator.checkLine, helements, hvalues, hlonger, hrequired]
  cases validator.checkElements line index with
  | error fault => rfl
  | ok elements =>
      cases validator.checkValues line index with
      | error fault => rfl
      | ok values =>
          -- the two ranges of the whole line begin at the same position
          simp only [gists, Except.map, bind, Except.bind, pure, Except.pure, List.map_append,
            List.map_map]
          rfl

end

/-! ## All lines -/

section

variable (hnames : ProperNames validator.schema)

include hnames

theorem gists_checkLine_of_joined {line other : Text} {index : Nat}
    (hline : line = other ∨ line = other ++ ['\r']) (hreach : Reachable index line.length) :
    gists (validator.checkLine line index) = gists (validator.checkLine other index) := by
  rcases hline with rfl | rfl
  · rfl
  · exact gists_checkLine hnames other hreach

/-- Lines are checked one after another. -/
theorem map_mapM_checkLine {rows others : List Text}
    (hrows : List.Forall₂ (fun line other => line = other ∨ line = other ++ ['\r']) rows others)
    {start : Nat} (hreach : ∀ entry ∈ rows.zipIdx start, Reachable entry.2 entry.1.length) :
    ((rows.zipIdx start).mapM fun entry => validator.checkLine entry.1 entry.2).map
        (List.map (List.map Finding.gist))
      = ((others.zipIdx start).mapM fun entry => validator.checkLine entry.1 entry.2).map
        (List.map (List.map Finding.gist)) := by
  induction hrows generalizing start with
  | nil => rfl
  | @cons line other rows others hline _ ih =>
      rw [List.zipIdx_cons, List.forall_mem_cons] at hreach
      rw [List.zipIdx_cons, List.zipIdx_cons, List.mapM_cons, List.mapM_cons]
      dsimp only
      rcases cases_of_map_eq (gists_checkLine_of_joined hnames hline hreach.1) with
        ⟨fault, hfirst, hsecond⟩ | ⟨found, mate, hfirst, hsecond, hsame⟩
      · rw [hfirst, hsecond]
        rfl
      · rw [hfirst, hsecond]
        rcases cases_of_map_eq (ih hreach.2) with
          ⟨fault, hrest, hothers⟩ | ⟨more, mates, hrest, hothers, hsames⟩
        · rw [hrest, hothers]
          rfl
        · rw [hrest, hothers]
          show Except.ok ((found :: more).map _) = Except.ok ((mate :: mates).map _)
          rw [List.map_cons, List.map_cons, hsame, hsames]

theorem gists_checkLines {first second : Text} (h : Joined first second)
    (hreach : Addressable first) :
    gists (validator.checkLines first) = gists (validator.checkLines second) := by
  have hlines : ∀ text, validator.checkLines text
      = ((lines text).zipIdx.mapM fun entry => validator.checkLine entry.1 entry.2)
          >>= fun found => pure found.flatten := fun _ => rfl
  rw [hlines, hlines]
  rcases cases_of_map_eq (map_mapM_checkLine hnames h.lines hreach) with
    ⟨fault, hfirst, hsecond⟩ | ⟨found, other, hfirst, hsecond, hsame⟩
  · rw [hfirst, hsecond]
  · rw [hfirst, hsecond]
    show Except.ok (found.flatten.map _) = Except.ok (other.flatten.map _)
    rw [List.map_flatten, List.map_flatten, hsame]

end

/-! ## The text as a whole -/

section

variable {first second : Text} (h : Joined first second)

include h

theorem checkRoot_joined (hroot : IsName validator.schema.root) :
    validator.checkRoot first = validator.checkRoot second := by
  rw [Validator.checkRoot, Validator.checkRoot,
    Bool.eq_iff_iff.mpr (Markup.mentions_joined hroot h)]

theorem checkDeclaration_joined : checkDeclaration first = checkDeclaration second := by
  have hprefix : "<?xml".toList.isPrefixOf (Text.trim first)
      = "<?xml".toList.isPrefixOf (Text.trim second) := by
    rw [Bool.eq_iff_iff, List.isPrefixOf_iff_prefix, List.isPrefixOf_iff_prefix]
    exact h.isPrefix_trim_iff (c := 'l') rfl (by decide) (by decide) (by decide)
  rw [checkDeclaration, checkDeclaration, hprefix]

/-- The complaint about a closing tag as it is placed. -/
def complainAt (found : Position × Position × Markup.Tag) : Except OutOfBounds Finding := do
  let range ← (Range.mk found.1 found.2.1).bounded
  pure (Finding.mk range (.unmatchedClosing found.2.2.name))

theorem checkNesting_joined : checkNesting first = checkNesting second := by
  obtain ⟨hframes, hunmatched⟩ := Prod.mk.inj (Markup.view_nesting h)
  have hcomplaints : ∀ text (row : List Token),
      row.mapM (complain text) = (row.map (placed text)).mapM complainAt := by
    intro text row
    rw [List.mapM_map]
    rfl
  have hstack : ∀ text, ((nesting text).stack.map fun frame =>
      (⟨documentStart, .unclosed frame.name⟩ : Finding))
        = ((nesting text).frames.map (·.name)).reverse.map fun name =>
            ⟨documentStart, .unclosed name⟩ := by
    intro text
    rw [Markup.Nesting.stack, ← List.map_reverse, List.map_map]
    rfl
  rw [checkNesting_eq, checkNesting_eq, hcomplaints, hcomplaints, hunmatched, hstack, hstack,
    hframes]

/-- **Carriage returns in front of line feeds do not matter**: joined texts have the same problems
at the same positions. -/
theorem gists_validate (hnames : ProperNames validator.schema) (hreach : Addressable first) :
    gists (validator.validate first) = gists (validator.validate second) := by
  rw [Validator.validate, Validator.validate, checkRoot_joined h hnames.root,
    checkDeclaration_joined h, checkNesting_joined h]
  rcases cases_of_map_eq (gists_checkLines hnames h hreach) with
    ⟨fault, hfirst, hsecond⟩ | ⟨found, other, hfirst, hsecond, hsame⟩
  · rw [hfirst, hsecond]
  · rw [hfirst, hsecond]
    cases validator.checkStructure with
    | false =>
        simp only [gists, Except.map, bind, Except.bind, pure, Except.pure, Bool.false_eq_true,
          if_false, List.map_append, hsame]
    | true =>
        cases checkNesting second with
        | error fault => rfl
        | ok structural =>
            simp only [gists, Except.map, bind, Except.bind, pure, Except.pure, if_true,
              List.map_append, hsame]

end

end TagLens.Diagnosis
