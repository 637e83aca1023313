import TagLens.Proofs.Diagnosis.Imbalance

/-!
# What the checks find

The checks make the ranges of their findings as they go, and any of these can be out of the
protocol's bounds. This module says once what the checks find when none is: plain lists of findings,
made from what is searched on a line (`Validator.lineFindings`). A line is checked exactly when its
end is within reach (`checkLine_eq_ok_iff`), and then nothing else on the line is out of reach
either. From there on everything about findings is a matter of lists.
-/

namespace TagLens.Diagnosis

open Document (Range OutOfBounds)
open Markup (openings readValue)
open Text (Occurrence occurrences lines)

/-! ## Findings as lists -/

namespace Validator

variable (validator : Validator)

/-- The openings of a line that begin no known element. -/
def unknownOpenings (line : Text) : List (Occurrence Text) :=
  (openings line).filter fun found => !validator.schema.isKnown found.value

def elementFindings (line : Text) (index : Nat) : List Finding :=
  (validator.unknownOpenings line).map fun found =>
    ⟨Range.onLine index found.start found.stop, .unknownElement found.value⟩

def requiredFindings (line : Text) (index : Nat) : List Finding :=
  (validator.missingAttributes line).map fun problem =>
    ⟨Range.onLine index 0 line.length, problem⟩

def valueFindings (line : Text) (index : Nat) : List Finding :=
  (occurrences readValue 0 line).flatMap fun found =>
    validator.checkValue found.value.1 found.value.2 (Range.onLine index found.start found.stop)

/-- Everything that is found on a line. -/
def lineFindings (line : Text) (index : Nat) : List Finding :=
  validator.elementFindings line index ++ validator.requiredFindings line index
    ++ validator.valueFindings line index

/-- Everything that is found line by line. -/
def linewiseFindings (text : Text) : List Finding :=
  (lines text).zipIdx.flatMap fun entry => validator.lineFindings entry.1 entry.2

/-- Everything that is found in a text. -/
def allFindings (text : Text) : List Finding :=
  validator.checkRoot text ++ validator.linewiseFindings text
    ++ (if validator.checkStructure then nestingFindings text else [])
    ++ (if validator.requireDeclaration then checkDeclaration text else [])

end Validator

variable {validator : Validator} {line : Text} {index : Nat}

/-! ## One line -/

section

variable (hreach : Reachable index line.length)

include hreach

theorem checkElements_eq_ok :
    validator.checkElements line index = .ok (validator.elementFindings line index) := by
  apply mapM_eq_ok
  intro found hfound
  rw [bounded_of_mem_occurrences Markup.readOpening_fits hreach (List.mem_filter.mp hfound).1]
  rfl

theorem checkRequired_eq_ok :
    validator.checkRequired line index = .ok (validator.requiredFindings line index) :=
  checkRequired_eq_ok_iff.mpr ⟨hreach, rfl⟩

theorem checkValues_eq_ok :
    validator.checkValues line index = .ok (validator.valueFindings line index) := by
  have hvalue : ∀ found ∈ occurrences readValue 0 line, (do
      let range ← (Range.onLine index found.start found.stop).bounded
      pure (validator.checkValue found.value.1 found.value.2 range) :
        Except OutOfBounds (List Finding))
        = .ok (validator.checkValue found.value.1 found.value.2
            (Range.onLine index found.start found.stop)) := by
    intro found hfound
    rw [bounded_of_mem_occurrences Markup.readValue_fits hreach hfound]
    rfl
  rw [Validator.checkValues, mapM_eq_ok hvalue, Validator.valueFindings, List.flatMap_def]
  rfl

end

/-- **A line is checked exactly when its end is within reach.** The range of the whole line is made
whatever is found on it. -/
theorem checkLine_eq_ok_iff {found : List Finding} :
    validator.checkLine line index = .ok found
      ↔ Reachable index line.length ∧ found = validator.lineFindings line index := by
  constructor
  · intro h
    obtain ⟨elements, -, hrest⟩ := exists_of_bind_eq_ok h
    obtain ⟨required, hrequired, -⟩ := exists_of_bind_eq_ok hrest
    obtain ⟨hreach, -⟩ := checkRequired_eq_ok_iff.mp hrequired
    refine ⟨hreach, ?_⟩
    rw [Validator.checkLine, checkElements_eq_ok hreach, checkRequired_eq_ok hreach,
      checkValues_eq_ok hreach] at h
    exact (Except.ok.inj h).symm
  · rintro ⟨hreach, rfl⟩
    rw [Validator.checkLine, checkElements_eq_ok hreach, checkRequired_eq_ok hreach,
      checkValues_eq_ok hreach]
    rfl

/-! ## The codes of a line's findings -/

/-- The codes under which values are reported. -/
def valueCodes : List String := ["invalid-enum-value", "invalid-identifier", "invalid-boolean"]

theorem code_of_mem_elementFindings {finding : Finding}
    (h : finding ∈ validator.elementFindings line index) :
    finding.problem.code = "unknown-element" := by
  obtain ⟨found, -, rfl⟩ := List.mem_map.mp h
  rfl

theorem code_of_mem_requiredFindings {finding : Finding}
    (h : finding ∈ validator.requiredFindings line index) :
    finding.problem.code = "missing-required-attribute" := by
  obtain ⟨problem, hproblem, rfl⟩ := List.mem_map.mp h
  obtain ⟨element, -, hattr⟩ := List.mem_flatMap.mp hproblem
  obtain ⟨attr, -, rfl⟩ := List.mem_map.mp hattr
  rfl

theorem code_of_mem_valueProblems {attr value : Text} {problem : Problem}
    (h : problem ∈ validator.valueProblems attr value) : problem.code ∈ valueCodes := by
  simp only [Validator.valueProblems, List.mem_append] at h
  rcases h with (h | h) | h
  · cases hdomain : validator.schema.domainOf? attr with
    | none =>
        rw [hdomain] at h
        exact absurd h (by simp)
    | some domain =>
        simp only [hdomain, List.mem_ite_nil_left, List.mem_singleton] at h
        obtain ⟨-, rfl⟩ := h
        simp [Problem.code, valueCodes]
  · obtain ⟨-, rfl⟩ : _ ∧ problem = .notIdentifier attr := by simpa using h
    simp [Problem.code, valueCodes]
  · obtain ⟨-, rfl⟩ : _ ∧ problem = .notBoolean attr value := by simpa using h
    simp [Problem.code, valueCodes]

theorem code_of_mem_valueFindings {finding : Finding}
    (h : finding ∈ validator.valueFindings line index) : finding.problem.code ∈ valueCodes := by
  obtain ⟨found, -, hfinding⟩ := List.mem_flatMap.mp h
  obtain ⟨problem, hproblem, rfl⟩ := List.mem_map.mp hfinding
  exact code_of_mem_valueProblems hproblem

/-- The three checks of a line report under different codes, so each can be picked out. -/
theorem filter_lineFindings (p : String → Bool) :
    (validator.lineFindings line index).filter (p ·.problem.code)
      = (if p "unknown-element" then validator.elementFindings line index else [])
        ++ (if p "missing-required-attribute" then validator.requiredFindings line index else [])
        ++ (validator.valueFindings line index).filter (p ·.problem.code) := by
  have hconst : ∀ {findings : List Finding} {code : String},
      (∀ finding ∈ findings, finding.problem.code = code) →
        findings.filter (p ·.problem.code) = if p code then findings else [] := by
    intro findings code hcode
    rw [List.filter_congr fun finding hfinding => congrArg p (hcode finding hfinding)]
    cases p code <;> simp
  rw [Validator.lineFindings, List.filter_append, List.filter_append,
    hconst fun _ => code_of_mem_elementFindings, hconst fun _ => code_of_mem_requiredFindings]

/-! ## All lines and the whole text -/

theorem checkLines_eq_ok_iff {text : Text} {found : List Finding} :
    validator.checkLines text = .ok found
      ↔ Addressable text ∧ found = validator.linewiseFindings text := by
  have hall : Addressable text → ((lines text).zipIdx.mapM fun entry =>
      validator.checkLine entry.1 entry.2)
        = .ok ((lines text).zipIdx.map fun entry =>
            validator.lineFindings entry.1 entry.2) := by
    intro hreach
    apply mapM_eq_ok
    intro entry hentry
    exact checkLine_eq_ok_iff.mpr ⟨hreach entry hentry, rfl⟩
  constructor
  · intro h
    obtain ⟨results, hresults, h⟩ := exists_of_bind_eq_ok h
    have hreach : Addressable text := by
      intro entry hentry
      obtain ⟨result, hresult⟩ := exists_of_mapM_eq_ok hresults entry hentry
      exact (checkLine_eq_ok_iff.mp hresult).1
    obtain rfl := Except.ok.inj ((hall hreach).symm.trans hresults)
    refine ⟨hreach, ?_⟩
    rw [Validator.linewiseFindings, List.flatMap_def]
    exact (Except.ok.inj h).symm
  · rintro ⟨hreach, rfl⟩
    show ((lines text).zipIdx.mapM fun entry => validator.checkLine entry.1 entry.2) >>= _ = _
    rw [hall hreach, Validator.linewiseFindings, List.flatMap_def]
    rfl

/-- **A text within the bounds is checked**, and everything that there is to find is found. -/
theorem validate_eq_ok {text : Text} (h : text.length ≤ 2147483647) :
    validator.validate text = .ok (validator.allFindings text) := by
  have hlines : validator.checkLines text = .ok (validator.linewiseFindings text) :=
    checkLines_eq_ok_iff.mpr ⟨addressable_of_length_le h, rfl⟩
  rw [Validator.validate, hlines, checkNesting_eq_ok h, Validator.allFindings]
  cases validator.checkStructure <;> rfl

end TagLens.Diagnosis
