import TagLens.Proofs.Diagnosis.Location
import TagLens.Proofs.Workspace.Operation

/-!
# Validation does not fail

The findings of a document are those of the validator in force, unless validation breaks down and
its breakdown is all that there is to report. In a workspace that operations have led to, the
validator that the settings ask for is always in service (`Reachable.inService`), and it breaks down
only over ranges that the protocol cannot express. A text within the protocol's bounds gives rise to
none: every range lies inside the text or at the first line (`validate_placed`).
-/

namespace TagLens.Workspace

open Diagnosis (Validator documentCodes listSchema)
open Document (Buffer InRange)

/-! ## The validator in service -/

/-- The validator that the settings in force ask for is in service. -/
def InService (workspace : Workspace) : Prop :=
  workspace.inspection = .service (validatorFor workspace.schema workspace.settings)

theorem InService.perform {workspace : Workspace} (h : workspace.InService)
    (operation : Operation) : (workspace.perform operation).1.InService := by
  cases htarget : operation.target? with
  | some uri =>
      have hsame := sameService_perform workspace htarget
      rw [InService, hsame.inspection, hsame.schema, hsame.settings]
      exact h
  | none =>
      cases operation with
      | configure settings => rfl
      | setRoot rootUri => exact h
      | _ => exact absurd htarget (by simp [Operation.target?])

theorem InService.run {workspace : Workspace} (h : workspace.InService)
    (operations : List Operation) : (workspace.run operations).InService := by
  induction operations generalizing workspace with
  | nil => exact h
  | cons operation rest ih => exact ih (h.perform operation)

/-- **Nothing takes validation out of service.** -/
theorem Reachable.inService {workspace : Workspace} (h : workspace.Reachable) :
    workspace.InService := by
  obtain ⟨schema, directory, settings, rootUri, operations, rfl⟩ := h
  have hnew : (Workspace.new schema directory settings rootUri).InService := rfl
  exact hnew.run operations

/-! ## The findings of a document -/

/-- A document within the bounds is validated, and there is nothing to tell about the validation. -/
theorem validate_of_inService {workspace : Workspace} (h : workspace.InService) {uri : String}
    {buffer : Buffer} (hopen : workspace.document? uri = some buffer)
    (hlength : buffer.text.length ≤ 2147483647) :
    workspace.validate uri
      = ((validatorFor workspace.schema workspace.settings).allFindings buffer.text, []) := by
  rw [validate, hopen]
  simp only
  rw [inspect, h]
  simp only
  rw [Diagnosis.validate_eq_ok hlength]
  rfl

/-- **Validation does not fail** on a text within the protocol's bounds, whatever the schema and the
choice of checks. Every finding has a range that the protocol can express and that does not end
before it begins; it is one of two fixed ranges on the first line if the finding concerns the
document as a whole, and both of its ends are places of the text if not. So a workspace gives the
findings of the validator that its settings ask for, and never reports a breakdown instead. -/
theorem validate_placed (text : Text) (h : text.length ≤ 2147483647) :
    (∀ validator : Validator, ∃ found, validator.validate text = .ok found
        ∧ ∀ finding ∈ found,
          finding.range.bounded = .ok finding.range
            ∧ finding.range.start.Precedes finding.range.stop
            ∧ (finding.problem.code ∈ documentCodes →
                finding.range = .onLine 0 0 10 ∨ finding.range = .onLine 0 0 5)
            ∧ (finding.problem.code ∉ documentCodes →
                InRange text finding.range.start ∧ InRange text finding.range.stop))
      ∧ ∀ (workspace : Workspace) (uri : String) (buffer : Buffer), workspace.Reachable →
        workspace.document? uri = some buffer → buffer.text = text →
          (validatorFor workspace.schema workspace.settings).validate text
              = .ok (workspace.validate uri).1
            ∧ (workspace.validate uri).2 = []
            ∧ ∀ finding ∈ (workspace.validate uri).1,
                finding.problem.code ≠ "internal-error" := by
  constructor
  · intro validator
    refine ⟨_, Diagnosis.validate_eq_ok h, ?_⟩
    intro finding hfinding
    have hplaced := Diagnosis.placed_of_mem_allFindings hfinding
    exact ⟨hplaced.bounded h, hplaced.precedes, hplaced.range_eq, hplaced.inRange⟩
  · rintro workspace uri buffer hreachable hopen rfl
    rw [validate_of_inService hreachable.inService hopen h]
    refine ⟨Diagnosis.validate_eq_ok h, rfl, ?_⟩
    intro finding hfinding
    exact (Diagnosis.placed_of_mem_allFindings hfinding).code_ne

/-- A text in which almost everything is wrong that can be. -/
def crooked : Text := "<item state='x' done='no'>\n<b></a\n>".toList

/-- The text is opened, and afterwards a declaration is asked for. -/
def crookedOpen : Workspace :=
  (Workspace.new listSchema ⟨.root, []⟩ {} none).run
    [.openDocument "crooked" crooked 1, .configure { requireDeclaration := true }]

theorem validate_placed_crooked :
    crooked.length ≤ 2147483647
      ∧ (crookedOpen.validate "crooked").1.map (·.problem.code)
        = ["missing-root", "missing-required-attribute", "invalid-enum-value", "invalid-boolean",
            "unknown-element", "unmatched-closing-tag", "unclosed-tag", "unclosed-tag",
            "missing-xml-declaration"]
      ∧ (crookedOpen.validate "crooked").2 = []
      ∧ (∀ finding ∈ (crookedOpen.validate "crooked").1, finding.problem.code ≠ "internal-error")
      ∧ ∃ found, (Validator.mk listSchema true true).validate crooked = .ok found
        ∧ ∀ finding ∈ found, finding.range.start.Precedes finding.range.stop
          ∧ (finding.problem.code ∉ documentCodes →
              InRange crooked finding.range.start ∧ InRange crooked finding.range.stop) := by
  have hlength : crooked.length ≤ 2147483647 := by decide
  have hcodes : (crookedOpen.validate "crooked").1.map (·.problem.code)
      = ["missing-root", "missing-required-attribute", "invalid-enum-value", "invalid-boolean",
          "unknown-element", "unmatched-closing-tag", "unclosed-tag", "unclosed-tag",
          "missing-xml-declaration"] := by decide +kernel
  obtain ⟨hvalidator, hworkspace⟩ := validate_placed crooked hlength
  obtain ⟨-, hevents, hsound⟩ := hworkspace crookedOpen "crooked" (.new "crooked" crooked 1)
    ⟨_, _, _, _, _, rfl⟩ rfl rfl
  obtain ⟨found, hfound, hplaced⟩ := hvalidator ⟨listSchema, true, true⟩
  refine ⟨hlength, hcodes, hevents, hsound, found, hfound, ?_⟩
  intro finding hfinding
  obtain ⟨-, hordered, -, hinside⟩ := hplaced finding hfinding
  exact ⟨hordered, hinside⟩

end TagLens.Workspace
