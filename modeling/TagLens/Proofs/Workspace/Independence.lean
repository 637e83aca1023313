import TagLens.Proofs.Workspace.Operation

/-!
# Documents do not interfere

What is answered about a document, and what becomes of it, depends only on the operations that are
addressed to it and on those that concern the workspace as a whole. All others may be deleted from
a sequence of operations, and nothing changes for the document (`run_concerning`).

The proof compares two runs. `SameFor uri` relates workspaces that nobody who asks about one
document can tell apart. An operation on another document leads to a workspace that is related to
the one before (`sameFor_perform_elsewhere`); any other operation is answered alike in related
workspaces and leads to related ones (`SameFor.perform`, `SameFor.answer`).
-/

namespace TagLens.Workspace

open Diagnosis (Finding)
open Document (Buffer Change Position)
open Report (Event)

/-! ## Who is concerned -/

/-- The operation is addressed to the document, or to no document at all. -/
def Operation.concerns (uri : String) (operation : Operation) : Bool :=
  match operation.target? with
  | some other => other == uri
  | none => true

theorem Operation.concerns_of_target? {uri : String} {operation : Operation}
    (h : operation.target? = some uri) : operation.concerns uri = true := by
  rw [concerns, h]
  exact beq_self_eq_true uri

theorem Operation.target?_of_concerns {uri : String} {operation : Operation}
    (h : operation.concerns uri = true) :
    operation.target? = some uri ∨ operation.target? = none := by
  rw [concerns] at h
  split at h
  · next other htarget =>
      obtain rfl : other = uri := beq_iff_eq.mp h
      exact .inl htarget
  · next htarget => exact .inr htarget

theorem Operation.target?_of_not_concerns {uri : String} {operation : Operation}
    (h : ¬ operation.concerns uri = true) :
    ∃ other, operation.target? = some other ∧ other ≠ uri := by
  rw [concerns] at h
  split at h
  · next other htarget =>
      refine ⟨other, htarget, ?_⟩
      rintro rfl
      exact h (beq_self_eq_true other)
  · exact absurd rfl h

/-- The operations of a run, each with its answer and with the events it told about. -/
def transcript (workspace : Workspace) : List Operation → List (Operation × Reply × List Event)
  | [] => []
  | operation :: rest =>
    (operation, (workspace.perform operation).2)
      :: (workspace.perform operation).1.transcript rest

/-! ## Workspaces that look the same -/

/-- Two workspaces look the same to everyone who asks about one document. -/
structure SameFor (uri : String) (one other : Workspace) : Prop extends SameService one other where
  document : one.document? uri = other.document? uri

namespace SameFor

variable {uri : String} {one other : Workspace}

theorem refl (uri : String) (workspace : Workspace) : SameFor uri workspace workspace :=
  ⟨⟨rfl, rfl, rfl⟩, rfl⟩

theorem trans {third : Workspace} (h : SameFor uri one other) (h' : SameFor uri other third) :
    SameFor uri one third :=
  ⟨h.toSameService.trans h'.toSameService, h.document.trans h'.document⟩

theorem validate (h : SameFor uri one other) : one.validate uri = other.validate uri := by
  simp only [Workspace.validate, inspect, h.document, h.inspection]

/-- The same answer is published alike. -/
theorem publish (h : SameFor uri one other) {answer answer' : List Finding × List Event}
    (hanswer : answer = answer') :
    (one.publish answer.1, answer.2) = (other.publish answer'.1, answer'.2) := by
  rw [hanswer, Workspace.publish, Workspace.publish, h.settings]

theorem diagnostics (h : SameFor uri one other) : one.diagnostics uri = other.diagnostics uri :=
  h.publish h.validate

/-- An operation that concerns the document leads from workspaces that look the same to others
that do. -/
theorem perform (h : SameFor uri one other) {operation : Operation}
    (hconcerns : operation.concerns uri = true) :
    SameFor uri (one.perform operation).1 (other.perform operation).1 := by
  rcases Operation.target?_of_concerns hconcerns with htarget | htarget
  · have hservice : SameService (one.perform operation).1 (other.perform operation).1 :=
      ((sameService_perform one htarget).trans h.toSameService).trans
        (sameService_perform other htarget).symm
    refine ⟨hservice, ?_⟩
    rw [document?_perform_target one htarget, document?_perform_target other htarget, h.document]
  · cases operation with
    | configure settings =>
        refine ⟨⟨h.schema, rfl, ?_⟩, h.document⟩
        show Inspection.service (validatorFor one.schema settings)
          = .service (validatorFor other.schema settings)
        rw [h.schema]
    | setRoot rootUri => exact ⟨⟨h.schema, h.settings, h.inspection⟩, h.document⟩
    | _ => exact absurd htarget (by simp [Operation.target?])

theorem openDocument (h : SameFor uri one other) (text : Text) (version : Int) :
    SameFor uri (one.openDocument uri text version).1 (other.openDocument uri text version).1 := by
  show SameFor uri (one.perform (.openDocument uri text version)).1
    (other.perform (.openDocument uri text version)).1
  exact h.perform (Operation.concerns_of_target? rfl)

theorem edit (h : SameFor uri one other) (changes : List Change) (version : Int) :
    SameFor uri (one.edit uri changes version).1 (other.edit uri changes version).1 := by
  show SameFor uri (one.perform (.edit uri changes version)).1
    (other.perform (.edit uri changes version)).1
  exact h.perform (Operation.concerns_of_target? rfl)

/-! The answers to opening and editing are the findings of the workspaces that these lead to, so
they are compared there. -/

theorem openDocument_snd (h : SameFor uri one other) (text : Text) (version : Int) :
    (one.openDocument uri text version).2 = (other.openDocument uri text version).2 := by
  rw [Workspace.openDocument_snd, Workspace.openDocument_snd, (h.openDocument text version).validate]

theorem edit_snd (h : SameFor uri one other) (changes : List Change) (version : Int) :
    (one.edit uri changes version).2 = (other.edit uri changes version).2 := by
  cases hdocument : other.document? uri with
  | none => rw [edit_of_closed hdocument, edit_of_closed (h.document.trans hdocument)]
  | some buffer =>
      rw [edit_of_open hdocument, edit_of_open (h.document.trans hdocument),
        (h.edit changes version).validate]

theorem close_snd (h : SameFor uri one other) : (one.close uri).2 = (other.close uri).2 := by
  rw [close, close, h.document]

theorem complete (h : SameFor uri one other) (position : Position) :
    one.complete uri position = other.complete uri position := by
  rw [Workspace.complete, Workspace.complete, h.document, h.schema]

theorem hover (h : SameFor uri one other) (position : Position) :
    one.hover uri position = other.hover uri position := by
  rw [Workspace.hover, Workspace.hover, h.document, h.schema]

/-- An operation that concerns the document is answered alike in workspaces that look the same. -/
theorem answer (h : SameFor uri one other) {operation : Operation}
    (hconcerns : operation.concerns uri = true) :
    (one.perform operation).2 = (other.perform operation).2 := by
  have huri : ∀ {target}, operation.target? = some target → target = uri := by
    intro target htarget
    rcases Operation.target?_of_concerns hconcerns with hsome | hnone
    · exact Option.some.inj (htarget.symm.trans hsome)
    · exact absurd (htarget.symm.trans hnone) (by simp)
  cases operation with
  | openDocument target text version =>
      obtain rfl := huri rfl
      exact congrArg (fun answer => (Reply.findings answer.1, answer.2))
        (h.openDocument_snd text version)
  | edit target changes version =>
      obtain rfl := huri rfl
      exact congrArg (fun answer => (Reply.findings answer.1, answer.2))
        (h.edit_snd changes version)
  | didOpen target text version =>
      obtain rfl := huri rfl
      exact congrArg (fun answer => (Reply.diagnostics answer.1, answer.2))
        ((h.openDocument text version).publish (h.openDocument_snd text version))
  | didChange target version changes =>
      obtain rfl := huri rfl
      exact congrArg (fun answer => (Reply.diagnostics answer.1, answer.2))
        ((h.edit changes version).publish (h.edit_snd changes version))
  | close target | didClose target =>
      obtain rfl := huri rfl
      exact congrArg (Reply.nothing, ·) h.close_snd
  | complete target position =>
      obtain rfl := huri rfl
      exact congrArg (Reply.items ·, []) (h.complete position)
  | hover target position =>
      obtain rfl := huri rfl
      exact congrArg (Reply.hover ·, []) (h.hover position)
  | validate target =>
      obtain rfl := huri rfl
      exact congrArg (fun answer => (Reply.findings answer.1, answer.2)) h.validate
  | diagnostics target =>
      obtain rfl := huri rfl
      exact congrArg (fun answer => (Reply.diagnostics answer.1, answer.2)) h.diagnostics
  | configure | setRoot => rfl

end SameFor

/-- An operation on another document leaves everything as it looks from this one. -/
theorem sameFor_perform_elsewhere (workspace : Workspace) {operation : Operation}
    {uri other : String} (htarget : operation.target? = some other) (hne : other ≠ uri) :
    SameFor uri (workspace.perform operation).1 workspace := by
  have helsewhere : operation.target? ≠ some uri := by
    rw [htarget]
    simpa using hne
  exact ⟨sameService_perform workspace htarget, document?_perform_elsewhere workspace helsewhere⟩

/-! ## Two runs -/

/-- The run with all operations and the run with those that concern the document, from workspaces
that look the same. -/
theorem SameFor.run {uri : String} {one other : Workspace} (h : SameFor uri one other)
    (operations : List Operation) :
    (one.transcript operations).filter (·.1.concerns uri)
        = other.transcript (operations.filter (·.concerns uri))
      ∧ SameFor uri (one.run operations) (other.run (operations.filter (·.concerns uri))) := by
  induction operations generalizing one other with
  | nil => exact ⟨rfl, h⟩
  | cons operation rest ih =>
      by_cases hconcerns : operation.concerns uri = true
      · -- both runs take the step
        obtain ⟨htranscript, hrun⟩ := ih (h.perform hconcerns)
        simp only [List.filter_cons, transcript, hconcerns, if_true]
        rw [htranscript, h.answer hconcerns]
        exact ⟨rfl, hrun⟩
      · -- the first run takes the step alone, and looks the same as before
        obtain ⟨target, htarget, hne⟩ := Operation.target?_of_not_concerns hconcerns
        have hstill := (sameFor_perform_elsewhere one htarget hne).trans h
        obtain ⟨htranscript, hrun⟩ := ih hstill
        simp only [List.filter_cons, transcript, hconcerns]
        exact ⟨htranscript, hrun⟩

/-- **Documents do not interfere.** Delete from any sequence of operations all that are addressed to
other documents: what is left is answered as before, and the document is in the end the same. -/
theorem run_concerning (workspace : Workspace) (uri : String) (operations : List Operation) :
    (workspace.transcript operations).filter (·.1.concerns uri)
        = workspace.transcript (operations.filter (·.concerns uri))
      ∧ (workspace.run operations).document? uri
        = (workspace.run (operations.filter (·.concerns uri))).document? uri := by
  obtain ⟨htranscript, hrun⟩ := (SameFor.refl uri workspace).run operations
  exact ⟨htranscript, hrun.document⟩

end TagLens.Workspace
