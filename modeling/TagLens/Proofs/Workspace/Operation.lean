import TagLens.Proofs.Document.StoredTable
import TagLens.Workspace

/-!
# Sequences of operations

A workspace is used through a fixed set of operations. Most of them are addressed to one document;
putting settings in force and moving the root concern the workspace as a whole. `perform` carries
out one operation and `run` a sequence of them.

What an operation does to documents is said once: it acts on the document it is addressed to, as a
function of that document alone (`document?_perform_target`), and leaves every other document as it
is (`document?_perform_elsewhere`). In a workspace that a sequence of operations leads to, no URI is
open twice, and every document stands under its own URI and keeps the table of its text
(`Reachable.orderly`).
-/

namespace TagLens.Workspace

open Assist (Item Hover)
open Diagnosis (Diagnostic Finding)
open Document (Buffer Change OutOfBounds Position)
open Report (Event)

/-! ## Documents and their URIs -/

theorem lookup_filter_ne (uri other : String) (documents : List (String × Buffer)) :
    (documents.filter (·.1 != uri)).lookup other
      = if other = uri then none else documents.lookup other := by
  induction documents with
  | nil => simp
  | cons entry rest ih =>
      obtain ⟨key, buffer⟩ := entry
      by_cases hkey : key = uri
      · subst hkey
        rw [List.filter_cons_of_neg (by simp), ih]
        by_cases h : other = key
        · simp [h]
        · simp [List.lookup_cons, beq_false_of_ne h, h]
      · rw [List.filter_cons_of_pos (by simpa using hkey)]
        by_cases h : other = key
        · subst h
          simp [hkey]
        · simp [List.lookup_cons, beq_false_of_ne h, ih]

theorem map_fst_putBuffer (uri : String) (buffer : Buffer) (documents : List (String × Buffer)) :
    (putBuffer uri buffer documents).map (·.1)
      = if uri ∈ documents.map (·.1) then documents.map (·.1)
        else documents.map (·.1) ++ [uri] := by
  induction documents with
  | nil => simp [putBuffer]
  | cons entry rest ih =>
      rw [putBuffer]
      split
      · next hkey =>
          obtain rfl : entry.1 = uri := by simpa using hkey
          simp
      · next hkey =>
          have hne : uri ≠ entry.1 := by
            rintro rfl
            exact hkey (by simp)
          rw [List.map_cons, ih]
          by_cases hmem : uri ∈ rest.map (·.1)
          · simp only [hmem, if_true, List.map_cons, List.mem_cons, or_true]
          · simp only [hmem, hne, if_false, List.map_cons, List.mem_cons, or_false,
              List.cons_append]

theorem mem_openUris {workspace : Workspace} {uri : String} :
    uri ∈ workspace.openUris ↔ (workspace.document? uri).isSome = true := by
  rw [openUris, document?, List.lookup_isSome_iff, List.mem_map]
  constructor
  · rintro ⟨entry, hentry, rfl⟩
    exact ⟨entry, hentry, by simp⟩
  · rintro ⟨entry, hentry, hkey⟩
    exact ⟨entry, hentry, (beq_iff_eq.mp hkey).symm⟩

theorem openUris_openDocument (workspace : Workspace) (uri : String) (text : Text)
    (version : Int) :
    (workspace.openDocument uri text version).1.openUris
      = if uri ∈ workspace.openUris then workspace.openUris else workspace.openUris ++ [uri] :=
  map_fst_putBuffer uri _ workspace.documents

/-- Editing opens and closes nothing: there is an effect only on a document that is open. -/
theorem openUris_edit (workspace : Workspace) (uri : String) (changes : List Change)
    (version : Int) : (workspace.edit uri changes version).1.openUris = workspace.openUris := by
  rw [edit]
  split
  · rfl
  · next buffer hopen =>
      have hmem : uri ∈ workspace.openUris := mem_openUris.mpr (by rw [hopen]; rfl)
      exact (map_fst_putBuffer uri (buffer.edit changes version).2 workspace.documents).trans
        (if_pos hmem)

theorem openUris_close (workspace : Workspace) (uri : String) :
    (workspace.close uri).1.openUris = workspace.openUris.filter (· != uri) := by
  rw [openUris, openUris, close, List.filter_map]
  rfl

/-- A document that was opened in an empty workspace leaves no trace once it is closed. -/
theorem close_openDocument {workspace : Workspace} (hempty : workspace.documents = [])
    (uri : String) (text : Text) (version : Int) :
    ((workspace.openDocument uri text version).1.close uri).1 = workspace := by
  have hgone : (putBuffer uri (.new uri text version) workspace.documents).filter (·.1 != uri)
      = workspace.documents := by
    rw [hempty]
    simp [putBuffer]
  exact congrArg (fun documents => { workspace with documents }) hgone

/-! ## Operations -/

/-- What a workspace can be asked to do. -/
inductive Operation where
  | openDocument (uri : String) (text : Text) (version : Int)
  | edit (uri : String) (changes : List Change) (version : Int)
  | close (uri : String)
  | complete (uri : String) (position : Position)
  | hover (uri : String) (position : Position)
  | validate (uri : String)
  | didOpen (uri : String) (text : Text) (version : Int)
  | didChange (uri : String) (version : Int) (changes : List Change)
  | didClose (uri : String)
  | diagnostics (uri : String)
  | configure (settings : Settings)
  | setRoot (rootUri : Option String)

/-- What an operation answers. -/
inductive Reply where
  | findings (findings : List Finding)
  | diagnostics (diagnostics : List Diagnostic)
  | items (items : List Item)
  | hover (hover : Except OutOfBounds (Option Hover))
  | nothing

namespace Operation

/-- The document that an operation is addressed to. -/
def target? : Operation → Option String
  | openDocument uri _ _ | edit uri _ _ | close uri | complete uri _ | hover uri _ | validate uri
  | didOpen uri _ _ | didChange uri _ _ | didClose uri | diagnostics uri => some uri
  | configure _ | setRoot _ => none

/-- What becomes of the document that an operation is addressed to. -/
def act : Operation → Option Buffer → Option Buffer
  | openDocument uri text version, _ | didOpen uri text version, _ => some (.new uri text version)
  | edit _ changes version, document | didChange _ version changes, document =>
    document.map fun buffer => (buffer.edit changes version).2
  | close _, _ | didClose _, _ => none
  | _, document => document

end Operation

/-- Carry out an operation. -/
def perform (workspace : Workspace) : Operation → Workspace × Reply × List Event
  | .openDocument uri text version =>
    let (opened, findings, events) := workspace.openDocument uri text version
    (opened, .findings findings, events)
  | .edit uri changes version =>
    let (edited, findings, events) := workspace.edit uri changes version
    (edited, .findings findings, events)
  | .close uri | .didClose uri =>
    let (closed, events) := workspace.close uri
    (closed, .nothing, events)
  | .complete uri position => (workspace, .items (workspace.complete uri position), [])
  | .hover uri position => (workspace, .hover (workspace.hover uri position), [])
  | .validate uri =>
    let (findings, events) := workspace.validate uri
    (workspace, .findings findings, events)
  | .didOpen uri text version =>
    let (opened, diagnostics, events) := workspace.didOpen uri text version
    (opened, .diagnostics diagnostics, events)
  | .didChange uri version changes =>
    let (edited, diagnostics, events) := workspace.didChange uri version changes
    (edited, .diagnostics diagnostics, events)
  | .diagnostics uri =>
    let (diagnostics, events) := workspace.diagnostics uri
    (workspace, .diagnostics diagnostics, events)
  | .configure settings => (workspace.configure settings, .nothing, [])
  | .setRoot rootUri => (workspace.setRoot rootUri, .nothing, [])

/-- Carry out operations one after the other. -/
def run (workspace : Workspace) (operations : List Operation) : Workspace :=
  operations.foldl (fun current operation => (current.perform operation).1) workspace

/-! ## What one operation changes -/

theorem document?_openDocument (workspace : Workspace) (uri other : String) (text : Text)
    (version : Int) :
    (workspace.openDocument uri text version).1.document? other
      = if other = uri then some (.new uri text version) else workspace.document? other :=
  lookup_putBuffer uri other _ workspace.documents

theorem document?_close (workspace : Workspace) (uri other : String) :
    (workspace.close uri).1.document? other
      = if other = uri then none else workspace.document? other :=
  lookup_filter_ne uri other workspace.documents

theorem document?_edit_eq (workspace : Workspace) (uri other : String) (changes : List Change)
    (version : Int) :
    (workspace.edit uri changes version).1.document? other
      = if other = uri then (workspace.document? other).map fun buffer =>
          (buffer.edit changes version).2
        else workspace.document? other := by
  rw [edit]
  split
  · -- the edit is dropped, and there is no document to act on
    next hclosed =>
      by_cases h : other = uri
      · subst h
        simp [hclosed]
      · rw [if_neg h]
  · next buffer hopen =>
      have hput := lookup_putBuffer uri other (buffer.edit changes version).2 workspace.documents
      by_cases h : other = uri
      · subst h
        rw [if_pos rfl] at hput ⊢
        rw [hopen]
        exact hput
      · rw [if_neg h] at hput ⊢
        exact hput

/-- An operation acts on the document it is addressed to, as `Operation.act` says. -/
theorem document?_perform_target (workspace : Workspace) {operation : Operation} {uri : String}
    (h : operation.target? = some uri) :
    (workspace.perform operation).1.document? uri = operation.act (workspace.document? uri) := by
  cases operation with
  | openDocument other text version | didOpen other text version =>
      obtain rfl : other = uri := Option.some.inj h
      exact (document?_openDocument workspace other other text version).trans (if_pos rfl)
  | edit other changes version | didChange other version changes =>
      obtain rfl : other = uri := Option.some.inj h
      exact (document?_edit_eq workspace other other changes version).trans (if_pos rfl)
  | close other | didClose other =>
      obtain rfl : other = uri := Option.some.inj h
      exact (document?_close workspace other other).trans (if_pos rfl)
  | complete | hover | validate | diagnostics | configure | setRoot => rfl

/-- **An operation leaves every document alone that it is not addressed to.** -/
theorem document?_perform_elsewhere (workspace : Workspace) {operation : Operation} {uri : String}
    (h : operation.target? ≠ some uri) :
    (workspace.perform operation).1.document? uri = workspace.document? uri := by
  have hne : ∀ {other}, operation.target? = some other → uri ≠ other := by
    rintro other htarget rfl
    exact h htarget
  cases operation with
  | openDocument other text version | didOpen other text version =>
      exact (document?_openDocument workspace other uri text version).trans (if_neg (hne rfl))
  | edit other changes version | didChange other version changes =>
      exact (document?_edit_eq workspace other uri changes version).trans (if_neg (hne rfl))
  | close other | didClose other =>
      exact (document?_close workspace other uri).trans (if_neg (hne rfl))
  | complete | hover | validate | diagnostics | configure | setRoot => rfl

/-- Two workspaces answer from the same schema, under the same settings and with the same
validator. -/
structure SameService (one other : Workspace) : Prop where
  schema : one.schema = other.schema
  settings : one.settings = other.settings
  inspection : one.inspection = other.inspection

theorem SameService.symm {one other : Workspace} (h : SameService one other) :
    SameService other one :=
  ⟨h.schema.symm, h.settings.symm, h.inspection.symm⟩

theorem SameService.trans {one other third : Workspace} (h : SameService one other)
    (h' : SameService other third) : SameService one third :=
  ⟨h.schema.trans h'.schema, h.settings.trans h'.settings, h.inspection.trans h'.inspection⟩

theorem sameService_edit (workspace : Workspace) (uri : String) (changes : List Change)
    (version : Int) : SameService (workspace.edit uri changes version).1 workspace := by
  rw [edit]
  split <;> exact ⟨rfl, rfl, rfl⟩

/-- The service changes only by an operation that is addressed to no document. -/
theorem sameService_perform (workspace : Workspace) {operation : Operation} {uri : String}
    (h : operation.target? = some uri) :
    SameService (workspace.perform operation).1 workspace := by
  cases operation with
  | edit other changes version | didChange other version changes =>
      exact sameService_edit workspace other changes version
  | configure | setRoot => exact absurd h (by simp [Operation.target?])
  | _ => exact ⟨rfl, rfl, rfl⟩

/-! ## What one operation answers -/

theorem validate_of_closed {workspace : Workspace} {uri : String}
    (h : workspace.document? uri = none) : workspace.validate uri = ([], []) := by
  rw [validate, h]

theorem diagnostics_of_closed {workspace : Workspace} {uri : String}
    (h : workspace.document? uri = none) : workspace.diagnostics uri = ([], []) := by
  rw [diagnostics, validate_of_closed h]
  rfl

theorem openDocument_snd (workspace : Workspace) (uri : String) (text : Text) (version : Int) :
    (workspace.openDocument uri text version).2
      = (((workspace.openDocument uri text version).1.validate uri).1,
          .opened uri version :: ((workspace.openDocument uri text version).1.validate uri).2) :=
  rfl

theorem edit_of_closed {workspace : Workspace} {uri : String}
    (h : workspace.document? uri = none) (changes : List Change) (version : Int) :
    workspace.edit uri changes version = (workspace, [], [.droppedEdit uri]) := by
  rw [edit, h]

theorem edit_of_open {workspace : Workspace} {uri : String} {buffer : Buffer}
    (h : workspace.document? uri = some buffer) (changes : List Change) (version : Int) :
    (workspace.edit uri changes version).2
      = (((workspace.edit uri changes version).1.validate uri).1,
          (if (buffer.edit changes version).1 then []
            else [Event.staleEdit buffer.uri version buffer.version])
              ++ ((workspace.edit uri changes version).1.validate uri).2) := by
  rw [edit, h]

/-- The findings of an edit are those of the workspace afterwards, whether the document is open or
not and whether the edit came in time or not. -/
theorem findings_edit (workspace : Workspace) (uri : String) (changes : List Change)
    (version : Int) :
    (workspace.edit uri changes version).2.1
      = ((workspace.edit uri changes version).1.validate uri).1 := by
  cases h : workspace.document? uri with
  | none => rw [edit_of_closed h, validate_of_closed h]
  | some buffer => rw [edit_of_open h]

theorem diagnostics_didChange (workspace : Workspace) (uri : String) (version : Int)
    (changes : List Change) :
    (workspace.didChange uri version changes).2.1
      = ((workspace.didChange uri version changes).1.diagnostics uri).1 :=
  congrArg (workspace.edit uri changes version).1.publish
    (findings_edit workspace uri changes version)

/-! ## Reachable workspaces -/

/-- A sequence of operations leads from an empty workspace to this one. -/
def Reachable (workspace : Workspace) : Prop :=
  ∃ schema directory settings rootUri operations,
    workspace = (Workspace.new schema directory settings rootUri).run operations

/-- No URI is open twice, and every document stands under its own URI and keeps the table of its
text. -/
structure Orderly (workspace : Workspace) : Prop where
  nodup : workspace.openUris.Nodup
  document : ∀ {uri buffer}, workspace.document? uri = some buffer →
    buffer.uri = uri ∧ buffer.InStep

theorem nodup_openUris_perform {workspace : Workspace} (h : workspace.openUris.Nodup)
    (operation : Operation) : (workspace.perform operation).1.openUris.Nodup := by
  cases operation with
  | openDocument uri text version | didOpen uri text version =>
      show (workspace.openDocument uri text version).1.openUris.Nodup
      rw [openUris_openDocument]
      split
      · exact h
      · next hclosed =>
          refine List.nodup_append.mpr ⟨h, by simp, ?_⟩
          intro other hother last hlast
          obtain rfl : last = uri := List.mem_singleton.mp hlast
          rintro rfl
          exact hclosed hother
  | edit uri changes version | didChange uri version changes =>
      show (workspace.edit uri changes version).1.openUris.Nodup
      rwa [openUris_edit]
  | close uri | didClose uri =>
      show (workspace.close uri).1.openUris.Nodup
      rw [openUris_close]
      exact h.filter _
  | complete | hover | validate | diagnostics | configure | setRoot => exact h

/-- An opened document is under its URI and in step, and an edited one stays so. -/
theorem Orderly.perform {workspace : Workspace} (h : workspace.Orderly) (operation : Operation) :
    (workspace.perform operation).1.Orderly := by
  refine ⟨nodup_openUris_perform h.nodup operation, ?_⟩
  intro uri buffer hopen
  by_cases htarget : operation.target? = some uri
  · rw [document?_perform_target workspace htarget] at hopen
    cases operation with
    | openDocument other text version | didOpen other text version =>
        obtain rfl : other = uri := Option.some.inj htarget
        obtain rfl : Buffer.new other text version = buffer := Option.some.inj hopen
        exact ⟨rfl, Buffer.inStep_new other text version⟩
    | edit other changes version | didChange other version changes =>
        obtain ⟨before, hbefore, rfl⟩ := Option.map_eq_some_iff.mp hopen
        obtain ⟨huri, hstep⟩ := h.document hbefore
        exact ⟨(before.uri_edit changes version).trans huri, hstep.edit changes version⟩
    | close | didClose => exact absurd hopen (by simp [Operation.act])
    | complete | hover | validate | diagnostics | configure | setRoot => exact h.document hopen
  · rw [document?_perform_elsewhere workspace htarget] at hopen
    exact h.document hopen

theorem Orderly.run {workspace : Workspace} (h : workspace.Orderly) (operations : List Operation) :
    (workspace.run operations).Orderly := by
  induction operations generalizing workspace with
  | nil => exact h
  | cons operation rest ih => exact ih (h.perform operation)

/-- **Reachable workspaces are orderly.** -/
theorem Reachable.orderly {workspace : Workspace} (h : workspace.Reachable) :
    workspace.Orderly := by
  obtain ⟨schema, directory, settings, rootUri, operations, rfl⟩ := h
  apply Orderly.run
  refine ⟨List.nodup_nil, ?_⟩
  intro uri buffer hopen
  exact absurd hopen (by simp [document?, Workspace.new])

end TagLens.Workspace
