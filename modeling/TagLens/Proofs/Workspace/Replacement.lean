import TagLens.Proofs.Document.StoredTable
import TagLens.Proofs.Diagnosis.Silence
import TagLens.Proofs.Workspace.Independence

/-!
# Replacing a document as a whole

A batch of edits may replace the whole text somewhere on its way. Everything in front of the last
such replacement is forgotten, the table of lines included (`applyAll_replacement`), so the batch
comes to the same as closing the document, opening it with the new text and applying what is left of
the batch. The main statement is `edit_with_replacement`.

`Leads` says what a treatment of one document comes to: what the document is in the end, that the
findings are those of the workspace in the end, and that nothing else has changed. Two treatments
that lead to the same document cannot be told apart but by the order of the open documents
(`Leads.sameTreatment`).
-/

namespace TagLens.Document

/-- The edits in front of a replacement of the whole text do not matter, whatever table they have
left behind. -/
theorem Buffer.applyAll_replacement (buffer : Buffer) (before after : List Change) (text : Text)
    (version : Int) :
    { buffer.applyAll (before ++ ⟨text, none⟩ :: after) with version }
      = Buffer.new buffer.uri (applyChanges after text) version := by
  have hsplit : buffer.applyAll (before ++ ⟨text, none⟩ :: after)
      = ((buffer.applyAll before).setText text).applyAll after := by
    rw [applyAll, List.foldl_append, List.foldl_cons]
    rfl
  rw [hsplit, (inStep_setText (buffer.applyAll before) text).applyAll_eq_new]
  show Buffer.new (buffer.applyAll before).uri (applyChanges after text) version = _
  rw [uri_applyAll]

end TagLens.Document

namespace TagLens.Workspace

open Diagnosis (Finding)
open Document (Buffer Change applyChanges)
open Report (Event)

/-- What an operation on a document gives: the workspace afterwards, the findings of the document,
and the events. -/
abbrev Outcome := Workspace × List Finding × List Event

/-- Two treatments of one document come to the same: they give the same findings and the same
document, neither touches another document, and the same documents are open, though perhaps in
another order. -/
structure SameTreatment (workspace : Workspace) (uri : String) (one other : Outcome) : Prop where
  findings : one.2.1 = other.2.1
  document : one.1.document? uri = other.1.document? uri
  elsewhere : ∀ elsewhere ≠ uri, one.1.document? elsewhere = workspace.document? elsewhere
    ∧ other.1.document? elsewhere = workspace.document? elsewhere
  openUris : one.1.openUris.Perm workspace.openUris ∧ other.1.openUris.Perm workspace.openUris

/-- A treatment of one document leads to this document, and to no other change. -/
structure Leads (workspace : Workspace) (uri : String) (buffer : Buffer) (outcome : Outcome) :
    Prop where
  service : SameService outcome.1 workspace
  findings : outcome.2.1 = (outcome.1.validate uri).1
  document : outcome.1.document? uri = some buffer
  elsewhere : ∀ elsewhere ≠ uri, outcome.1.document? elsewhere = workspace.document? elsewhere
  openUris : outcome.1.openUris.Perm workspace.openUris

namespace Leads

variable {workspace : Workspace} {uri : String} {buffer : Buffer} {one other : Outcome}

theorem sameFor (h : Leads workspace uri buffer one) (h' : Leads workspace uri buffer other) :
    SameFor uri one.1 other.1 :=
  ⟨h.service.trans h'.service.symm, h.document.trans h'.document.symm⟩

theorem sameTreatment (h : Leads workspace uri buffer one) (h' : Leads workspace uri buffer other) :
    SameTreatment workspace uri one other where
  findings := by rw [h.findings, h'.findings, (h.sameFor h').validate]
  document := (h.sameFor h').document
  elsewhere elsewhere hne := ⟨h.elsewhere elsewhere hne, h'.elsewhere elsewhere hne⟩
  openUris := ⟨h.openUris, h'.openUris⟩

theorem trans {middle : Buffer} (h : Leads workspace uri middle one)
    (h' : Leads one.1 uri buffer other) : Leads workspace uri buffer other where
  service := h'.service.trans h.service
  findings := h'.findings
  document := h'.document
  elsewhere elsewhere hne := (h'.elsewhere elsewhere hne).trans (h.elsewhere elsewhere hne)
  openUris := h'.openUris.trans h.openUris

end Leads

/-- An edit that comes in time. -/
theorem leads_edit {workspace : Workspace} {uri : String} {buffer : Buffer} {version : Int}
    (hopen : workspace.document? uri = some buffer) (hversion : buffer.version < version)
    (changes : List Change) :
    Leads workspace uri { buffer.applyAll changes with version }
      (workspace.edit uri changes version) where
  service := sameService_edit workspace uri changes version
  findings := findings_edit workspace uri changes version
  document := by
    rw [document?_edit_eq, if_pos rfl, hopen, Option.map_some, Buffer.edit_of_lt hversion]
  elsewhere elsewhere hne := by rw [document?_edit_eq, if_neg hne]
  openUris := by rw [openUris_edit]

theorem leads_reopen {workspace : Workspace} {uri : String} (horderly : workspace.Orderly)
    (hopen : uri ∈ workspace.openUris) (text : Text) (version : Int) :
    Leads workspace uri (.new uri text version)
      ((workspace.close uri).1.openDocument uri text version) where
  service := ⟨rfl, rfl, rfl⟩
  findings := rfl
  document := by rw [document?_openDocument, if_pos rfl]
  elsewhere elsewhere hne := by
    rw [document?_openDocument, if_neg hne, document?_close, if_neg hne]
  openUris := by
    -- as no URI is open twice, closing takes a single one away
    rw [openUris_openDocument, openUris_close, if_neg (by simp),
      ← horderly.nodup.erase_eq_filter]
    exact (List.perm_append_singleton _ _).trans (List.perm_cons_erase hopen).symm

/-- **A batch with a replacement of the whole text is a reopening.** Whatever stands in front of the
replacement, the batch comes to the same as closing the document, opening it with the new text at
any earlier version and applying the rest of the batch; and where nothing is left of the batch, to
the same as closing the document and opening it at the new version. -/
theorem edit_with_replacement (workspace : Workspace) (uri : String) (buffer : Buffer)
    (version : Int) (before after : List Change) (text : Text)
    (hreachable : workspace.Reachable) (hopen : workspace.document? uri = some buffer)
    (hversion : buffer.version < version) :
    (∀ first < version, SameTreatment workspace uri
        (workspace.edit uri (before ++ ⟨text, none⟩ :: after) version)
        (((workspace.close uri).1.openDocument uri text first).1.edit uri after version))
      ∧ (after = [] → SameTreatment workspace uri
        (workspace.edit uri (before ++ ⟨text, none⟩ :: after) version)
        ((workspace.close uri).1.openDocument uri text version)) := by
  have horderly := hreachable.orderly
  have hmem : uri ∈ workspace.openUris := mem_openUris.mpr (by rw [hopen]; rfl)
  have hedit : Leads workspace uri (.new uri (applyChanges after text) version)
      (workspace.edit uri (before ++ ⟨text, none⟩ :: after) version) := by
    have hedit := leads_edit hopen hversion (before ++ ⟨text, none⟩ :: after)
    rwa [Buffer.applyAll_replacement, (horderly.document hopen).1] at hedit
  constructor
  · intro first hfirst
    have hreopen := leads_reopen horderly hmem text first
    have hagain := leads_edit hreopen.document hfirst after
    rw [(Buffer.inStep_new uri text first).applyAll_eq_new] at hagain
    exact hedit.sameTreatment (hreopen.trans hagain)
  · rintro rfl
    exact hedit.sameTreatment (leads_reopen horderly hmem text version)

/-- Two documents, the first of which is about to be replaced. -/
def twoOpen : Workspace :=
  (Workspace.new Diagnosis.listSchema ⟨.root, []⟩ {} none).run
    [.openDocument "first" "<list>".toList 1, .openDocument "second" [] 4]

/-- An edit whose range is reversed and begins behind the last line. -/
def strayEdit : Change := ⟨['x'], some ⟨⟨7, 7⟩, ⟨0, 2⟩⟩⟩

/-- An edit of the second character. -/
def renameEdit : Change := ⟨['b'], some ⟨⟨0, 1⟩, ⟨0, 2⟩⟩⟩

theorem edit_with_replacement_twoOpen :
    (twoOpen.edit "first" [strayEdit, ⟨"<a>".toList, none⟩, renameEdit] 2).1.document? "first"
        = some (.new "first" "<b>".toList 2)
      ∧ SameTreatment twoOpen "first"
        (twoOpen.edit "first" [strayEdit, ⟨"<a>".toList, none⟩, renameEdit] 2)
        (((twoOpen.close "first").1.openDocument "first" "<a>".toList 0).1.edit "first"
          [renameEdit] 2)
      ∧ SameTreatment twoOpen "first"
        (twoOpen.edit "first" [strayEdit, ⟨"<a>".toList, none⟩] 2)
        ((twoOpen.close "first").1.openDocument "first" "<a>".toList 2)
      ∧ ((twoOpen.close "first").1.openDocument "first" "<a>".toList 2).1.openUris
        = ["second", "first"] := by
  have hopen : twoOpen.document? "first" = some (.new "first" "<list>".toList 1) := rfl
  have hreachable : twoOpen.Reachable := ⟨_, _, _, _, _, rfl⟩
  obtain ⟨hedited, -⟩ := edit_with_replacement twoOpen "first" (.new "first" "<list>".toList 1) 2
    [strayEdit] [renameEdit] "<a>".toList hreachable hopen (by decide)
  obtain ⟨-, hreopened⟩ := edit_with_replacement twoOpen "first" (.new "first" "<list>".toList 1) 2
    [strayEdit] [] "<a>".toList hreachable hopen (by decide)
  exact ⟨rfl, hedited 0 (by decide), hreopened rfl, rfl⟩

end TagLens.Workspace
