import TagLens.Server
import TagLens.Proofs.Diagnosis.Silence
import TagLens.Proofs.Workspace.Independence

/-!
# Published diagnostics do not go stale

A client shows for every document the list that was published for it last, and nothing where
nothing was ever published. As long as the settings stay, that is what a fresh look at the document
would give (`shown_eq_diagnostics`): after every notification, for documents that are open, closed,
reopened or never heard of.

A notification either does nothing at all, or it is an operation on one document and publishes the
diagnostics of that document as they are afterwards (`handle_cases`). The diagnostics of all other
documents are what they were, since documents do not interfere.
-/

namespace TagLens.Server

open Diagnosis (Diagnostic)
open Document (Change)
open Report (Event)
open Workspace (Operation)

/-- What a client tells about its documents. -/
inductive Notification where
  | opened (uri : String) (text : Text) (version : Int)
  | changed (uri : String) (version : Int) (changes : List Change)
  | closed (uri : String)

def Notification.uri : Notification → String
  | opened uri _ _ | changed uri _ _ | closed uri => uri

def handle (server : Server) : Notification → Server × List Publication × List Event
  | .opened uri text version => server.didOpen uri text version
  | .changed uri version changes => server.didChange uri version changes
  | .closed uri => server.didClose uri

/-- The server after notifications, and everything that it has published on the way. -/
def handleAll (server : Server) : List Notification → Server × List Publication
  | [] => (server, [])
  | notification :: rest =>
    let (next, published, _) := server.handle notification
    let (last, later) := next.handleAll rest
    (last, published ++ later)

/-- What a client shows for a document: every publication replaces the ones before. -/
def shown (published : List Publication) (uri : String) : List Diagnostic :=
  match published.reverse.find? (·.uri == uri) with
  | some publication => publication.diagnostics
  | none => []

theorem shown_concat (published : List Publication) (publication : Publication) (uri : String) :
    shown (published ++ [publication]) uri
      = if publication.uri = uri then publication.diagnostics else shown published uri := by
  rw [shown, List.reverse_append, List.reverse_singleton, List.singleton_append, List.find?_cons]
  by_cases h : publication.uri = uri
  · simp [h]
  · simp [beq_false_of_ne h, h, shown]

/-! ## One notification -/

/-- **What a notification does**: nothing, or an operation on its document, whose diagnostics are
then published. -/
theorem handle_cases (server : Server) (notification : Notification) :
    (server.handle notification).1 = server ∧ (server.handle notification).2.1 = []
      ∨ ∃ operation : Operation, operation.target? = some notification.uri
        ∧ (server.handle notification).1.workspace = (server.workspace.perform operation).1
        ∧ (server.handle notification).2.1 = [⟨notification.uri,
            ((server.workspace.perform operation).1.diagnostics notification.uri).1⟩] := by
  cases notification with
  | opened uri text version => exact .inr ⟨.didOpen uri text version, rfl, rfl, rfl⟩
  | changed uri version changes =>
      by_cases hempty : changes.isEmpty = true
      · left
        rw [handle, didChange, if_pos hempty]
        exact ⟨rfl, rfl⟩
      · right
        refine ⟨.didChange uri version changes, rfl, ?_⟩
        rw [handle, didChange, if_neg hempty]
        exact ⟨rfl, congrArg (fun diagnostics => [Publication.mk uri diagnostics])
          (server.workspace.diagnostics_didChange uri version changes)⟩
  | closed uri =>
      have hclosed : (server.workspace.perform (.didClose uri)).1.document? uri = none :=
        server.workspace.document?_perform_target rfl
      refine .inr ⟨.didClose uri, rfl, rfl, ?_⟩
      rw [Notification.uri, Workspace.diagnostics_of_closed hclosed]
      rfl

/-! ## All notifications -/

/-- A client that has received the publications shows the diagnostics as they are. -/
def UpToDate (server : Server) (published : List Publication) : Prop :=
  ∀ uri, shown published uri = (server.workspace.diagnostics uri).1

theorem upToDate_nil {server : Server} (h : server.workspace.openUris = []) :
    server.UpToDate [] := by
  intro uri
  have hclosed : server.workspace.document? uri = none := by
    rw [← Option.not_isSome_iff_eq_none, ← Workspace.mem_openUris, h]
    exact List.not_mem_nil
  rw [Workspace.diagnostics_of_closed hclosed]
  rfl

theorem UpToDate.handle {server : Server} {published : List Publication}
    (h : server.UpToDate published) (notification : Notification) :
    (server.handle notification).1.UpToDate
      (published ++ (server.handle notification).2.1) := by
  rcases server.handle_cases notification with
    ⟨hserver, hpublished⟩ | ⟨operation, htarget, hworkspace, hpublished⟩
  · rw [hserver, hpublished, List.append_nil]
    exact h
  · intro uri
    rw [hpublished, hworkspace, shown_concat]
    by_cases huri : notification.uri = uri
    · subst huri
      rw [if_pos rfl]
    · -- nothing was published for the document, and nothing has changed for it
      have hsame := server.workspace.sameFor_perform_elsewhere htarget huri
      rw [if_neg huri, h uri, hsame.diagnostics]

theorem UpToDate.handleAll {server : Server} {published : List Publication}
    (h : server.UpToDate published) (notifications : List Notification) :
    (server.handleAll notifications).1.UpToDate
      (published ++ (server.handleAll notifications).2) := by
  induction notifications generalizing server published with
  | nil =>
      rw [Server.handleAll, List.append_nil]
      exact h
  | cons notification rest ih =>
      have hrest := ih (h.handle notification)
      rw [List.append_assoc] at hrest
      exact hrest

/-- **Published diagnostics do not go stale.** Whatever notifications a server without open
documents is given, what a client then shows for a document, open or not, are its diagnostics. -/
theorem shown_eq_diagnostics (server : Server) (hclosed : server.workspace.openUris = [])
    (notifications : List Notification) (uri : String) :
    shown (server.handleAll notifications).2 uri
      = ((server.handleAll notifications).1.workspace.diagnostics uri).1 :=
  (upToDate_nil hclosed).handleAll notifications uri

/-- A server for lists of items. -/
def listServer : Server :=
  { workspace := .new Diagnosis.listSchema ⟨.root, []⟩ {} none
    options := .table []
    clientRoot := none }

/-- A document is opened and edited too late, another is edited without being open, a batch is
empty, and a third document is opened, opened anew and closed. -/
def restlessClient : List Notification :=
  [.opened "list" "<list><x>".toList 3, .changed "list" 2 [⟨[], none⟩],
    .changed "other" 1 [⟨[], none⟩], .opened "third" "<".toList 1, .opened "third" "<a>".toList 1,
    .changed "list" 4 [], .closed "third"]

theorem shown_eq_diagnostics_restlessClient :
    listServer.workspace.openUris = []
      ∧ (shown (listServer.handleAll restlessClient).2 "list").map (·.code)
        = ["unknown-element", "unclosed-tag", "unclosed-tag"]
      ∧ shown (listServer.handleAll restlessClient).2 "third" = [] := by
  have hclosed : listServer.workspace.openUris = [] := rfl
  refine ⟨hclosed, ?_, ?_⟩
  · rw [shown_eq_diagnostics listServer hclosed]
    decide +kernel
  · rw [shown_eq_diagnostics listServer hclosed]
    rfl

end TagLens.Server
