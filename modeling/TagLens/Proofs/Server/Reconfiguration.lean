import TagLens.Location.Uri
import TagLens.Proofs.Server.Publication
import TagLens.Proofs.Settings.Precedence
import TagLens.Proofs.Workspace.Validation

/-!
# Reconfiguration is atomic

A client may greet a server and get it ready as often as it likes, with notifications about
documents in between. The validator keeps in step with the settings all the while, and the options
on top of them are those that were given last (`consistent_receiveAll`). Each time the server gets
ready, the settings are replaced as a whole or not at all, and documents never change
(`ready_atomic`). All of this holds however the server reads the URIs of roots.
-/

namespace TagLens.Server

open Location (Path UriReading)
open Settings (Field Host LoadError Table Value)

/-! ## What a client sends -/

/-- What a client sends to a server. -/
inductive Message where
  | greeting (rootUri : Option String) (options : Value)
  /-- The client is ready, in these surroundings. -/
  | ready (host : Host)
  | notification (notification : Notification)

/-- The server after a message. A greeting that is refused changes nothing. -/
def receive (server : Server) (reading : UriReading) : Message → Server
  | .greeting rootUri options =>
    match server.greet reading rootUri options with
    | .ok greeted => greeted
    | .error _ => server
  | .ready host => (server.ready reading host).1
  | .notification notification => (server.handle notification).1

/-- The server after messages. -/
def receiveAll (server : Server) (reading : UriReading) (messages : List Message) : Server :=
  messages.foldl (fun current message => current.receive reading message) server

section

variable (reading : UriReading)

/-- A root is refused if its URI cannot be read. -/
def isAccepted (rootUri : Option String) : Bool :=
  match rootUri.map reading with
  | some (.error _) => false
  | _ => true

/-- The root that a message gives. -/
def Message.root? : Message → Option (Option String)
  | .greeting rootUri _ => if isAccepted reading rootUri then some rootUri else none
  | _ => none

/-- The table of options that a message gives. -/
def Message.options? : Message → Option Table
  | .greeting rootUri (.table entries) => if isAccepted reading rootUri then some entries else none
  | _ => none

/-- The root given last. -/
def lastRoot? (messages : List Message) : Option (Option String) :=
  (messages.filterMap (Message.root? reading)).getLast?

/-- The options given last; there are none at first. -/
def lastOptions (messages : List Message) : Table :=
  (messages.filterMap (Message.options? reading)).getLast?.getD []

theorem lastRoot?_concat (messages : List Message) (message : Message) :
    lastRoot? reading (messages ++ [message])
      = (message.root? reading).or (lastRoot? reading messages) := by
  rw [lastRoot?, List.filterMap_append, List.getLast?_append]
  cases h : message.root? reading <;> simp [h, lastRoot?]

theorem lastOptions_concat (messages : List Message) (message : Message) :
    lastOptions reading (messages ++ [message])
      = (message.options? reading).getD (lastOptions reading messages) := by
  rw [lastOptions, List.filterMap_append, List.getLast?_append]
  cases h : message.options? reading <;> simp [h, lastOptions]

end

/-! ## One message -/

section

variable {reading : UriReading}

theorem greet_of_accepted {rootUri : Option String} (h : isAccepted reading rootUri = true)
    (server : Server) (options : Value) :
    ∃ given, server.greet reading rootUri options
        = .ok { server with options := given, clientRoot := some rootUri }
      ∧ given = match options with
        | .table entries => .table entries
        | _ => server.options := by
  refine ⟨_, ?_, rfl⟩
  unfold greet
  rw [isAccepted] at h
  split
  · next fault hfault =>
      rw [hfault] at h
      exact absurd h (by simp)
  · rfl

theorem greet_of_refused {rootUri : Option String} (h : isAccepted reading rootUri = false)
    (server : Server) (options : Value) :
    ∃ error, server.greet reading rootUri options = .error error := by
  obtain ⟨fault, hfault⟩ : ∃ fault, rootUri.map reading = some (.error fault) := by
    rw [isAccepted] at h
    split at h
    · next fault hfault => exact ⟨fault, hfault⟩
    · exact absurd h (by simp)
  unfold greet
  rw [hfault]
  exact ⟨_, rfl⟩

end

/-- The settings that are wanted for a directory by a client with these options. -/
def wanted (host : Host) (root : Path) (options : Table) : Except LoadError Settings := do
  let loaded ← Settings.load host root
  loaded.overrideOrFail host.room.quotingOptions options "initializationOptions"

theorem reload_eq {server : Server} {entries : Table} (h : server.options = .table entries)
    (reading : UriReading) (host : Host) :
    server.reload reading host
      = (wanted host (server.workspace.rootPath reading) entries).map fun settings =>
        { server with workspace := server.workspace.configure settings } := by
  rw [reload, h, wanted]
  cases Settings.load host (server.workspace.rootPath reading) with
  | error error => rfl
  | ok loaded =>
      show (loaded.overrideOrFail host.room.quotingOptions entries _ >>= _)
        = (loaded.overrideOrFail host.room.quotingOptions entries _).map _
      cases loaded.overrideOrFail host.room.quotingOptions entries "initializationOptions" <;> rfl

/-- The server once it has moved to a root. -/
def movedTo (server : Server) (rootUri : Option String) : Server :=
  { server with workspace := server.workspace.setRoot rootUri }

/-- **Getting ready** moves the root, and replaces the settings as a whole or not at all. -/
theorem ready_eq {server : Server} {rootUri : Option String} {entries : Table}
    (hroot : server.clientRoot = some rootUri) (hoptions : server.options = .table entries)
    (reading : UriReading) (host : Host) :
    (server.ready reading host).1
      = match wanted host ((server.workspace.setRoot rootUri).rootPath reading) entries with
        | .ok settings => { server with
            workspace := (server.workspace.setRoot rootUri).configure settings }
        | .error _ => server.movedTo rootUri := by
  have hmoved : (server.movedTo rootUri).options = .table entries := hoptions
  have hreload : (server.movedTo rootUri).reload reading host
      = (wanted host ((server.workspace.setRoot rootUri).rootPath reading) entries).map
        fun settings => { server with
          workspace := (server.workspace.setRoot rootUri).configure settings } :=
    reload_eq hmoved reading host
  unfold ready
  split
  · next hnone => exact absurd (hnone.symm.trans hroot) (by simp)
  · next given hgiven =>
      obtain rfl : given = rootUri := Option.some.inj (hgiven.symm.trans hroot)
      rw [movedTo] at hreload
      simp only [hreload]
      cases wanted host ((server.workspace.setRoot given).rootPath reading) entries with
      | ok settings => rfl
      -- errors differ in what is told about them, not in where they leave the server
      | error error => cases error <;> rfl

/-- Settings that are wanted hold what the options give, else what was loaded. -/
theorem changed_of_wanted {host : Host} {root : Path} {options : Table} {settings : Settings}
    (h : wanted host root options = .ok settings) :
    ∃ loaded, Settings.load host root = .ok loaded
      ∧ ∀ field : Field, field.Changed loaded (field.givenLast? options) settings := by
  obtain ⟨loaded, hload, hoverride⟩ := exists_of_bind_eq_ok h
  exact ⟨loaded, hload, Settings.changed_of_override (mapError_eq_ok hoverride)⟩

/-! ## All messages -/

/-- The validator is the one that the settings ask for, and the server remembers what the client has
told it last. -/
structure Consistent (server : Server) (reading : UriReading) (messages : List Message) : Prop where
  inService : server.workspace.InService
  options_eq : server.options = .table (lastOptions reading messages)
  clientRoot_eq : server.clientRoot = lastRoot? reading messages

theorem consistent_new (reading : UriReading) (directory : Path) (settings : Settings) :
    (new directory settings).Consistent reading [] :=
  ⟨rfl, rfl, rfl⟩

namespace Consistent

variable {server : Server} {reading : UriReading} {messages : List Message}

/-- A message without a root or options of its own leaves those that were given before. -/
theorem concat (h : server.Consistent reading messages) {message : Message} {next : Server}
    (hroot : message.root? reading = none) (hoptions : message.options? reading = none)
    (hservice : next.workspace.InService) (hkept : next.options = server.options)
    (hkeptRoot : next.clientRoot = server.clientRoot) :
    next.Consistent reading (messages ++ [message]) := by
  refine ⟨hservice, ?_, ?_⟩
  · rw [hkept, h.options_eq, lastOptions_concat, hoptions]
    rfl
  · rw [hkeptRoot, h.clientRoot_eq, lastRoot?_concat, hroot, Option.none_or]

theorem greeting (h : server.Consistent reading messages) (rootUri : Option String)
    (options : Value) :
    (server.receive reading (.greeting rootUri options)).Consistent reading
      (messages ++ [.greeting rootUri options]) := by
  cases haccepted : isAccepted reading rootUri with
  | false =>
      obtain ⟨error, hgreet⟩ := greet_of_refused haccepted server options
      rw [receive, hgreet]
      refine h.concat ?_ ?_ h.inService rfl rfl
      · rw [Message.root?, haccepted]
        rfl
      · cases options <;> simp [Message.options?, haccepted]
  | true =>
      obtain ⟨given, hgreet, hgiven⟩ := greet_of_accepted haccepted server options
      rw [receive, hgreet]
      refine ⟨h.inService, ?_, ?_⟩
      · rw [lastOptions_concat, hgiven]
        cases options <;> simp [Message.options?, haccepted, h.options_eq]
      · rw [lastRoot?_concat, Message.root?, haccepted]
        rfl

theorem ready (h : server.Consistent reading messages) (host : Host) :
    (server.receive reading (.ready host)).Consistent reading (messages ++ [.ready host]) := by
  rw [receive]
  cases hroot : server.clientRoot with
  | none =>
      rw [Server.ready, hroot]
      exact h.concat rfl rfl h.inService rfl rfl
  | some rootUri =>
      rw [ready_eq hroot h.options_eq]
      split
      · exact h.concat rfl rfl rfl rfl rfl
      · exact h.concat rfl rfl h.inService rfl rfl

theorem notification (h : server.Consistent reading messages) (notification : Notification) :
    (server.receive reading (.notification notification)).Consistent reading
      (messages ++ [.notification notification]) := by
  have hkept : (server.handle notification).1.options = server.options
      ∧ (server.handle notification).1.clientRoot = server.clientRoot := by
    cases notification with
    | opened | closed => exact ⟨rfl, rfl⟩
    | changed uri version changes =>
        rw [handle, didChange]
        split <;> exact ⟨rfl, rfl⟩
  refine h.concat rfl rfl ?_ hkept.1 hkept.2
  rcases server.handle_cases notification with ⟨hsame, -⟩ | ⟨operation, -, hworkspace, -⟩
  · rw [receive, hsame]
    exact h.inService
  · rw [receive, hworkspace]
    exact h.inService.perform operation

/-- **One message**, of whatever kind, keeps a server consistent. -/
theorem receive (h : server.Consistent reading messages) (message : Message) :
    (server.receive reading message).Consistent reading (messages ++ [message]) := by
  cases message with
  | greeting rootUri options => exact h.greeting rootUri options
  | ready host => exact h.ready host
  | notification notification => exact h.notification notification

theorem receiveAll (h : server.Consistent reading messages) (later : List Message) :
    (server.receiveAll reading later).Consistent reading (messages ++ later) := by
  induction later generalizing server messages with
  | nil =>
      rw [List.append_nil]
      exact h
  | cons message later ih =>
      have hlater := ih (h.receive message)
      rw [List.append_assoc] at hlater
      exact hlater

end Consistent

/-- A server is consistent with all that a client has sent to it. -/
theorem consistent_receiveAll (reading : UriReading) (directory : Path) (settings : Settings)
    (messages : List Message) :
    ((new directory settings).receiveAll reading messages).Consistent reading messages :=
  (consistent_new reading directory settings).receiveAll messages

/-- **Reconfiguration is atomic.** However URIs are read and whatever a client has sent so far, the
validator in service makes the checks that the settings ask for. When the server then gets ready, no
document changes and neither do the options, whatever comes of it. If the settings cannot be loaded
for the new root or the options given last do not fit, be the problem one of a file, of the
environment or of the options, then nothing changes but the root. Otherwise the settings are those
loaded, with a field changed to the last value that the options have for it, and the validator is
the one for them. -/
theorem ready_atomic (reading : UriReading) (directory : Path) (initial : Settings)
    (messages : List Message) (server : Server)
    (h : (new directory initial).receiveAll reading messages = server) :
    (∃ validator, server.workspace.inspection = .service validator
        ∧ validator.checkStructure = server.workspace.settings.checkStructure
        ∧ validator.requireDeclaration = server.workspace.settings.requireDeclaration)
      ∧ (lastRoot? reading messages = none → ∀ host, (server.ready reading host).1 = server)
      ∧ ∀ rootUri host, lastRoot? reading messages = some rootUri →
        (server.ready reading host).1.workspace.documents = server.workspace.documents
        ∧ (server.ready reading host).1.options = server.options
        ∧ (server.ready reading host).1.workspace.rootUri = rootUri
        ∧ match wanted host ((server.workspace.setRoot rootUri).rootPath reading)
            (lastOptions reading messages) with
          | .error _ => (server.ready reading host).1 = server.movedTo rootUri
          | .ok settings =>
            (server.ready reading host).1.workspace.settings = settings
            ∧ (server.ready reading host).1.workspace.inspection
              = .service (Workspace.validatorFor server.workspace.schema settings)
            ∧ ∃ loaded,
              Settings.load host ((server.workspace.setRoot rootUri).rootPath reading) = .ok loaded
              ∧ ∀ field : Field, match field.givenLast? (lastOptions reading messages) with
                | none => settings.get field = loaded.get field
                | some value => field.coerce? value = some (settings.get field) := by
  subst h
  have h := consistent_receiveAll reading directory initial messages
  refine ⟨⟨_, h.inService, rfl, rfl⟩, ?_, ?_⟩
  · intro hroot host
    rw [ready, h.clientRoot_eq, hroot]
  · intro rootUri host hroot
    rw [ready_eq (h.clientRoot_eq.trans hroot) h.options_eq]
    cases hwanted : wanted host ((((new directory initial).receiveAll reading messages).workspace
      |>.setRoot rootUri).rootPath reading) (lastOptions reading messages) with
    | ok settings => exact ⟨rfl, rfl, rfl, rfl, rfl, changed_of_wanted hwanted⟩
    | error error => exact ⟨rfl, rfl, rfl, rfl⟩

/-- A directory whose settings file turns off a check, with a variable for the log level. -/
def quietHost : Host :=
  Settings.hostWith Settings.fileName (Text.Utf8.encode "check-structure=false".toList)

/-- A client greets the server with these options. -/
def visit (options : Table) : Message := .greeting (some "file:///project") (.table options)

/-- The client is ready and opens a document, before it greets the server again with an option that
is no good. -/
def visits : List Message :=
  [visit [("log-level", .text "Warning")], .ready quietHost,
      .notification (.opened "list" "<list>".toList 1)]
    ++ [visit [("check_structure", .text "maybe")]]

theorem ready_atomic_visits :
    ∃ first last, (new ⟨.root, []⟩ {}).receiveAll Location.Uri.reading
          [visit [("log-level", .text "Warning")]] = first
      ∧ (new ⟨.root, []⟩ {}).receiveAll Location.Uri.reading visits = last
      ∧ (first.ready Location.Uri.reading quietHost).1.workspace.settings
        = { checkStructure := false, logLevel := "warning" }
      ∧ (last.ready Location.Uri.reading quietHost).1 = last.movedTo (some "file:///project") := by
  have hpath : ∀ workspace : Workspace,
      (workspace.setRoot (some "file:///project")).rootPath Location.Uri.reading
        = ⟨.root, ["project"]⟩ := by
    intro workspace
    show Path.ofUri Location.Uri.reading "file:///project" = _
    decide +kernel
  have haccepted : isAccepted Location.Uri.reading (some "file:///project") = true := by
    decide +kernel
  have hgiven : ∀ (messages : List Message) (options : Table),
      lastRoot? Location.Uri.reading (messages ++ [visit options]) = some (some "file:///project")
      ∧ lastOptions Location.Uri.reading (messages ++ [visit options]) = options := by
    intro messages options
    rw [lastRoot?_concat, lastOptions_concat, visit, Message.root?, Message.options?, haccepted]
    exact ⟨rfl, rfl⟩
  obtain ⟨-, -, hready⟩ := ready_atomic Location.Uri.reading ⟨.root, []⟩ {}
    [visit [("log-level", .text "Warning")]] _ rfl
  obtain ⟨-, -, hreadyAgain⟩ := ready_atomic Location.Uri.reading ⟨.root, []⟩ {} visits _ rfl
  obtain ⟨-, -, -, houtcome⟩ := hready _ quietHost (hgiven [] _).1
  obtain ⟨-, -, -, hkept⟩ := hreadyAgain _ quietHost (hgiven _ _).1
  have hload : Settings.load quietHost ⟨.root, ["project"]⟩
      = .ok { checkStructure := false, logLevel := "debug" } :=
    eq_ok_of_toOption (by decide +kernel)
  have hfirst : wanted quietHost ⟨.root, ["project"]⟩ [("log-level", .text "Warning")]
      = .ok { checkStructure := false, logLevel := "warning" } := by
    rw [wanted, hload]
    rfl
  have hlast : wanted quietHost ⟨.root, ["project"]⟩ [("check_structure", .text "maybe")]
      = .error (.refused (.misfit .checkStructure (.text "maybe") "initializationOptions")) := by
    rw [wanted, hload]
    rfl
  have hoptions : lastOptions Location.Uri.reading [visit [("log-level", .text "Warning")]]
      = [("log-level", .text "Warning")] := (hgiven [] _).2
  rw [hpath, hoptions, hfirst] at houtcome
  rw [hpath, visits, (hgiven _ _).2, hlast] at hkept
  exact ⟨_, _, rfl, rfl, houtcome.1, hkept⟩

end TagLens.Server
