import TagLens.Command.Run

/-!
# Settings that cannot be loaded

A settings file can be wrong in many ways. Most of them are refused: the load ends with a problem
that is put in words, and both the command line and the server know what to do with a problem.
Other errors of the load pass both by. A result is `Handled` when it is no such error.

Which errors these are depends on the file that decides alone (`Source`) and on the room there is
for nested values, never on the environment: the file is not UTF-8, it holds an integer with too
many digits or values nested too deeply, its tools are not a table, or the first value that does not
fit its field cannot be quoted (`Source.Sound`).
-/

namespace TagLens.Settings

open Command (Surroundings Invocation runInvocation settingsRoot)
open Location (AccessError Path UriReading)

/-! ## Results that are handled -/

/-- The result is good, or it is a problem that is told about. -/
def Handled {α : Type} (good : α → Prop) : Except LoadError α → Prop
  | .ok a => good a
  | .error (.refused _) => True
  | .error _ => False

theorem handled_bind {α β : Type} {good : β → Prop} (first : Except LoadError α)
    (next : α → Except LoadError β) :
    Handled good (first >>= next) ↔ Handled (fun a => Handled good (next a)) first := by
  cases first with
  | ok a => rfl
  | error error => cases error <;> rfl

theorem handled_congr {α : Type} {good better : α → Prop} (h : ∀ a, good a ↔ better a)
    (result : Except LoadError α) : Handled good result ↔ Handled better result := by
  rw [show good = better from funext fun a => propext (h a)]

/-- What is handled is a result or a problem. -/
theorem handled_iff {α : Type} (result : Except LoadError α) :
    Handled (fun _ => True) result
      ↔ (∃ a, result = .ok a) ∨ ∃ problem, result = .error (.refused problem) := by
  cases result with
  | ok a => simp [Handled]
  | error error => cases error <;> simp [Handled]

/-! ## Values that do not fit -/

/-- The value can be put into the field. -/
def Field.accepts (field : Field) (value : Value) : Bool :=
  match field with
  | .checkStructure | .requireDeclaration => (truth? value).isSome
  | .diagnosticSource | .logLevel => (text? value).isSome
  | .logFile => (path? value).isSome

/-- The field that an entry would set to a value that does not fit it. -/
def misfit? (entry : String × Value) : Option (Field × Value) :=
  match Field.ofKey? entry.1, entry.2 with
  | none, _ => none
  | some _, .null => none
  | some field, value => if field.accepts value then none else some (field, value)

/-- If a table is refused, there is room to quote the value that it is refused for. -/
def Quotable (room : Nat) (table : Table) : Prop :=
  ∀ found ∈ table.findSome? misfit?, found.2.quoteFault? room = none

theorem isSome_set? (settings : Settings) (field : Field) (value : Value) :
    (settings.set? field value).isSome = field.accepts value := by
  cases field <;> simp [set?, Field.accepts]

section

variable {key : String} {field : Field} {value : Value} (hfield : Field.ofKey? key = some field)
  (hnull : value ≠ .null)

include hfield hnull

theorem misfit?_of_ne_null :
    misfit? (key, value) = if field.accepts value then none else some (field, value) := by
  rw [misfit?, hfield]
  cases value with
  | null => exact absurd rfl hnull
  | _ => rfl

theorem applyEntry_of_ne_null (origin : String) (settings : Settings) :
    applyEntry origin settings (key, value)
      = match settings.set? field value with
        | some changed => .ok changed
        | none => .error (.misfit field value origin) := by
  rw [applyEntry, hfield]
  cases value with
  | null => exact absurd rfl hnull
  | _ => rfl

end

/-- The entry has no say: its name is unknown or its value is null. -/
def isIdle (entry : String × Value) : Bool :=
  match Field.ofKey? entry.1, entry.2 with
  | none, _ | some _, .null => true
  | some _, _ => false

theorem isIdle_cases (entry : String × Value) :
    isIdle entry = true
      ∨ isIdle entry = false ∧ ∃ field, Field.ofKey? entry.1 = some field ∧ entry.2 ≠ .null := by
  obtain ⟨key, value⟩ := entry
  rw [isIdle]
  cases Field.ofKey? key with
  | none => exact .inl rfl
  | some field => cases value <;> simp

section

variable {key : String} {value : Value} (h : isIdle (key, value) = true)

include h

theorem misfit?_of_isIdle : misfit? (key, value) = none := by
  rw [isIdle] at h
  rw [misfit?]
  cases hfield : Field.ofKey? key with
  | none => rfl
  | some field =>
      cases value with
      | null => rfl
      | _ => simp [hfield] at h

theorem applyEntry_of_isIdle (origin : String) (settings : Settings) :
    applyEntry origin settings (key, value) = .ok settings := by
  rw [isIdle] at h
  rw [applyEntry]
  cases hfield : Field.ofKey? key with
  | none => rfl
  | some field =>
      cases value with
      | null => rfl
      | _ => simp [hfield] at h

end

/-- One entry is refused exactly when it is a misfit. -/
theorem applyEntry_cases (origin : String) (settings : Settings) (entry : String × Value) :
    (misfit? entry = none ∧ ∃ changed, applyEntry origin settings entry = .ok changed)
      ∨ ∃ field value, misfit? entry = some (field, value)
          ∧ applyEntry origin settings entry = .error (.misfit field value origin) := by
  obtain ⟨key, value⟩ := entry
  rcases isIdle_cases (key, value) with hidle | ⟨-, field, hfield, hnull⟩
  · exact .inl ⟨misfit?_of_isIdle hidle, settings, applyEntry_of_isIdle hidle origin settings⟩
  · rw [misfit?_of_ne_null hfield hnull, applyEntry_of_ne_null hfield hnull,
      ← isSome_set? settings]
    cases settings.set? field value with
    | some changed => exact .inl ⟨rfl, changed, rfl⟩
    | none => exact .inr ⟨field, value, rfl, rfl⟩

/-- A table is refused for its first misfit, whatever the settings are. -/
theorem override_cases (table : Table) (origin : String) (settings : Settings) :
    (table.findSome? misfit? = none ∧ ∃ changed, settings.override table origin = .ok changed)
      ∨ ∃ field value, table.findSome? misfit? = some (field, value)
          ∧ settings.override table origin = .error (.misfit field value origin) := by
  induction table generalizing settings with
  | nil => exact .inl ⟨rfl, settings, rfl⟩
  | cons entry table ih =>
      rw [override, List.foldlM_cons, List.findSome?_cons]
      rcases applyEntry_cases origin settings entry with
        ⟨hnone, changed, hok⟩ | ⟨field, value, hsome, herror⟩
      · rw [hnone, hok]
        exact ih changed
      · rw [hsome, herror]
        exact .inr ⟨field, value, rfl, rfl⟩

theorem handled_overrideOrFail_iff (settings : Settings) (room : Nat) (table : Table)
    (origin : String) :
    Handled (fun _ => True) (settings.overrideOrFail room table origin) ↔ Quotable room table := by
  rw [overrideOrFail, Quotable]
  rcases override_cases table origin settings with
    ⟨hnone, changed, hok⟩ | ⟨field, value, hsome, herror⟩
  · rw [hok, hnone]
    exact iff_of_true trivial (by simp)
  · rw [herror, hsome]
    show Handled _ (.error (.ofProblem room (.misfit field value origin))) ↔ _
    cases hquote : value.quoteFault? room <;>
      simp [LoadError.ofProblem, Problem.quoteFault?, hquote, Handled]

theorem snd_of_misfit? {entry : String × Value} {found : Field × Value}
    (h : misfit? entry = some found) : found.2 = entry.2 := by
  rw [misfit?] at h
  split at h
  · exact absurd h (by simp)
  · exact absurd h (by simp)
  · split at h
    · exact absurd h (by simp)
    · obtain rfl := Option.some.inj h
      rfl

/-- What the environment says is text, which holds no other values and can always be quoted. -/
theorem quotable_environmentTable (room : Nat) (environment : List (String × String)) :
    Quotable room (environmentTable environment) := by
  intro found hfound
  obtain ⟨entry, hentry, hmisfit⟩ := List.exists_of_findSome?_eq_some hfound
  obtain ⟨field, -, hvalue⟩ := List.mem_filterMap.mp hentry
  obtain ⟨value, -, rfl⟩ := Option.map_eq_some_iff.mp hvalue
  rw [snd_of_misfit? hmisfit]
  rfl

/-! ## The file that decides -/

/-- What decides about the settings of a directory: nothing, the bytes of a settings file, or else
those of a project file. -/
inductive Source where
  | defaults
  | dedicated (bytes : List UInt8)
  | project (bytes : List UInt8)

/-- The source of a directory's settings, as long as its files can be asked for. -/
def source (host : Host) (root : Path) : Except AccessError Source := do
  match ← host.files.regularFile? host.workingDirectory (root.child fileName) with
  | some bytes => .ok (.dedicated bytes)
  | none =>
    match ← host.files.regularFile? host.workingDirectory (root.child projectFileName) with
    | some bytes => .ok (.project bytes)
    | none => .ok .defaults

/-- The table that a project file gives, and where it comes from. -/
def projectTable (room : Nat) (project : Path) (bytes : List UInt8) :
    Except LoadError (Table × String) := do
  match ← toolTable? (← parseFile room project bytes) with
  | some table => .ok (table, project.render ++ " [tool." ++ toolName ++ "]")
  | none => .ok ([], "defaults")

/-- The table that a source gives, and where it comes from. -/
def Source.table (room : Nat) (root : Path) : Source → Except LoadError (Table × String)
  | .defaults => .ok ([], "defaults")
  | .dedicated bytes => do
    let table ← parseFile room (root.child fileName) bytes
    .ok (table, (root.child fileName).render)
  | .project bytes => projectTable room (root.child projectFileName) bytes

/-- The files of a directory matter through the source that they lead to, and not otherwise. -/
theorem fileTable_eq (host : Host) (root : Path) :
    fileTable host root
      = (do (← (source host root).mapError .access).table host.room.parsing root) := by
  simp only [fileTable, source]
  cases host.files.regularFile? host.workingDirectory (root.child fileName) with
  | error error => rfl
  | ok dedicated? =>
      cases dedicated? with
      | some bytes => rfl
      | none =>
          cases host.files.regularFile? host.workingDirectory (root.child projectFileName) with
          | error error => rfl
          | ok project? => cases project? <;> rfl

theorem fileTable_of_source {host : Host} {root : Path} {found : Source}
    (h : source host root = .ok found) :
    fileTable host root = found.table host.room.parsing root := by
  rw [fileTable_eq, h]
  rfl

/-- The document is not well formed. -/
def Toml.Fault.IsMalformed : Toml.Fault → Prop
  | .overlongInteger _ | .tooDeep => False
  | _ => True

/-- The bytes are a document that is read or that is not well formed; what is read is as it should
be. -/
def Readable (room : Nat) (bytes : List UInt8) (good : Table → Prop) : Prop :=
  ∃ text, Text.Utf8.decode bytes = .ok text
    ∧ (∀ fault, Toml.parse room text = .error fault → fault.IsMalformed)
    ∧ ∀ table, Toml.parse room text = .ok table → good table

/-- The tools of a project are a table, if there are any, and what it says about this one is
quotable. -/
def SoundProject (room : Nat) (project : Table) : Prop :=
  ∀ tools, project.lookup "tool" = some tools →
    ∃ entries, tools = .table entries
      ∧ ∀ table, entries.lookup toolName = some (.table table) → Quotable room table

/-- Whatever is wrong with the source, it can be told about in this room. -/
def Source.Sound (room : Room) : Source → Prop
  | .defaults => True
  | .dedicated bytes => Readable room.parsing bytes (Quotable room.quoting)
  | .project bytes => Readable room.parsing bytes (SoundProject room.quoting)

theorem handled_parseFile_iff (room : Nat) (path : Path) (bytes : List UInt8)
    (good : Table → Prop) :
    Handled good (parseFile room path bytes) ↔ Readable room bytes good := by
  rw [parseFile, Readable]
  cases hdecode : Text.Utf8.decode bytes with
  | error fault => simp [Handled]
  | ok text =>
      cases hparse : Toml.parse room text with
      | ok table => simp [Handled, hparse]
      | error fault => cases fault <;> simp [Handled, hparse, Toml.Fault.IsMalformed]

theorem handled_toolTable?_iff (room : Nat) (project : Table) :
    Handled (fun table? => ∀ table ∈ table?, Quotable room table) (toolTable? project)
      ↔ SoundProject room project := by
  rw [toolTable?, SoundProject]
  cases htool : project.lookup "tool" with
  | none => simp [Handled]
  | some tools =>
      cases tools with
      | table entries =>
          simp only [Option.some.injEq, forall_eq', Value.table.injEq, exists_eq_left']
          cases hentry : entries.lookup toolName with
          | none => simp [Handled]
          | some value => cases value <;> simp [Handled]
      | _ => simp [Handled]

theorem quotable_nil (room : Nat) : Quotable room [] := by
  intro found hfound
  exact absurd hfound (by simp)

/-- The files of a directory give a table that can be told about exactly when their source is
sound. -/
theorem handled_fileTable_iff {host : Host} {root : Path} {found : Source}
    (h : source host root = .ok found) :
    Handled (fun given => Quotable host.room.quoting given.1) (fileTable host root)
      ↔ found.Sound host.room := by
  rw [fileTable_of_source h]
  cases found with
  | defaults => exact iff_of_true (quotable_nil _) trivial
  | dedicated bytes =>
      rw [Source.table, handled_bind]
      exact handled_parseFile_iff _ _ bytes (Quotable host.room.quoting)
  | project bytes =>
      rw [Source.table, projectTable, handled_bind, Source.Sound,
        ← handled_parseFile_iff _ (root.child projectFileName)]
      apply handled_congr
      intro project
      rw [handled_bind, ← handled_toolTable?_iff]
      apply handled_congr
      intro table?
      cases table? with
      | none => simp [Handled, quotable_nil]
      | some table => simp [Handled]

/-- The environment comes after the files, and nothing that it says goes unreported. -/
theorem handled_load_iff {host : Host} {root : Path} {found : Source}
    (h : source host root = .ok found) :
    Handled (fun _ => True) (load host root) ↔ found.Sound host.room := by
  rw [load, handled_bind, ← handled_fileTable_iff h]
  apply handled_congr
  rintro ⟨table, origin⟩
  rw [handled_bind, ← handled_overrideOrFail_iff {} _ table origin]
  apply handled_congr
  intro settings
  -- what the files gave has been accepted by now, so only the environment's table is left
  rw [handled_overrideOrFail_iff]
  exact iff_of_true (quotable_environmentTable _ host.environment) trivial

/-! ## Who tells about problems -/

theorem endWith_fst_ne (environment : List (String × String)) (trace : String) (verbose : Bool)
    (code : Int) (fault : Command.Fault) (error : LoadError) :
    (Command.endWith environment trace verbose code fault).1 ≠ .raised (.load error) := by
  rw [Command.endWith]
  split <;> simp

/-- No task ends with an error of the load. -/
theorem runTask_ending_ne (around : Surroundings) (log : Report.Log) (verbose : Bool)
    (settings : Settings) (task : Command.Task) (error : LoadError) :
    (Command.runTask around log verbose settings task).ending ≠ .raised (.load error) := by
  cases task with
  | serve tcp host port =>
      rw [Command.runTask, Command.runServe]
      dsimp only
      split
      · simp
      · simp
      · exact endWith_fst_ne _ _ _ _ _ _
  | check files =>
      rw [Command.runTask, Command.runCheck]
      dsimp only
      split
      · exact endWith_fst_ne _ _ _ _ _ _
      · split <;> simp

/-- A run stops at an error of the load exactly when the load is not handled. -/
theorem runInvocation_raises_iff {around : Surroundings} {invocation : Invocation}
    {task : Command.Task} {root : Path} (htask : invocation.task = some task)
    (hroot : settingsRoot around.host invocation.workspace = .ok root) :
    (∃ error, (runInvocation around invocation).ending = .raised (.load error))
      ↔ ¬ Handled (fun _ => True) (load around.host root) := by
  rw [runInvocation, htask, hroot]
  dsimp only
  cases hload : load around.host root with
  | ok settings =>
      simp only [Handled, not_true_eq_false, iff_false, not_exists]
      intro error
      rw [Command.runLogged]
      split
      · simp
      · exact runTask_ending_ne _ _ _ _ _ _
  | error error =>
      cases error with
      | refused problem =>
          simp only [Handled, not_true_eq_false, iff_false, not_exists]
          exact endWith_fst_ne _ _ _ _ _
      | _ => simp [Handled]

/-- Reloading adds the client's options to what is loaded. -/
theorem handled_reload_iff {server : Server} {entries : Table} {host : Host}
    (hoptions : server.options = .table entries)
    (hentries : Quotable host.room.quotingOptions entries) (reading : UriReading) :
    Handled (fun _ => True) (server.reload reading host)
      ↔ Handled (fun _ => True) (load host (server.workspace.rootPath reading)) := by
  rw [Server.reload, handled_bind, hoptions]
  apply handled_congr
  intro loaded
  rw [handled_bind]
  exact iff_of_true ((handled_overrideOrFail_iff loaded _ entries _).mpr hentries) trivial

/-- The server stops at an error of the load exactly when the load is not handled, as long as the
client's options can be told about. -/
theorem ready_fails_iff {server : Server} {rootUri : Option String} {entries : Table} {host : Host}
    (hclient : server.clientRoot = some rootUri) (hoptions : server.options = .table entries)
    (hentries : Quotable host.room.quotingOptions entries) (reading : UriReading) :
    (∃ error, (server.ready reading host).2 = .error (.load error))
      ↔ ¬ Handled (fun _ => True)
        (load host ((server.workspace.setRoot rootUri).rootPath reading)) := by
  obtain ⟨workspace, options, clientRoot⟩ := server
  obtain rfl : clientRoot = some rootUri := hclient
  obtain rfl : options = .table entries := hoptions
  have hreload : Handled (fun _ => True)
        (Server.reload ⟨workspace.setRoot rootUri, .table entries, some rootUri⟩ reading host)
      ↔ Handled (fun _ => True) (load host ((workspace.setRoot rootUri).rootPath reading)) :=
    handled_reload_iff rfl hentries reading
  rw [← hreload, Server.ready]
  dsimp only
  cases Server.reload ⟨workspace.setRoot rootUri, .table entries, some rootUri⟩ reading host with
  | ok reloaded => simp [Handled]
  | error error => cases error <;> simp [Handled]

/-- **Errors that pass by.** Whatever the environment says and however much room there is for nested
values, loading the settings of a directory ends with settings or with a problem exactly when the
source of the settings is sound. Any other error is one that neither a run of the program nor the
server is prepared for, however that reads the URI of its root. -/
theorem load_ends_iff_sound (host : Host) (root : Path) (found : Source)
    (hfound : source host root = .ok found) :
    (((∃ settings, load host root = .ok settings)
        ∨ ∃ problem, load host root = .error (.refused problem)) ↔ found.Sound host.room)
    ∧ (∀ (around : Surroundings) (invocation : Invocation) (task : Command.Task),
        around.host = host → invocation.task = some task →
        settingsRoot host invocation.workspace = .ok root →
        ((∃ error, (runInvocation around invocation).ending = .raised (.load error))
          ↔ ¬ found.Sound host.room))
    ∧ ∀ (server : Server) (reading : UriReading) (rootUri : Option String) (entries : Table),
        server.clientRoot = some rootUri → server.options = .table entries →
        Quotable host.room.quotingOptions entries →
        (server.workspace.setRoot rootUri).rootPath reading = root →
        ((∃ error, (server.ready reading host).2 = .error (.load error))
          ↔ ¬ found.Sound host.room) := by
  rw [← handled_iff, ← handled_load_iff hfound]
  refine ⟨Iff.rfl, ?_, ?_⟩
  · rintro around invocation task rfl htask hroot
    exact runInvocation_raises_iff htask hroot
  · rintro server reading rootUri entries hclient hoptions hentries rfl
    exact ready_fails_iff hclient hoptions hentries reading

/-- A directory that holds one file, in an environment that has its own opinion. -/
def hostWith (name : String) (bytes : List UInt8) : Host where
  files := ⟨[(["project", name], .file bytes)]⟩
  workingDirectory := ⟨.root, ["project"]⟩
  environment := [("RMC_XML_LOG_LEVEL", "Debug")]
  room := .usual

/-- A project file in which the log file is a table. -/
def tableForFile : Text := "[tool.rmcxml.log-file]".toList

theorem load_ends_iff_sound_tableForFile :
    source (hostWith projectFileName (Text.Utf8.encode tableForFile)) ⟨.root, ["project"]⟩
        = .ok (.project (Text.Utf8.encode tableForFile))
      ∧ (Source.project (Text.Utf8.encode tableForFile)).Sound .usual
      ∧ ((∃ settings, load (hostWith projectFileName (Text.Utf8.encode tableForFile))
            ⟨.root, ["project"]⟩ = .ok settings)
          ∨ ∃ problem, load (hostWith projectFileName (Text.Utf8.encode tableForFile))
            ⟨.root, ["project"]⟩ = .error (.refused problem)) := by
  have hparse : Toml.parse Room.usual.parsing tableForFile
      = .ok [("tool", .table [("rmcxml", .table [("log-file", .table [])])])] := rfl
  have hquotable : Quotable Room.usual.quoting [("log-file", .table [])] := by
    intro found hfound
    obtain rfl : (.logFile, .table []) = found := Option.some.inj hfound
    rfl
  have hsound : (Source.project (Text.Utf8.encode tableForFile)).Sound .usual := by
    refine ⟨tableForFile, Text.Utf8.decode_encode_of_ascii (by decide), ?_, ?_⟩
    · intro fault hfault
      exact absurd (hparse.symm.trans hfault) (by simp)
    · intro project hproject tools htools
      obtain rfl := Except.ok.inj (hparse.symm.trans hproject)
      obtain rfl := Option.some.inj htools
      refine ⟨_, rfl, ?_⟩
      intro table htable
      obtain rfl := Value.table.inj (Option.some.inj htable)
      exact hquotable
  obtain ⟨hends, -, -⟩ := load_ends_iff_sound
    (hostWith projectFileName (Text.Utf8.encode tableForFile)) ⟨.root, ["project"]⟩
    (.project (Text.Utf8.encode tableForFile)) rfl
  exact ⟨rfl, hsound, hends.mpr hsound⟩

/-- A byte that begins no character, and tools that are a list, are errors that pass by. -/
theorem load_passes_by :
    load (hostWith fileName [0xff]) ⟨.root, ["project"]⟩
        = .error (.undecodable ⟨0, 1, 0xff, .invalidStart⟩)
      ∧ load (hostWith projectFileName (Text.Utf8.encode "[[tool]]".toList))
          ⟨.root, ["project"]⟩ = .error (.notTable (.list [.table []]) "get") := by
  constructor
  · have hdecode : Text.Utf8.decode [0xff] = .error ⟨0, 1, 0xff, .invalidStart⟩ := by
      rw [Text.Utf8.decode, Text.Utf8.pieces]
      rfl
    have hparse : ∀ room path, parseFile room path [0xff]
        = .error (.undecodable ⟨0, 1, 0xff, .invalidStart⟩) := by
      intro room path
      rw [parseFile, hdecode]
    have htable : fileTable (hostWith fileName [0xff]) ⟨.root, ["project"]⟩
        = (do
          let table ← parseFile Room.usual.parsing ⟨.root, ["project", fileName]⟩ [0xff]
          .ok (table, "/project/rmcxml.toml")) := rfl
    rw [load, htable, hparse]
    rfl
  · have hdecode : Text.Utf8.decode (Text.Utf8.encode "[[tool]]".toList)
        = .ok "[[tool]]".toList := Text.Utf8.decode_encode_of_ascii (by decide)
    have hparse : ∀ path, parseFile Room.usual.parsing path (Text.Utf8.encode "[[tool]]".toList)
        = .ok [("tool", .list [.table []])] := by
      intro path
      rw [parseFile, hdecode]
      rfl
    have htable : fileTable (hostWith projectFileName (Text.Utf8.encode "[[tool]]".toList))
          ⟨.root, ["project"]⟩
        = projectTable Room.usual.parsing ⟨.root, ["project", projectFileName]⟩
            (Text.Utf8.encode "[[tool]]".toList) := rfl
    rw [load, htable, projectTable, hparse]
    rfl

end TagLens.Settings
