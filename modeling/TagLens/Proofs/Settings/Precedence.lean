import TagLens.Proofs.Location.FileTree
import TagLens.Proofs.Outcome
import TagLens.Proofs.Settings.Layers

/-!
# Which source of settings decides

Three sources have a say in the settings of a directory: a settings file, or else the tool's entry
in a project file, and the environment. A settings file makes the project file irrelevant, and of a
project file nothing counts but the tool's entry. Field by field the environment comes first, then
the file, then the defaults; but a file is read as a whole, so a value in it that does not fit is an
error even where the environment has another one (`load_precedence`).

`Chosen` says which table the files of a directory give, without saying how it is found.
-/

namespace TagLens.Settings

open Location (FileTree Path)

/-! ## The table that the files give -/

/-- The tools of a project are a table, if there are any. -/
def ToolsTabled (project : Table) : Prop :=
  ∀ tools, project.lookup "tool" = some tools → ∃ entries, tools = .table entries

/-- What a project file says about this tool; anything but a table counts as nothing. -/
def toolEntry (project : Table) : Table :=
  match project.lookup "tool" with
  | some (.table tools) =>
    match tools.lookup toolName with
    | some (.table table) => table
    | _ => []
  | _ => []

/-- The table that the files of a directory give. -/
inductive Chosen (host : Host) (root : Path) : Table → Prop where
  | dedicated {bytes : List UInt8} {table : Table} :
    source host root = .ok (.dedicated bytes) →
    parseFile host.room.parsing (root.child fileName) bytes = .ok table → Chosen host root table
  | project {bytes : List UInt8} {project : Table} :
    source host root = .ok (.project bytes) →
    parseFile host.room.parsing (root.child projectFileName) bytes = .ok project →
    ToolsTabled project → Chosen host root (toolEntry project)
  | defaults : source host root = .ok .defaults → Chosen host root []

theorem toolTable?_of_tabled {project : Table} (h : ToolsTabled project) :
    ∃ table?, toolTable? project = .ok table? ∧ table?.getD [] = toolEntry project := by
  cases htool : project.lookup "tool" with
  | none =>
      simp only [toolTable?, toolEntry, htool]
      exact ⟨none, rfl, rfl⟩
  | some tools =>
      obtain ⟨entries, rfl⟩ := h tools htool
      cases hentry : entries.lookup toolName with
      | none => simp [toolTable?, toolEntry, htool, hentry]
      | some value => cases value <;> simp [toolTable?, toolEntry, htool, hentry]

theorem tabled_of_toolTable? {project : Table} {table? : Option Table}
    (h : toolTable? project = .ok table?) : ToolsTabled project := by
  intro tools htools
  rw [toolTable?, htools] at h
  cases tools with
  | table entries => exact ⟨entries, rfl⟩
  | _ => exact absurd h (by simp)

/-- Where the tool's entry is said to come from. -/
def entryOrigin (root : Path) : String :=
  (root.child projectFileName).render ++ " [tool." ++ toolName ++ "]"

/-- A project file gives the tool's entry; its origin can be another one only if the entry is
empty. -/
theorem table_project {room : Nat} {root : Path} {bytes : List UInt8} {project : Table}
    (hparse : parseFile room (root.child projectFileName) bytes = .ok project)
    (htabled : ToolsTabled project) :
    ∃ origin, (Source.project bytes).table room root = .ok (toolEntry project, origin)
      ∧ (toolEntry project = [] ∨ origin = entryOrigin root) := by
  obtain ⟨table?, htable, hentry⟩ := toolTable?_of_tabled htabled
  rw [Source.table, projectTable, hparse, ← hentry]
  simp only [bind, Except.bind, htable]
  cases table? with
  | none => exact ⟨_, rfl, .inl rfl⟩
  | some table => exact ⟨_, rfl, .inr rfl⟩

/-- A table is chosen exactly when it is the one that is read. -/
theorem chosen_iff {host : Host} {root : Path} {table : Table} :
    Chosen host root table ↔ ∃ origin, fileTable host root = .ok (table, origin) := by
  constructor
  · rintro (⟨hsource, hparse⟩ | ⟨hsource, hparse, htabled⟩ | hsource)
    · rw [fileTable_of_source hsource, Source.table, hparse]
      exact ⟨_, rfl⟩
    · obtain ⟨origin, htable, -⟩ := table_project hparse htabled
      exact ⟨origin, (fileTable_of_source hsource).trans htable⟩
    · rw [fileTable_of_source hsource]
      exact ⟨_, rfl⟩
  · rintro ⟨origin, htable⟩
    cases hsource : source host root with
    | error error =>
        rw [fileTable_eq, hsource] at htable
        exact absurd htable (by simp [Except.mapError, bind, Except.bind])
    | ok found =>
        rw [fileTable_of_source hsource] at htable
        cases found with
        | defaults =>
            obtain ⟨rfl, -⟩ := Prod.mk.inj (Except.ok.inj htable)
            exact .defaults hsource
        | dedicated bytes =>
            rw [Source.table] at htable
            obtain ⟨held, hparse, hheld⟩ := exists_of_bind_eq_ok htable
            obtain ⟨rfl, -⟩ := Prod.mk.inj (Except.ok.inj hheld)
            exact .dedicated hsource hparse
        | project bytes =>
            rw [Source.table, projectTable] at htable
            obtain ⟨project, hparse, hproject⟩ := exists_of_bind_eq_ok htable
            obtain ⟨table?, htool, -⟩ := exists_of_bind_eq_ok hproject
            have htabled := tabled_of_toolTable? htool
            obtain ⟨other, hother, -⟩ := table_project hparse htabled
            rw [Source.table, projectTable, htable] at hother
            obtain ⟨rfl, -⟩ := Prod.mk.inj (Except.ok.inj hother)
            exact .project hsource hparse htabled

/-! ## The environment -/

theorem variable_eq (field : Field) :
    field.variable_ = "RMC_XML_" ++ String.ofList (field.name.toList.map Char.toUpper) := by
  cases field <;> rfl

theorem ofKey?_name (field : Field) : Field.ofKey? field.name = some field := by
  cases field <;> rfl

/-- The environment gives a field at most one value, that of its variable. -/
theorem givenLast?_environmentTable (field : Field) (environment : List (String × String)) :
    field.givenLast? (environmentTable environment)
      = (environment.lookup field.variable_).map .text := by
  have hgiven : ∀ other : Field, ((environment.lookup other.variable_).map fun value =>
      (other.name, Value.text value)).bind field.givenBy?
        = if other = field then (environment.lookup field.variable_).map .text else none := by
    intro other
    cases hvalue : environment.lookup other.variable_ with
    | none =>
        by_cases h : other = field
        · subst h
          simp [hvalue]
        · simp [h]
    | some value =>
        have hidle : isIdle (other.name, .text value) = false := by
          rw [isIdle, ofKey?_name]
        rw [Option.map_some, Option.bind_some, Field.givenBy?, hidle, ofKey?_name]
        by_cases h : other = field
        · subst h
          simp [hvalue]
        · simp [h]
  rw [Field.givenLast?, environmentTable, List.filterMap_filterMap]
  simp only [hgiven]
  generalize (environment.lookup field.variable_).map Value.text = given
  cases field <;> cases given <;> rfl

/-! ## Loading -/

theorem bytes_of_dedicated {host : Host} {root : Path} {bytes : List UInt8}
    (h : source host root = .ok (.dedicated bytes)) :
    host.files.regularFile? host.workingDirectory (root.child fileName) = .ok (some bytes) := by
  rw [source] at h
  obtain ⟨dedicated?, hdedicated, h⟩ := exists_of_bind_eq_ok h
  cases dedicated? with
  | some held =>
      obtain rfl := Source.dedicated.inj (Except.ok.inj h)
      exact hdedicated
  | none =>
      obtain ⟨project?, -, h⟩ := exists_of_bind_eq_ok h
      cases project? <;> exact absurd h (by simp)

/-- What a project file has to say about the settings is the tool's entry. -/
theorem load_of_project {host : Host} {root : Path} {bytes : List UInt8} {project : Table}
    (hsource : source host root = .ok (.project bytes))
    (hparse : parseFile host.room.parsing (root.child projectFileName) bytes = .ok project)
    (htabled : ToolsTabled project) :
    load host root = (do
      let settings ← overrideOrFail {} host.room.quoting (toolEntry project) (entryOrigin root)
      settings.overrideOrFail host.room.quoting (environmentTable host.environment)
        "environment") := by
  obtain ⟨origin, htable, horigin⟩ := table_project hparse htabled
  rw [load, fileTable_of_source hsource, htable]
  rcases horigin with hempty | rfl
  · rw [hempty]
    rfl
  · rfl

/-- Loaded settings hold what the environment gives, else what the files give, else the defaults. -/
theorem changed_of_load {host : Host} {root : Path} {settings : Settings}
    (h : load host root = .ok settings) :
    ∃ table, Chosen host root table ∧ ∀ field : Field, field.Changed {}
      (((host.environment.lookup field.variable_).map .text).or (field.givenLast? table))
      settings := by
  rw [load] at h
  obtain ⟨⟨table, origin⟩, htable, h⟩ := exists_of_bind_eq_ok h
  obtain ⟨middle, hfile, henvironment⟩ := exists_of_bind_eq_ok h
  refine ⟨table, chosen_iff.mpr ⟨origin, htable⟩, ?_⟩
  intro field
  rw [← givenLast?_environmentTable]
  exact (changed_of_override (mapError_eq_ok hfile) field).trans
    (changed_of_override (mapError_eq_ok henvironment) field)

/-- A misfit in the files is an error, whatever the environment says. -/
theorem load_of_misfit {host : Host} {root : Path} {table : Table} (h : Chosen host root table)
    {entry : String × Value} (hentry : entry ∈ table) {field : Field}
    (hfield : Field.ofKey? entry.1 = some field) (hnull : entry.2 ≠ .null)
    (hmisfit : field.coerce? entry.2 = none) (environment : List (String × String)) :
    ∃ error, load { host with environment } root = .error error := by
  obtain ⟨origin, htable⟩ := chosen_iff.mp h
  have hsame : fileTable { host with environment } root = .ok (table, origin) := htable
  have hfound : misfit? entry = some (field, entry.2) := by
    rw [misfit?_of_ne_null hfield hnull, Field.accepts_eq, hmisfit]
    rfl
  rw [load, hsame]
  rcases override_cases table origin {} with ⟨hnone, -⟩ | ⟨other, value, -, herror⟩
  · have hnone := List.findSome?_eq_none_iff.mp hnone entry hentry
    exact absurd (hnone.symm.trans hfound) (by simp)
  · refine ⟨.ofProblem host.room.quoting (.misfit other value origin), ?_⟩
    show (overrideOrFail {} host.room.quoting table origin >>= _) = _
    rw [overrideOrFail, herror]
    rfl

/-- **Which source decides**, in the same environment and with the same room for nested values. A
settings file decides alone among the files: whatever stands in the place of the project file, the
outcome is the same. Without one, project files that are read and whose tools are a table, if there
are any, lead to the same outcome as soon as they have the same entry for this tool, where no entry,
or one that is no table, is as good as an empty one. Settings that are loaded have in each field
what the variable of the environment means to it, or else the last value that the chosen file has
for it, under whichever spelling of its name, or else the default. A value in the chosen file that
means nothing to its field is an error under every environment. -/
theorem load_precedence (host other : Host) (root : Path)
    (hdirectory : other.workingDirectory = host.workingDirectory)
    (henvironment : other.environment = host.environment) (hroom : other.room = host.room) :
    (∀ bytes otherBytes, source host root = .ok (.dedicated bytes) →
        source other root = .ok (.dedicated otherBytes) →
        FileTree.AgreeApartFrom projectFileName host.files other.files →
        load other root = load host root)
      ∧ (∀ bytes project otherBytes otherProject, source host root = .ok (.project bytes) →
        parseFile host.room.parsing (root.child projectFileName) bytes = .ok project →
        ToolsTabled project →
        source other root = .ok (.project otherBytes) →
        parseFile other.room.parsing (root.child projectFileName) otherBytes = .ok otherProject →
        ToolsTabled otherProject → toolEntry otherProject = toolEntry project →
        load other root = load host root)
      ∧ (∀ settings, load host root = .ok settings → ∃ table, Chosen host root table
        ∧ ∀ field : Field,
          match host.environment.lookup
              ("RMC_XML_" ++ String.ofList (field.name.toList.map Char.toUpper)) with
          | some word => field.coerce? (.text word) = some (settings.get field)
          | none =>
            match field.givenLast? table with
            | none => settings.get field = ({} : Settings).get field
            | some value => field.coerce? value = some (settings.get field))
      ∧ ∀ table entry field, Chosen host root table → entry ∈ table →
        Field.ofKey? entry.1 = some field → entry.2 ≠ .null → field.coerce? entry.2 = none →
        ∀ environment, ∃ error, load { host with environment } root = .error error := by
  refine ⟨?_, ?_, ?_, ?_⟩
  · intro bytes otherBytes hsource hother hagree
    have hbytes := bytes_of_dedicated hother
    rw [hdirectory] at hbytes
    obtain rfl := hagree.bytes_eq (by decide) (by decide) (bytes_of_dedicated hsource) hbytes
    rw [load, load, fileTable_of_source hsource, fileTable_of_source hother, henvironment, hroom]
  · intro bytes project otherBytes otherProject hsource hparse htabled hother hotherParse
      hotherTabled hentry
    rw [load_of_project hsource hparse htabled, load_of_project hother hotherParse hotherTabled,
      hentry, henvironment, hroom]
  · intro settings hload
    obtain ⟨table, hchosen, hchanged⟩ := changed_of_load hload
    refine ⟨table, hchosen, ?_⟩
    intro field
    have hfield := hchanged field
    rw [variable_eq] at hfield
    split
    · next word hword =>
        rw [hword] at hfield
        exact hfield
    · next hword =>
        rw [hword, Option.map_none, Option.none_or] at hfield
        exact hfield
  · intro table entry field hchosen hentry hfield hnull hmisfit environment
    exact load_of_misfit hchosen hentry hfield hnull hmisfit environment

/-- A settings file with a field under both spellings. -/
def spelledTwice : Text := "log-file='a'\nlog_file='b'".toList

/-- A host with that file alone. -/
def fileHost : Host := hostWith fileName (Text.Utf8.encode spelledTwice)

/-- The host once a project file, which is not even well formed, has been put beside it. -/
def bothHost : Host :=
  { fileHost with
    files := fileHost.files.put ["project", projectFileName] (Text.Utf8.encode ['[']) }

theorem load_precedence_bothHost :
    FileTree.AgreeApartFrom projectFileName fileHost.files bothHost.files
      ∧ load bothHost ⟨.root, ["project"]⟩ = load fileHost ⟨.root, ["project"]⟩
      ∧ load fileHost ⟨.root, ["project"]⟩
        = .ok { logLevel := "debug", logFile := some ⟨.relative, ["b"]⟩ }
      ∧ ∀ environment, ∃ error,
        load { hostWith projectFileName (Text.Utf8.encode tableForFile) with environment }
          ⟨.root, ["project"]⟩ = .error error := by
  have hentry : (["project", fileName], Location.Node.file (Text.Utf8.encode spelledTwice))
      ∈ fileHost.files.entries := List.mem_singleton.mpr rfl
  have hagree : FileTree.AgreeApartFrom projectFileName fileHost.files bothHost.files :=
    FileTree.agreeApartFrom_put hentry (List.prefix_append ["project"] [fileName])
      projectFileName (Text.Utf8.encode ['['])
  have hload : load fileHost ⟨.root, ["project"]⟩
      = .ok { logLevel := "debug", logFile := some ⟨.relative, ["b"]⟩ } :=
    eq_ok_of_toOption (by decide +kernel)
  have hproject : parseFile Room.usual.parsing ⟨.root, ["project", projectFileName]⟩
        (Text.Utf8.encode tableForFile)
      = .ok [("tool", .table [("rmcxml", .table [("log-file", .table [])])])] := by
    rw [parseFile, Text.Utf8.decode_encode_of_ascii (by decide)]
    rfl
  have htabled : ToolsTabled [("tool", .table [("rmcxml", .table [("log-file", .table [])])])] := by
    intro tools htools
    obtain rfl := Option.some.inj htools
    exact ⟨_, rfl⟩
  obtain ⟨hsame, -, -, -⟩ := load_precedence fileHost bothHost ⟨.root, ["project"]⟩ rfl rfl rfl
  obtain ⟨-, -, -, hfails⟩ := load_precedence
    (hostWith projectFileName (Text.Utf8.encode tableForFile)) _ ⟨.root, ["project"]⟩ rfl rfl rfl
  refine ⟨hagree, hsame _ _ rfl rfl hagree, hload, ?_⟩
  exact hfails _ ("log-file", .table []) .logFile (.project rfl hproject htabled)
    (List.mem_singleton.mpr rfl) rfl (by simp) rfl

end TagLens.Settings
