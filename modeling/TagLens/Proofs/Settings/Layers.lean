import TagLens.Proofs.Settings.Handled

/-!
# Settings in layers

Settings are changed by several tables one after the other: those of a file, of the environment and
of a client. The last word counts, field by field (`overrideAll_cases`): whatever the spelling of
its name and whichever the table, a field ends up with the last value that was given to it. A value
that does not fit stops everything at the first entry that has one.

The induction is over entries and then over layers. What it carries is `Field.Changed`: a field has
the value that it was given last, or the one it had. Two such changes in a row are one
(`Field.Changed.trans`), and a field that has changed is left alone by the same change
(`Field.Changed.again`).
-/

namespace TagLens.Settings

open Location (Path)

/-! ## Fields and what they hold -/

/-- What a field holds. -/
def Field.Content : Field → Type
  | .diagnosticSource | .logLevel => String
  | .checkStructure | .requireDeclaration => Bool
  | .logFile => Option Path

def get (settings : Settings) : (field : Field) → field.Content
  | .diagnosticSource => settings.diagnosticSource
  | .checkStructure => settings.checkStructure
  | .requireDeclaration => settings.requireDeclaration
  | .logLevel => settings.logLevel
  | .logFile => settings.logFile

/-- What a value means to a field, if it fits. -/
def Field.coerce? : (field : Field) → Value → Option field.Content
  | .diagnosticSource, value => text? value
  | .checkStructure, value | .requireDeclaration, value => truth? value
  | .logLevel, value => (text? value).map Text.lowerString
  | .logFile, value => (path? value).map some

theorem eq_of_get_eq {first second : Settings} (h : ∀ field, first.get field = second.get field) :
    first = second := by
  obtain ⟨source, structure_, declaration, level, file⟩ := first
  obtain rfl : source = _ := h .diagnosticSource
  obtain rfl : structure_ = _ := h .checkStructure
  obtain rfl : declaration = _ := h .requireDeclaration
  obtain rfl : level = _ := h .logLevel
  obtain rfl : file = _ := h .logFile
  rfl

theorem Field.accepts_eq (field : Field) (value : Value) :
    field.accepts value = (field.coerce? value).isSome := by
  cases field with
  | diagnosticSource | checkStructure | requireDeclaration => rfl
  | logLevel | logFile => exact Option.isSome_map.symm

section

variable {settings changed : Settings} {field : Field} {value : Value}
  (h : settings.set? field value = some changed)

include h

/-- A field that is set holds what the value means. -/
theorem coerce?_of_set? : field.coerce? value = some (changed.get field) := by
  cases field <;> obtain ⟨content, hcontent, rfl⟩ := Option.map_eq_some_iff.mp h
  case logLevel | logFile => exact congrArg (Option.map _) hcontent
  all_goals exact hcontent

/-- The other fields stay as they are. -/
theorem get_of_set? {other : Field} (hne : other ≠ field) :
    changed.get other = settings.get other := by
  cases field <;> obtain ⟨content, -, rfl⟩ := Option.map_eq_some_iff.mp h <;>
    cases other <;> first | rfl | exact absurd rfl hne

end

/-! ## What entries give to a field -/

/-- The value that an entry gives to a field. -/
def Field.givenBy? (field : Field) (entry : String × Value) : Option Value :=
  if !isIdle entry && Field.ofKey? entry.1 == some field then some entry.2 else none

/-- The last value that the entries give to a field. -/
def Field.givenLast? (field : Field) (table : Table) : Option Value :=
  (table.filterMap field.givenBy?).getLast?

namespace Field

variable (field : Field)

theorem givenLast?_append (first second : Table) :
    field.givenLast? (first ++ second)
      = (field.givenLast? second).or (field.givenLast? first) := by
  rw [givenLast?, List.filterMap_append, List.getLast?_append]
  rfl

theorem givenLast?_cons (entry : String × Value) (table : Table) :
    field.givenLast? (entry :: table)
      = (field.givenLast? table).or (field.givenBy? entry) := by
  have happend := field.givenLast?_append [entry] table
  rw [List.singleton_append] at happend
  rw [happend, givenLast?, givenLast?]
  cases hgiven : field.givenBy? entry <;> simp [hgiven]

/-- The field has the value that it was given, or none was given and it is as it was. -/
def Changed (settings : Settings) (given : Option Value) (result : Settings) : Prop :=
  match given with
  | none => result.get field = settings.get field
  | some value => field.coerce? value = some (result.get field)

namespace Changed

variable {field} {settings middle result : Settings} {first second : Option Value}

/-- Two changes in a row are one, with the later value before the earlier one. -/
theorem trans (hfirst : field.Changed settings first middle)
    (hsecond : field.Changed middle second result) :
    field.Changed settings (second.or first) result := by
  cases second with
  | some value => exact hsecond
  | none =>
      have hkept : result.get field = middle.get field := hsecond
      cases first with
      | none => exact hkept.trans hfirst
      | some value =>
          show field.coerce? value = some (result.get field)
          rw [hkept]
          exact hfirst

/-- The same change made once more changes nothing. -/
theorem again (hfirst : field.Changed settings first middle)
    (hsecond : field.Changed middle first result) : result.get field = middle.get field := by
  cases first with
  | none => exact hsecond
  | some value => exact Option.some.inj (hsecond.symm.trans hfirst)

end Changed
end Field

/-! ## One table -/

/-- **One entry** that is no misfit gives its value to its field and nothing to the others. -/
theorem applyEntry_changed {entry : String × Value} (h : misfit? entry = none) (origin : String)
    (settings : Settings) :
    ∃ changed, applyEntry origin settings entry = .ok changed
      ∧ ∀ field : Field, field.Changed settings (field.givenBy? entry) changed := by
  rcases isIdle_cases entry with hidle | ⟨hidle, target, htarget, hnull⟩
  · refine ⟨settings, applyEntry_of_isIdle hidle origin settings, ?_⟩
    intro field
    rw [Field.givenBy?, hidle]
    rfl
  · obtain ⟨key, value⟩ := entry
    rw [misfit?_of_ne_null htarget hnull, ← isSome_set? settings] at h
    rw [applyEntry_of_ne_null htarget hnull]
    cases hset : settings.set? target value with
    | none => simp [hset] at h
    | some changed =>
        refine ⟨changed, rfl, ?_⟩
        intro field
        rw [Field.givenBy?, hidle, htarget]
        by_cases hfield : field = target
        · subst hfield
          rw [if_pos (by simp)]
          exact coerce?_of_set? hset
        · rw [if_neg (by simp [Ne.symm hfield])]
          exact get_of_set? hset hfield

/-- **A table** without misfits gives each field the last value that it has for it. -/
theorem override_changed {table : Table} (h : ∀ entry ∈ table, misfit? entry = none)
    (origin : String) (settings : Settings) :
    ∃ changed, settings.override table origin = .ok changed
      ∧ ∀ field : Field, field.Changed settings (field.givenLast? table) changed := by
  induction table generalizing settings with
  | nil => exact ⟨settings, rfl, fun _ => rfl⟩
  | cons entry table ih =>
      obtain ⟨hentry, htable⟩ := List.forall_mem_cons.mp h
      obtain ⟨middle, hmiddle, hfirst⟩ := applyEntry_changed hentry origin settings
      obtain ⟨changed, hchanged, hsecond⟩ := ih htable middle
      refine ⟨changed, ?_, ?_⟩
      · rw [override, List.foldlM_cons, hmiddle]
        exact hchanged
      · intro field
        rw [field.givenLast?_cons]
        exact (hfirst field).trans (hsecond field)

/-- Entries without a say can be left out. -/
theorem override_filter (table : Table) (origin : String) (settings : Settings) :
    settings.override (table.filter fun entry => !isIdle entry) origin
      = settings.override table origin := by
  have hskip : (fun changed entry =>
      if (!isIdle entry) = true then applyEntry origin changed entry else pure changed)
      = applyEntry origin := by
    funext changed entry
    by_cases hidle : isIdle entry = true
    · rw [if_neg (by simp [hidle]), applyEntry_of_isIdle hidle]
      rfl
    · rw [if_pos (by simpa using hidle)]
  rw [override, List.foldlM_filter, hskip]
  rfl

/-- A table that is accepted gives each field the last value that it has for it. -/
theorem changed_of_override {table : Table} {origin : String} {settings changed : Settings}
    (h : settings.override table origin = .ok changed) (field : Field) :
    field.Changed settings (field.givenLast? table) changed := by
  rcases override_cases table origin settings with
    ⟨hnone, -⟩ | ⟨other, value, -, herror⟩
  · obtain ⟨result, hresult, hchanged⟩ :=
      override_changed (List.findSome?_eq_none_iff.mp hnone) origin settings
    obtain rfl := Except.ok.inj (h.symm.trans hresult)
    exact hchanged field
  · rw [herror] at h
    exact absurd h (by simp)

/-- What a table says a second time changes nothing. -/
theorem override_again (table : Table) (origin : String) {settings changed : Settings}
    (h : settings.override table origin = .ok changed) :
    changed.override table origin = .ok changed := by
  rcases override_cases table origin changed with
    ⟨-, result, hresult⟩ | ⟨field, value, hsome, -⟩
  · rw [hresult, eq_of_get_eq fun field =>
      (changed_of_override h field).again (changed_of_override hresult field)]
  · rcases override_cases table origin settings with ⟨hnone, -⟩ | ⟨other, given, -, herror⟩
    · exact absurd (hnone.symm.trans hsome) (by simp)
    · exact absurd (h.symm.trans herror) (by simp)

/-! ## One table after the other -/

/-- A table, where it comes from, and the room to quote its values. -/
structure Layer where
  table : Table
  origin : String
  room : Nat

/-- The layer without the entries that have no say. -/
def Layer.relevant (layer : Layer) : Layer :=
  { layer with table := layer.table.filter fun entry => !isIdle entry }

/-- Change settings by tables, one after the other. -/
def overrideAll (settings : Settings) (layers : List Layer) : Except LoadError Settings :=
  layers.foldlM
    (fun changed layer => changed.overrideOrFail layer.room layer.table layer.origin) settings

/-- **Layers** without misfits give each field the last value that they have for it. -/
theorem overrideAll_changed {layers : List Layer}
    (h : ∀ entry ∈ layers.flatMap Layer.table, misfit? entry = none) (settings : Settings) :
    ∃ changed, settings.overrideAll layers = .ok changed
      ∧ ∀ field : Field,
        field.Changed settings (field.givenLast? (layers.flatMap Layer.table)) changed := by
  induction layers generalizing settings with
  | nil => exact ⟨settings, rfl, fun _ => rfl⟩
  | cons layer layers ih =>
      rw [List.flatMap_cons] at h ⊢
      obtain ⟨hlayer, hlayers⟩ := List.forall_mem_append.mp h
      obtain ⟨middle, hmiddle, hfirst⟩ := override_changed hlayer layer.origin settings
      obtain ⟨changed, hchanged, hsecond⟩ := ih hlayers middle
      refine ⟨changed, ?_, ?_⟩
      · rw [overrideAll, List.foldlM_cons, overrideOrFail, hmiddle]
        exact hchanged
      · intro field
        rw [field.givenLast?_append]
        exact (hfirst field).trans (hsecond field)

/-- The first misfit ends everything, whatever follows it. -/
theorem overrideAll_refused {earlier : List Layer} {layer : Layer} {field : Field} {value : Value}
    (hearlier : ∀ entry ∈ earlier.flatMap Layer.table, misfit? entry = none)
    (hmisfit : layer.table.findSome? misfit? = some (field, value)) (later : List Layer)
    (settings : Settings) :
    settings.overrideAll (earlier ++ layer :: later)
      = .error (.ofProblem layer.room (.misfit field value layer.origin)) := by
  obtain ⟨middle, hmiddle, -⟩ := overrideAll_changed hearlier settings
  rw [overrideAll] at hmiddle
  rw [overrideAll, List.foldlM_append, hmiddle]
  show overrideAll middle (layer :: later) = _
  rw [overrideAll, List.foldlM_cons, overrideOrFail]
  rcases override_cases layer.table layer.origin middle with
    ⟨hnone, -⟩ | ⟨other, given, hsome, herror⟩
  · rw [hmisfit] at hnone
    exact absurd hnone (by simp)
  · obtain ⟨rfl, rfl⟩ := Prod.mk.inj (Option.some.inj (hmisfit.symm.trans hsome))
    rw [herror]
    rfl

theorem overrideAll_relevant (layers : List Layer) (settings : Settings) :
    settings.overrideAll (layers.map Layer.relevant) = settings.overrideAll layers := by
  rw [overrideAll, List.foldlM_map]
  simp only [Layer.relevant, overrideOrFail, override_filter]
  rfl

theorem overrideAll_twice (earlier later : List Layer) (layer : Layer) (settings : Settings) :
    settings.overrideAll (earlier ++ layer :: layer :: later)
      = settings.overrideAll (earlier ++ layer :: later) := by
  rw [overrideAll, overrideAll, List.foldlM_append, List.foldlM_append]
  congr 1
  funext middle
  rw [List.foldlM_cons, List.foldlM_cons, overrideOrFail]
  cases hfirst : middle.override layer.table layer.origin with
  | error problem => rfl
  | ok changed =>
      show (changed.overrideOrFail layer.room layer.table layer.origin >>= _) = _
      rw [overrideOrFail, override_again _ _ hfirst]

/-- A misfit is an entry for a field with a value that means nothing to it. -/
theorem exists_of_misfit? {entry : String × Value} {field : Field} {value : Value}
    (h : misfit? entry = some (field, value)) :
    Field.ofKey? entry.1 = some field ∧ entry.2 = value ∧ value ≠ .null
      ∧ field.coerce? value = none := by
  rcases isIdle_cases entry with hidle | ⟨-, target, htarget, hnull⟩
  · rw [misfit?_of_isIdle hidle] at h
    exact absurd h (by simp)
  · rw [misfit?_of_ne_null htarget hnull, Field.accepts_eq] at h
    split at h
    · exact absurd h (by simp)
    · next hfits =>
        obtain ⟨rfl, rfl⟩ := Prod.mk.inj (Option.some.inj h)
        exact ⟨htarget, rfl, hnull, by simpa using hfits⟩

/-- **The last word counts.** Tables that are applied one after the other are refused for the first
entry, in their order, that names a field and has a value which neither is null nor means anything
to the field; the problem names the field, the value and the origin of its table, and an error of
another kind takes its place only if the value cannot be quoted in the room there is. Without such
an entry each field ends up with the last value that any of the tables has for it, or stays as it
is. Unknown names and null values never matter, and neither does a table that is applied a second
time. -/
theorem overrideAll_cases (settings : Settings) (layers : List Layer) :
    ((∃ earlier layer later before entry after field,
        layers = earlier ++ layer :: later ∧ layer.table = before ++ entry :: after
        ∧ (∀ passed ∈ earlier.flatMap Layer.table ++ before, misfit? passed = none)
        ∧ Field.ofKey? entry.1 = some field ∧ entry.2 ≠ .null ∧ field.coerce? entry.2 = none
        ∧ settings.overrideAll layers
          = .error (match entry.2.quoteFault? layer.room with
            | none => .refused (.misfit field entry.2 layer.origin)
            | some fault => .unquotable fault))
      ∨ ((∀ entry ∈ layers.flatMap Layer.table, misfit? entry = none)
        ∧ ∃ result, settings.overrideAll layers = .ok result
          ∧ ∀ field : Field, match field.givenLast? (layers.flatMap Layer.table) with
            | none => result.get field = settings.get field
            | some value => field.coerce? value = some (result.get field)))
    ∧ settings.overrideAll (layers.map Layer.relevant) = settings.overrideAll layers
    ∧ ∀ earlier layer later, settings.overrideAll (earlier ++ layer :: layer :: later)
      = settings.overrideAll (earlier ++ layer :: later) := by
  refine ⟨?_, overrideAll_relevant layers settings,
    fun earlier layer later => overrideAll_twice earlier later layer settings⟩
  cases hfound : layers.findSome? fun layer => layer.table.findSome? misfit? with
  | none =>
      right
      have hfits : ∀ entry ∈ layers.flatMap Layer.table, misfit? entry = none := by
        intro entry hentry
        obtain ⟨layer, hlayer, hentry⟩ := List.mem_flatMap.mp hentry
        exact List.findSome?_eq_none_iff.mp (List.findSome?_eq_none_iff.mp hfound layer hlayer)
          entry hentry
      exact ⟨hfits, overrideAll_changed hfits settings⟩
  | some found =>
      left
      obtain ⟨field, value⟩ := found
      obtain ⟨earlier, layer, later, rfl, hlayer, hearlier⟩ :=
        List.findSome?_eq_some_iff.mp hfound
      obtain ⟨before, entry, after, htable, hentry, hbefore⟩ :=
        List.findSome?_eq_some_iff.mp hlayer
      obtain ⟨hfield, rfl, hnull, hcoerce⟩ := exists_of_misfit? hentry
      have hpassed : ∀ passed ∈ earlier.flatMap Layer.table, misfit? passed = none := by
        intro passed hpassed
        obtain ⟨other, hother, hpassed⟩ := List.mem_flatMap.mp hpassed
        exact List.findSome?_eq_none_iff.mp (hearlier other hother) passed hpassed
      refine ⟨earlier, layer, later, before, entry, after, field, rfl, htable,
        List.forall_mem_append.mpr ⟨hpassed, hbefore⟩, hfield, hnull, hcoerce, ?_⟩
      exact overrideAll_refused hpassed hlayer later settings

theorem quoteFault?_integer {value : Int} (h : Text.isWritable value = false) (room : Nat) :
    (Value.integer value).quoteFault? room = some .overlongInteger := by
  have hwithin : (Value.integer value).quoteFaultWithin? (room + 1)
      = if Text.isWritable value then none else some .overlongInteger := rfl
  rw [Value.quoteFault?, hwithin, h, if_neg (by simp)]

/-- An integer of 4302 digits. -/
def hugeInteger : Int := Int.ofNat (Nat.pow 16 3572 - 1)

/-- A misfit that cannot be quoted is not reported as a problem. -/
theorem overrideAll_hugeInteger :
    ({} : Settings).overrideAll
        [⟨[("check_structure", .integer hugeInteger)], fileName, Room.usual.quoting⟩]
      = .error (.unquotable .overlongInteger) := by
  have hwritable : Text.isWritable hugeInteger = false := by decide +kernel
  show Except.error (LoadError.ofProblem Room.usual.quoting
    (.misfit .checkStructure (.integer hugeInteger) fileName)) = _
  rw [LoadError.ofProblem, Problem.quoteFault?, quoteFault?_integer hwritable]

end TagLens.Settings
