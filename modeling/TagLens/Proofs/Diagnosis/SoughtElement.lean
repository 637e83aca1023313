import TagLens.Proofs.Diagnosis.UnknownElement

/-!
# Elements that are sought by name

Two checks look for elements they know: the root has to stand somewhere in the text, and the
elements that require attributes are looked for on every line. Neither reads a name. They compare
what stands behind a `<` with the name they look for, and then look at one more character
(`StandsWhole`). Unknown elements are found the other way round: at every `<` the longest name is
read, whatever it is (`openings`).

Both ways see the same elements. A name is sought with success exactly where it is read, and this is
so of names only:

    mentions_iff_opened_iff :
      (∀ text, mentions name text = true ↔ ∃ found ∈ openings text, found.value = name) ↔ IsName name

What the two checks find can therefore be told from the openings (`sought_iff_opened`).
-/

namespace TagLens.Diagnosis

open Document (Range)
open Markup (IsName EndsName StandsWhole mentions openings)

/-! ## Seeking a name and reading names -/

section

variable {text name : Text}

/-- **What is read was set off**: some opening has the name exactly when it is a name and stands
behind a `<` with nothing behind it that lengthens it. -/
theorem exists_opened_iff :
    (∃ found ∈ openings text, found.value = name) ↔ IsName name ∧ StandsWhole name text := by
  constructor
  · rintro ⟨found, hfound, rfl⟩
    obtain ⟨tail, ⟨before, htext⟩, hread⟩ := Markup.exists_suffix_of_mem_openings hfound
    obtain ⟨hsplit, hname, hends⟩ := Markup.split_of_nameAt?_eq_some hread
    exact ⟨hname, before, tail.drop found.value.length, by rw [← hsplit, htext], hends⟩
  · rintro ⟨hname, before, after, rfl, hends⟩
    have hplace : NameAt (before ++ '<' :: (name ++ after)) before.length name :=
      nameAt_iff.mpr ⟨name ++ after, List.drop_left, Markup.nameAt?_append hname hends⟩
    exact ⟨⟨before.length, before.length + (1 + name.length), name⟩,
      mem_openings_iff.mpr ⟨hplace, rfl⟩, rfl⟩

/-- Names, and nothing else, are sought where they are read: a text that is no name is found
behind a `<` all the same, but it is never read there. -/
theorem mentions_iff_opened_iff :
    (∀ text, mentions name text = true ↔ ∃ found ∈ openings text, found.value = name)
      ↔ IsName name := by
  constructor
  · intro hagree
    have hstands : StandsWhole name ('<' :: name) := by
      refine ⟨[], [], by simp, ?_⟩
      simp [EndsName]
    have hopened := (hagree ('<' :: name)).mp (Markup.mentions_iff_standsWhole.mpr hstands)
    exact (exists_opened_iff.mp hopened).1
  · intro hname text
    rw [Markup.mentions_iff_standsWhole, exists_opened_iff, and_iff_right hname]

/-- Another name begins with the sought one only if it is longer. -/
theorem ne_iff_longer {other : Text} :
    other ≠ name ↔ (name <+: other → name.length < other.length) := by
  constructor
  · intro hne hbegins
    refine Nat.lt_of_le_of_ne hbegins.length_le ?_
    intro hlength
    exact hne (hbegins.eq_of_length hlength).symm
  · rintro hlonger rfl
    exact absurd (hlonger List.prefix_rfl) (Nat.lt_irrefl _)

end

/-! ## The two checks -/

namespace Validator

variable (validator : Validator)

/-- The elements whose required attributes are looked for on a line, in the order of the schema. -/
def considered (line : Text) : List Text :=
  validator.schema.elementsWithRequired.filter fun element => mentions element line

/-- The attributes that an element requires and a line does not assign. -/
def unassigned (element line : Text) : List Text :=
  (validator.schema.requiredOf element).filter fun attr => !Text.contains (attr ++ ['=']) line

end Validator

section

variable {validator : Validator} {text line : Text}

theorem missingAttributes_eq :
    validator.missingAttributes line
      = (validator.considered line).flatMap fun element =>
          (validator.unassigned element line).map (.missingAttribute element) := rfl

theorem checkRoot_eq_nil_iff :
    validator.checkRoot text = [] ↔ mentions validator.schema.root text = true := by
  rw [Validator.checkRoot]
  split
  · next h => simp [h]
  · next h => simp [h]

/-- There is one way to complain of the root. -/
theorem checkRoot_eq_missing_iff :
    validator.checkRoot text = [⟨documentStart, .missingRoot validator.schema.root⟩]
      ↔ validator.checkRoot text ≠ [] := by
  rw [Validator.checkRoot]
  split
  · simp
  · simp

end

/-- **Sought elements are opened elements.** Let the names that a schema has sought be names. Then
the root is found exactly when some opening of the text has its name; where its name only begins
longer names it is missing. And an element with required attributes is considered on a line exactly
when some opening of the line has its name; the check of a line within reach then reports the
considered elements in the order of the schema, each with those of its required attributes that the
line does not assign. -/
theorem sought_iff_opened (validator : Validator) (hroot : IsName validator.schema.root)
    (hrequired : ∀ element ∈ validator.schema.elementsWithRequired, IsName element) :
    (∀ text, validator.checkRoot text = []
        ↔ ∃ found ∈ openings text, found.value = validator.schema.root)
      ∧ (∀ text, validator.checkRoot text = [⟨documentStart, .missingRoot validator.schema.root⟩]
        ↔ ∀ found ∈ openings text, validator.schema.root <+: found.value →
            validator.schema.root.length < found.value.length)
      ∧ (∀ line, ∀ element ∈ validator.schema.elementsWithRequired,
        element ∈ validator.considered line
          ↔ ∃ found ∈ openings line, found.value = element)
      ∧ ∀ line (index : Nat) found, validator.checkRequired line index = .ok found
        ↔ Reachable index line.length
          ∧ found = (validator.considered line).flatMap fun element =>
              (validator.unassigned element line).map fun attr =>
                ⟨Range.onLine index 0 line.length, .missingAttribute element attr⟩ := by
  have hfound : ∀ text, validator.checkRoot text = []
      ↔ ∃ found ∈ openings text, found.value = validator.schema.root := by
    intro text
    rw [checkRoot_eq_nil_iff]
    exact mentions_iff_opened_iff.mpr hroot text
  refine ⟨hfound, ?_, ?_, ?_⟩
  · intro text
    rw [checkRoot_eq_missing_iff, ne_eq, hfound, not_exists]
    apply forall_congr'
    intro found
    rw [not_and]
    apply imp_congr_right
    intro _
    exact ne_iff_longer
  · intro line element helement
    rw [Validator.considered, List.mem_filter, and_iff_right helement]
    exact mentions_iff_opened_iff.mpr (hrequired element helement) line
  · intro line index found
    rw [checkRequired_eq_ok_iff, missingAttributes_eq, List.map_flatMap]
    simp only [List.map_map, Function.comp_def]

/-- Lists under a root with a dot in its name, which begins another name and goes on where a third
one ends. -/
def dottedSchema : Schema :=
  { listSchema with
    attributes := [("a.b".toList, ["key".toList]), ("a".toList, ["key".toList]),
      ("a.b-c".toList, ["key".toList, "id".toList])]
    required := [("a.b".toList, ["key".toList]), ("a".toList, ["key".toList]),
      ("a.b-c".toList, ["key".toList, "id".toList])]
    known := ["a.b".toList, "a".toList, "a.b-c".toList]
    root := "a.b".toList }

/-- The name of the root with another character for the dot, with a letter of another script behind
it, and as the beginning of a known element. -/
def nearNames : Text := "<aXb><a.bé/><<a.b-c id=7>".toList

theorem sought_iff_opened_nearNames :
    (openings nearNames).map (·.value) = ["aXb".toList, "a.bé".toList, "a.b-c".toList]
      ∧ Validator.checkRoot { schema := dottedSchema } nearNames
          = [⟨documentStart, .missingRoot "a.b".toList⟩]
      ∧ Validator.checkRoot { schema := dottedSchema } (nearNames ++ "<a.b".toList) = []
      ∧ Validator.checkRequired { schema := dottedSchema } nearNames 3
          = .ok [⟨Range.onLine 3 0 25, .missingAttribute "a.b-c".toList "key".toList⟩] := by
  obtain ⟨hfound, hmissing, -, hchecked⟩ :=
    sought_iff_opened { schema := dottedSchema } (by decide) (by decide)
  refine ⟨by decide +kernel, ?_, ?_, ?_⟩
  · exact (hmissing nearNames).mpr (by decide +kernel)
  · exact (hfound (nearNames ++ "<a.b".toList)).mpr (by decide +kernel)
  · exact (hchecked nearNames 3 _).mpr ⟨by decide, by decide⟩

end TagLens.Diagnosis
