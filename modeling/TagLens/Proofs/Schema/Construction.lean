import Mathlib.Data.List.Basic
import TagLens.Schema.Basic

/-!
# Which tables make a schema

Tables are accepted exactly when they are consistent: a document can begin with some element, and
every required attribute is declared (`ofTables_consistent`). The first complaint is about the
document; after it, the table of required attributes is gone through in order, and the complaint
names its first element at fault with everything that this element lacks.

An accepted schema says what the tables say, each list without its repetitions (`FirstMentions`),
and the elements that it knows are closed under what the other look-ups mention (`Reflects`).
-/

namespace TagLens.Schema

open Markup (documentRoot)

/-! ## Lists without repetitions -/

/-- The names of a list, each where it is mentioned first. -/
structure FirstMentions (given kept : List Text) : Prop where
  mem_iff : ∀ name, name ∈ kept ↔ name ∈ given
  /-- Also, no name stands twice, since it does not come before itself. -/
  ordered : kept.Pairwise fun first second => given.idxOf first < given.idxOf second

/-- Leaving names out does not change which of two others comes first. -/
theorem idxOf_filter_lt_iff {keep : Text → Bool} {first second : Text} (hfirst : keep first = true)
    (hsecond : keep second = true) (names : List Text) :
    (names.filter keep).idxOf first < (names.filter keep).idxOf second
      ↔ names.idxOf first < names.idxOf second := by
  induction names with
  | nil => simp
  | cons name names ih =>
      have hne : ∀ {kept}, keep name = false → keep kept = true → name ≠ kept := by
        rintro kept hname hkept rfl
        simp [hname] at hkept
      cases hname : keep name with
      | false =>
          rw [List.filter_cons_of_neg (by simp [hname]), ih,
            List.idxOf_cons_ne _ (hne hname hfirst), List.idxOf_cons_ne _ (hne hname hsecond)]
          omega
      | true =>
          rw [List.filter_cons_of_pos hname]
          grind

theorem eraseDups_pairwise (names : List Text) :
    names.eraseDups.Pairwise fun first second => names.idxOf first < names.idxOf second := by
  cases names with
  | nil => exact List.Pairwise.nil
  | cons name names =>
      have hne : ∀ {other}, other ∈ (names.filter fun other => !other == name).eraseDups →
          other ≠ name := by
        intro other hother
        simpa using (List.mem_filter.mp (List.mem_eraseDups.mp hother)).2
      rw [List.eraseDups_cons, List.pairwise_cons]
      constructor
      · intro other hother
        have hlater := hne hother
        grind
      · -- the rest is ordered by its own mentions, all of them behind the one of the head
        have hrest := eraseDups_pairwise (names.filter fun other => !other == name)
        refine hrest.imp_of_mem ?_
        intro first second hfirst hsecond hlt
        have hlt := (idxOf_filter_lt_iff (by simpa using hne hfirst) (by simpa using hne hsecond)
          names).mp hlt
        rw [List.idxOf_cons_ne _ (hne hfirst).symm, List.idxOf_cons_ne _ (hne hsecond).symm]
        exact Nat.succ_lt_succ hlt
termination_by names.length
decreasing_by exact Nat.lt_succ_of_le (List.length_filter_le _ _)

theorem firstMentions_eraseDups (names : List Text) : FirstMentions names names.eraseDups :=
  ⟨fun _ => List.mem_eraseDups, eraseDups_pairwise names⟩

theorem FirstMentions.filter {given kept : List Text} (h : FirstMentions given kept)
    (keep : Text → Bool) : FirstMentions (given.filter keep) (kept.filter keep) where
  mem_iff name := by rw [List.mem_filter, List.mem_filter, h.mem_iff]
  ordered := by
    refine List.pairwise_filter.mpr (h.ordered.imp ?_)
    intro first second hlt hfirst hsecond
    exact (idxOf_filter_lt_iff hfirst hsecond given).mpr hlt

theorem FirstMentions.eq_nil_iff {given kept : List Text} (h : FirstMentions given kept) :
    kept = [] ↔ given = [] := by
  rw [List.eq_nil_iff_forall_not_mem, List.eq_nil_iff_forall_not_mem]
  exact forall_congr' fun name => not_congr (h.mem_iff name)

/-! ## What tables say -/

/-- The list under a name; a name without an entry has an empty one. -/
def listed (table : List (Text × List Text)) (key : Text) : List Text :=
  (table.lookup key).getD []

theorem lookup_tidy (table : List (Text × List Text)) (key : Text) :
    (tidy table).lookup key = (table.lookup key).map List.eraseDups := by
  induction table with
  | nil => rfl
  | cons entry table ih =>
      rw [tidy, List.map_cons, List.lookup_cons, List.lookup_cons]
      split
      · rfl
      · exact ih

theorem firstMentions_tidy (table : List (Text × List Text)) (key : Text) :
    FirstMentions (listed table key) (((tidy table).lookup key).getD []) := by
  have hlists : ((tidy table).lookup key).getD [] = (listed table key).eraseDups := by
    rw [lookup_tidy, listed]
    cases table.lookup key <;> rfl
  rw [hlists]
  exact firstMentions_eraseDups _

namespace Tables

/-- There is no element to begin a document with. -/
def NoTopLevel (tables : Tables) : Prop :=
  tables.root = none ∧ listed tables.hierarchy documentRoot = []

/-- The attributes that an entry requires and that its element does not have. -/
def undeclared (tables : Tables) (entry : Text × List Text) : List Text :=
  entry.2.filter fun attr => !(listed tables.attributes entry.1).elem attr

variable (tables : Tables)

/-- What is found about one entry. -/
def complaint? (entry : Text × List Text) : Option (Text × List Text) :=
  let declared := ((tidy tables.attributes).lookup entry.1).getD []
  match entry.2.eraseDups.filter fun attr => !declared.elem attr with
  | [] => none
  | missing => some (entry.1, missing)

theorem firstUndeclared?_eq_findSome? :
    firstUndeclared? (tidy tables.attributes) (tidy tables.required)
      = tables.required.findSome? tables.complaint? := by
  rw [firstUndeclared?, tidy, tidy, List.findSome?_map]
  rfl

/-- An entry is complained about exactly when it has undeclared attributes, and then for them. -/
theorem complaint?_cases (entry : Text × List Text) :
    tables.undeclared entry = [] ∧ tables.complaint? entry = none
      ∨ tables.undeclared entry ≠ [] ∧ ∃ missing, FirstMentions (tables.undeclared entry) missing
        ∧ tables.complaint? entry = some (entry.1, missing) := by
  have hmentions : FirstMentions (tables.undeclared entry)
      (entry.2.eraseDups.filter fun attr =>
        !(((tidy tables.attributes).lookup entry.1).getD []).elem attr) := by
    have hsame : (fun attr => !(((tidy tables.attributes).lookup entry.1).getD []).elem attr)
        = fun attr => !(listed tables.attributes entry.1).elem attr := by
      funext attr
      have hmem := (firstMentions_tidy tables.attributes entry.1).mem_iff attr
      rw [← List.elem_iff, ← List.elem_iff, ← Bool.eq_iff_iff] at hmem
      rw [hmem]
    rw [hsame]
    exact (firstMentions_eraseDups entry.2).filter _
  rw [complaint?]
  split
  · next hnone => exact .inl ⟨hmentions.eq_nil_iff.mp hnone, rfl⟩
  · next missing hne =>
      exact .inr ⟨fun hnil => hne (hmentions.eq_nil_iff.mpr hnil), _, hmentions, rfl⟩

/-- The first entry with undeclared attributes is about this element and lacks these attributes,
once each. -/
def FirstFault (element : Text) (missing : List Text) : Prop :=
  ∃ before names after, tables.required = before ++ (element, names) :: after
    ∧ (∀ entry ∈ before, tables.undeclared entry = [])
    ∧ tables.undeclared (element, names) ≠ []
    ∧ FirstMentions (tables.undeclared (element, names)) missing

/-- The search ends at the first entry with undeclared attributes, or there is none. -/
theorem firstUndeclared?_cases :
    (∃ element missing, tables.FirstFault element missing
        ∧ firstUndeclared? (tidy tables.attributes) (tidy tables.required)
          = some (element, missing))
      ∨ (∀ entry ∈ tables.required, tables.undeclared entry = [])
        ∧ firstUndeclared? (tidy tables.attributes) (tidy tables.required) = none := by
  have hentry : ∀ entry, tables.complaint? entry = none → tables.undeclared entry = [] := by
    intro entry hnone
    rcases tables.complaint?_cases entry with ⟨hnil, -⟩ | ⟨-, missing, -, hsome⟩
    · exact hnil
    · exact absurd (hnone.symm.trans hsome) (by simp)
  rw [firstUndeclared?_eq_findSome?]
  cases hfound : tables.required.findSome? tables.complaint? with
  | none =>
      refine .inr ⟨fun entry hmem => hentry entry ?_, rfl⟩
      exact List.findSome?_eq_none_iff.mp hfound entry hmem
  | some found =>
      obtain ⟨before, entry, after, hrequired, hsome, hbefore⟩ :=
        List.findSome?_eq_some_iff.mp hfound
      rcases tables.complaint?_cases entry with ⟨-, hnone⟩ | ⟨hne, missing, hmentions, hthis⟩
      · exact absurd (hnone.symm.trans hsome) (by simp)
      · obtain rfl : (entry.1, missing) = found := Option.some.inj (hthis.symm.trans hsome)
        refine .inl ⟨entry.1, missing, ⟨before, entry.2, after, hrequired, ?_, hne, hmentions⟩, rfl⟩
        exact fun other hother => hentry other (hbefore other hother)

end Tables

/-! ## Accepted and refused tables -/

/-- The tables lack a top-level element, or else an attribute, or else they are accepted. -/
theorem ofTables_cases (tables : Tables) :
    tables.NoTopLevel ∧ ofTables tables = .error .noTopLevel
      ∨ ¬ tables.NoTopLevel ∧ (∃ element missing, tables.FirstFault element missing
          ∧ ofTables tables = .error (.undeclared element missing))
      ∨ ¬ tables.NoTopLevel ∧ (∀ entry ∈ tables.required, tables.undeclared entry = [])
        ∧ ∃ schema, ofTables tables = .ok schema := by
  have hhead : (((tidy tables.hierarchy).lookup documentRoot).getD []).head? = none
      ↔ listed tables.hierarchy documentRoot = [] := by
    rw [List.head?_eq_none_iff]
    exact (firstMentions_tidy tables.hierarchy documentRoot).eq_nil_iff
  simp only [ofTables]
  split
  · next hroot =>
      split at hroot
      · exact absurd hroot (by simp)
      · next hnone => exact .inl ⟨⟨hnone, hhead.mp hroot⟩, rfl⟩
  · next root hroot =>
      have htop : ¬ tables.NoTopLevel := by
        rintro ⟨hnone, hnil⟩
        simp [hnone, hhead.mpr hnil] at hroot
      rcases tables.firstUndeclared?_cases with
        ⟨element, missing, hfault, hfound⟩ | ⟨hdeclared, hfound⟩
      · rw [hfound]
        exact .inr (.inl ⟨htop, element, missing, hfault, rfl⟩)
      · rw [hfound]
        exact .inr (.inr ⟨htop, hdeclared, _, rfl⟩)

/-- The schema says what the tables say. -/
structure Reflects (tables : Tables) (schema : Schema) : Prop where
  children : ∀ element,
    FirstMentions (listed tables.hierarchy element) (schema.childrenOf element)
  attributes : ∀ element,
    FirstMentions (listed tables.attributes element) (schema.attributesOf element)
  required : ∀ element,
    FirstMentions (listed tables.required element) (schema.requiredOf element)
  domain : ∀ attr, Option.Rel FirstMentions (tables.enums.lookup attr) (schema.domainOf? attr)
  required_subset : ∀ element, schema.requiredOf element ⊆ schema.attributesOf element
  node_iff : ∀ element node, schema.node? element = some node ↔ schema.isKnown element = true
    ∧ node =
      { name := element
        children := schema.childrenOf element
        attributes := schema.attributesOf element
        required := schema.requiredOf element
        documentation := tables.documentation.lookup element }
  known_iff : ∀ names ∈ tables.known, ∀ element, schema.isKnown element = true ↔ element ∈ names
  /-- Known elements that are not given are closed under the other look-ups. -/
  known_closed : tables.known = none →
    (∀ element, ∀ child ∈ schema.childrenOf element, schema.isKnown child = true)
    ∧ (∀ element ∈ tables.attributes.map (·.1), schema.isKnown element = true)
    ∧ ∀ element ∈ schema.elementsWithRequired, schema.isKnown element = true

theorem reflects_of_ofTables {tables : Tables} {schema : Schema}
    (h : ofTables tables = .ok schema) : Reflects tables schema := by
  have hrequired : ∀ element, schema.requiredOf element ⊆ schema.attributesOf element :=
    fun _ _ hattr => mem_attributesOf_of_mem_requiredOf h hattr
  have hclosed : tables.known = none →
      (∀ element, ∀ child ∈ schema.childrenOf element, schema.isKnown child = true)
      ∧ (∀ element ∈ tables.attributes.map (·.1), schema.isKnown element = true)
      ∧ ∀ element ∈ schema.elementsWithRequired, schema.isKnown element = true := fun hknown =>
    ⟨fun _ _ hchild => isKnown_of_mem_childrenOf h hknown hchild,
      fun _ hmem => isKnown_of_mem_attributes h hknown hmem,
      fun _ hmem => isKnown_of_mem_elementsWithRequired h hknown hmem⟩
  obtain ⟨-, root, rfl⟩ := exists_root_of_ofTables h
  exact
    { children := firstMentions_tidy tables.hierarchy
      attributes := firstMentions_tidy tables.attributes
      required := firstMentions_tidy tables.required
      domain := by
        intro attr
        rw [domainOf?, lookup_tidy]
        cases tables.enums.lookup attr with
        | none => exact .none
        | some values => exact .some (firstMentions_eraseDups values)
      required_subset := hrequired
      node_iff := by
        intro element node
        rw [node?]
        split
        · next hknown => simp [hknown, eq_comm, documentationOf?]
        · next hknown => simp [hknown]
      known_iff := by
        rintro names hnames element
        rw [isKnown, List.elem_iff, List.mem_eraseDups, Option.mem_def.mp hnames, Option.getD_some]
      known_closed := hclosed }

/-- **Exactly the consistent tables make a schema.** Tables are refused if the document has no
element to begin with, and otherwise if some element requires an attribute that it does not have;
the complaint is then about the first such element in the table of required attributes and names
everything that it lacks, once each and in order. All other tables are accepted, and the schema says
what they say: look-ups give the lists of the tables without their repetitions, what an element
requires it also has, an element has an entry exactly when it is known, and unless the known
elements are given, every element that the look-ups lead to is known. -/
theorem ofTables_consistent (tables : Tables) :
    ((∃ error, ofTables tables = .error error)
        ↔ tables.NoTopLevel ∨ ∃ entry ∈ tables.required, ∃ attr ∈ entry.2,
            attr ∉ listed tables.attributes entry.1)
      ∧ (tables.NoTopLevel ∧ ofTables tables = .error .noTopLevel
        ∨ ¬ tables.NoTopLevel ∧ (∃ element missing, tables.FirstFault element missing
          ∧ ofTables tables = .error (.undeclared element missing)
          ∧ (Error.undeclared element missing).toFailure.message
            = "Required attributes " ++ ", ".intercalate (missing.map String.ofList) ++ " of "
              ++ String.ofList element ++ " are not declared attributes")
        ∨ ∃ schema, ofTables tables = .ok schema ∧ Reflects tables schema) := by
  have hlacks : ∀ entry, tables.undeclared entry ≠ []
      ↔ ∃ attr ∈ entry.2, attr ∉ listed tables.attributes entry.1 := by
    intro entry
    simp [Tables.undeclared]
  simp only [← hlacks]
  rcases ofTables_cases tables with
    ⟨htop, herror⟩ | ⟨htop, element, missing, hfault, herror⟩ | ⟨htop, hdeclared, schema, hok⟩
  · exact ⟨iff_of_true ⟨_, herror⟩ (.inl htop), .inl ⟨htop, herror⟩⟩
  · have hlacking : ∃ entry ∈ tables.required, tables.undeclared entry ≠ [] := by
      obtain ⟨before, names, after, hrequired, -, hne, -⟩ := hfault
      exact ⟨(element, names), by simp [hrequired], hne⟩
    exact ⟨iff_of_true ⟨_, herror⟩ (.inr hlacking),
      .inr (.inl ⟨htop, element, missing, hfault, herror, rfl⟩)⟩
  · refine ⟨iff_of_false ?_ ?_, .inr (.inr ⟨schema, hok, reflects_of_ofTables hok⟩)⟩
    · rintro ⟨error, herror⟩
      exact absurd (hok.symm.trans herror) (by simp)
    · rintro (hnone | ⟨entry, hentry, hne⟩)
      · exact htop hnone
      · exact hne (hdeclared entry hentry)

example : ofTables
    { hierarchy := [(documentRoot, [['a']])]
      attributes := [(['a'], [['x']]), (['b'], [])]
      required := [(['a'], [['x'], ['x']]), (['b'], [['z'], ['y'], ['z']]), (['c'], [['x']])] }
    = .error (.undeclared ['b'] [['z'], ['y']]) := rfl

end TagLens.Schema
