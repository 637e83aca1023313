import TagLens.Markup.Nesting
import TagLens.Report.Failure

/-!
# Schemas

A schema says which elements exist, what may stand inside them, which attributes they have
and need, and which values an attribute takes. It is built from `Tables`, which an author
writes down, by `ofTables`: repetitions are dropped, the set of known elements and the root
element are derived where they are not given, and inconsistent tables are refused. All lists
keep the order in which they were declared, because suggestions are presented in that order.
-/

namespace TagLens

open Markup (documentRoot)

/-- What is told about an element when the reader points at it. -/
structure Documentation where
  description : String
  details : String := ""
  /-- Attribute names with their descriptions. -/
  attributes : List (Text × String) := []
  deriving DecidableEq, Repr

/-- The description of one attribute. -/
def Documentation.attr? (doc : Documentation) (attr : Text) : Option String :=
  doc.attributes.lookup attr

namespace Schema

/-- The tables of a schema as they are written down. -/
structure Tables where
  /-- Elements with their children; the document itself stands under `documentRoot`. -/
  hierarchy : List (Text × List Text) := []
  /-- Elements with their attributes. -/
  attributes : List (Text × List Text) := []
  /-- Elements with the attributes they cannot do without. -/
  required : List (Text × List Text) := []
  /-- Attributes with the values they may take. -/
  enums : List (Text × List Text) := []
  /-- The elements that exist; derived from the other tables when missing. -/
  known : Option (List Text) := none
  /-- Attributes whose value is an identifier. -/
  patternAttributes : List Text := []
  /-- Attributes whose value is a truth value. -/
  booleanAttributes : List Text := []
  documentation : List (Text × Documentation) := []
  /-- The element a document begins with; the first top-level element when missing. -/
  root : Option Text := none

/-- Why tables are refused. -/
inductive Error where
  /-- There is no top-level element to begin a document with. -/
  | noTopLevel
  /-- An element requires attributes that it does not have. -/
  | undeclared (element : Text) (attributes : List Text)
  deriving DecidableEq, Repr

/-- The reason in words. -/
def Error.message : Error → String
  | .noTopLevel =>
    "Schema declares no top-level element under " ++ String.ofList documentRoot
  | .undeclared element attributes =>
    "Required attributes " ++ ", ".intercalate (attributes.map String.ofList) ++ " of "
      ++ String.ofList element ++ " are not declared attributes"

/-- What can be done about it. -/
def Error.hint : Error → Option String
  | .noTopLevel => none
  | .undeclared _ _ => some "Add them to the element's attribute list"

/-- The reason as a failure. -/
def Error.toFailure (error : Error) : Report.Failure :=
  { kind := .schema, message := error.message, hint := error.hint }

end Schema

/-- A consistent schema. -/
structure Schema where
  hierarchy : List (Text × List Text)
  attributes : List (Text × List Text)
  required : List (Text × List Text)
  enums : List (Text × List Text)
  known : List Text
  patternAttributes : List Text
  booleanAttributes : List Text
  documentation : List (Text × Documentation)
  root : Text

namespace Schema

/-! ### Look-ups -/

/-- The elements that may stand directly inside an element. -/
def childrenOf (schema : Schema) (element : Text) : List Text :=
  (schema.hierarchy.lookup element).getD []

/-- The attributes of an element. -/
def attributesOf (schema : Schema) (element : Text) : List Text :=
  (schema.attributes.lookup element).getD []

/-- The attributes an element cannot do without. -/
def requiredOf (schema : Schema) (element : Text) : List Text :=
  (schema.required.lookup element).getD []

/-- The values an attribute may take, if they are restricted. -/
def domainOf? (schema : Schema) (attr : Text) : Option (List Text) :=
  schema.enums.lookup attr

/-- Does the element exist? -/
def isKnown (schema : Schema) (element : Text) : Bool := schema.known.elem element

/-- Is the value of the attribute an identifier? -/
def isPattern (schema : Schema) (attr : Text) : Bool :=
  schema.patternAttributes.elem attr

/-- Is the value of the attribute a truth value? -/
def isBoolean (schema : Schema) (attr : Text) : Bool :=
  schema.booleanAttributes.elem attr

/-- The documentation of an element. -/
def documentationOf? (schema : Schema) (element : Text) : Option Documentation :=
  schema.documentation.lookup element

/-- The elements that require some attribute, in table order. -/
def elementsWithRequired (schema : Schema) : List Text :=
  (schema.required.filter fun entry => !entry.2.isEmpty).map (·.1)

/-- Everything the schema knows about one element. -/
structure Node where
  name : Text
  children : List Text
  attributes : List Text
  required : List Text
  documentation : Option Documentation
  deriving DecidableEq, Repr

/-- Is the attribute required of the element? -/
def Node.requires (node : Node) (attr : Text) : Bool := node.required.elem attr

/-- The element's entry, if the element exists. -/
def node? (schema : Schema) (element : Text) : Option Node :=
  if schema.isKnown element then
    some
      { name := element
        children := schema.childrenOf element
        attributes := schema.attributesOf element
        required := schema.requiredOf element
        documentation := schema.documentationOf? element }
  else none

/-- Lexicographic order by code point. -/
def precedes (a b : Text) : Bool := !decide (b < a)

/-- The elements that exist, in code-point order. -/
def knownSorted (schema : Schema) : List Text := schema.known.mergeSort precedes

/-! ### Construction -/

/-- A table whose lists hold no repetitions. -/
def tidy (table : List (Text × List Text)) : List (Text × List Text) :=
  table.map fun entry => (entry.1, entry.2.eraseDups)

/-- The elements that the tables speak of: every parent and child in the hierarchy and every
element with attributes. -/
def derivedKnown (hierarchy attributes : List (Text × List Text)) : List Text :=
  (hierarchy.map (·.1)).filter (· != documentRoot) ++ hierarchy.flatMap (·.2)
    ++ attributes.map (·.1)

/-- The first element, in table order, that requires attributes it does not have, with those
attributes. -/
def firstUndeclared? (attributes required : List (Text × List Text)) :
    Option (Text × List Text) :=
  required.findSome? fun entry =>
    let declared := (attributes.lookup entry.1).getD []
    match entry.2.filter fun attr => !declared.elem attr with
    | [] => none
    | missing => some (entry.1, missing)

/-- Build a schema. A missing root element is looked for before the attribute lists are
compared. -/
def ofTables (tables : Tables) : Except Error Schema :=
  let hierarchy := tidy tables.hierarchy
  let attributes := tidy tables.attributes
  let required := tidy tables.required
  let root? : Option Text :=
    match tables.root with
    | some root => some root
    | none => ((hierarchy.lookup documentRoot).getD []).head?
  match root? with
  | none => .error .noTopLevel
  | some root =>
    match firstUndeclared? attributes required with
    | some (element, missing) => .error (.undeclared element missing)
    | none =>
      .ok
        { hierarchy, attributes, required, root
          enums := tidy tables.enums
          known := (tables.known.getD (derivedKnown hierarchy attributes)).eraseDups
          patternAttributes := tables.patternAttributes
          booleanAttributes := tables.booleanAttributes
          documentation := tables.documentation }

/-- Accepted tables hold no undeclared attribute, and the schema is what is left of them. -/
theorem exists_root_of_ofTables {tables : Tables} {schema : Schema}
    (h : ofTables tables = .ok schema) :
    firstUndeclared? (tidy tables.attributes) (tidy tables.required) = none
      ∧ ∃ root, schema =
        { root
          hierarchy := tidy tables.hierarchy
          attributes := tidy tables.attributes
          required := tidy tables.required
          enums := tidy tables.enums
          known := (tables.known.getD
            (derivedKnown (tidy tables.hierarchy) (tidy tables.attributes))).eraseDups
          patternAttributes := tables.patternAttributes
          booleanAttributes := tables.booleanAttributes
          documentation := tables.documentation } := by
  simp only [ofTables] at h
  split at h
  · exact absurd h (by simp)
  · next root hroot =>
      split at h
      · exact absurd h (by simp)
      · next hnone => exact ⟨hnone, root, (Except.ok.inj h).symm⟩

/-- What is kept of accepted tables. -/
theorem ofTables_eq_ok {tables : Tables} {schema : Schema} (h : ofTables tables = .ok schema) :
    schema.hierarchy = tidy tables.hierarchy ∧ schema.required = tidy tables.required
      ∧ schema.known
          = (tables.known.getD
              (derivedKnown (tidy tables.hierarchy) (tidy tables.attributes))).eraseDups := by
  obtain ⟨-, root, rfl⟩ := exists_root_of_ofTables h
  exact ⟨rfl, rfl, rfl⟩

theorem enums_of_ofTables {tables : Tables} {schema : Schema} (h : ofTables tables = .ok schema) :
    schema.enums = tidy tables.enums := by
  obtain ⟨-, root, rfl⟩ := exists_root_of_ofTables h
  rfl

theorem nodup_eraseDups (names : List Text) : names.eraseDups.Nodup := by
  cases names with
  | nil => simp
  | cons name names =>
      rw [List.eraseDups_cons, List.nodup_cons]
      constructor
      · rw [List.mem_eraseDups]
        simp
      · exact nodup_eraseDups (names.filter fun other => !other == name)
termination_by names.length
decreasing_by exact Nat.lt_succ_of_le (List.length_filter_le _ _)

theorem eraseDups_of_nodup {names : List Text} (h : names.Nodup) : names.eraseDups = names := by
  induction names with
  | nil => rfl
  | cons name names ih =>
      obtain ⟨hname, hnames⟩ := List.nodup_cons.mp h
      have hkeep : names.filter (fun other => !other == name) = names := by
        rw [List.filter_eq_self]
        intro other hother
        have hne : other ≠ name := by
          rintro rfl
          exact hname hother
        simpa using hne
      rw [List.eraseDups_cons, hkeep, ih hnames]

/-- Tables are accepted only if every attribute that is required is declared. -/
theorem firstUndeclared?_eq_none {tables : Tables} {schema : Schema}
    (h : ofTables tables = .ok schema) :
    firstUndeclared? schema.attributes schema.required = none := by
  obtain ⟨hnone, root, rfl⟩ := exists_root_of_ofTables h
  exact hnone

theorem exists_mem_of_mem_tidy {table : List (Text × List Text)} {entry : Text × List Text}
    (h : entry ∈ tidy table) : ∃ names, (entry.1, names) ∈ table ∧ entry.2 ⊆ names := by
  obtain ⟨⟨key, names⟩, hmem, rfl⟩ := List.mem_map.mp h
  refine ⟨names, hmem, ?_⟩
  intro name hname
  exact List.mem_eraseDups.mp hname

/-- A name that is looked up in a table stands in one of the table's lists. -/
theorem exists_mem_of_mem_lookup {table : List (Text × List Text)} {key name : Text}
    (h : name ∈ (table.lookup key).getD []) : ∃ names, (key, names) ∈ table ∧ name ∈ names := by
  cases hnames : table.lookup key with
  | none =>
      rw [hnames] at h
      exact absurd h (by simp)
  | some names =>
      rw [hnames, Option.getD_some] at h
      obtain ⟨before, after, rfl, -⟩ := List.lookup_eq_some_iff.mp hnames
      exact ⟨names, by simp, h⟩

/-- An attribute that some entry requires is an attribute of the entry's element. -/
theorem mem_attributesOf_of_mem_required {tables : Tables} {schema : Schema}
    (h : ofTables tables = .ok schema) {entry : Text × List Text} (hentry : entry ∈ schema.required)
    {attr : Text} (hattr : attr ∈ entry.2) : attr ∈ schema.attributesOf entry.1 := by
  have hnone := List.findSome?_eq_none_iff.mp (firstUndeclared?_eq_none h) _ hentry
  simp only at hnone
  split at hnone
  · next hmissing =>
      rw [List.filter_eq_nil_iff] at hmissing
      simpa [attributesOf] using hmissing attr hattr
  · exact absurd hnone (by simp)

/-- An element has the attributes it cannot do without. -/
theorem mem_attributesOf_of_mem_requiredOf {tables : Tables} {schema : Schema}
    (h : ofTables tables = .ok schema) {element attr : Text}
    (hattr : attr ∈ schema.requiredOf element) : attr ∈ schema.attributesOf element := by
  obtain ⟨required, hentry, hmem⟩ := exists_mem_of_mem_lookup hattr
  exact mem_attributesOf_of_mem_required h hentry hmem

/-- The lists of a tidy table hold everything once. -/
theorem nodup_of_lookup_tidy {table : List (Text × List Text)} {key : Text} {names : List Text}
    (h : (tidy table).lookup key = some names) : names.Nodup := by
  obtain ⟨before, after, htable, -⟩ := List.lookup_eq_some_iff.mp h
  have hentry : (key, names) ∈ tidy table := by simp [htable]
  obtain ⟨entry, -, heq⟩ := List.mem_map.mp hentry
  obtain ⟨-, rfl⟩ := Prod.mk.inj heq
  exact nodup_eraseDups entry.2

/-- The attributes required of an element are listed once each. -/
theorem nodup_requiredOf {tables : Tables} {schema : Schema} (h : ofTables tables = .ok schema)
    (element : Text) : (schema.requiredOf element).Nodup := by
  obtain ⟨-, hrequired, -⟩ := ofTables_eq_ok h
  rw [requiredOf, hrequired]
  cases hnames : (tidy tables.required).lookup element with
  | none => simp
  | some names => exact nodup_of_lookup_tidy hnames

/-- And so are the values that an attribute may take. -/
theorem nodup_domainOf? {tables : Tables} {schema : Schema} (h : ofTables tables = .ok schema)
    (attr : Text) : ((schema.domainOf? attr).getD []).Nodup := by
  rw [domainOf?, enums_of_ofTables h]
  cases hvalues : (tidy tables.enums).lookup attr with
  | none => simp
  | some values => exact nodup_of_lookup_tidy hvalues

section

variable {tables : Tables} {schema : Schema} (h : ofTables tables = .ok schema)
  (hknown : tables.known = none)

include h hknown

/-- Without a list of known elements, those exist that the tables speak of. -/
theorem isKnown_of_mem_derivedKnown {element : Text}
    (hmem : element ∈ derivedKnown (tidy tables.hierarchy) (tidy tables.attributes)) :
    schema.isKnown element = true := by
  obtain ⟨-, -, hderived⟩ := ofTables_eq_ok h
  rw [isKnown, hderived, hknown, List.elem_iff, List.mem_eraseDups]
  exact hmem

/-- So every child exists, -/
theorem isKnown_of_mem_childrenOf {parent child : Text} (hchild : child ∈ schema.childrenOf parent) :
    schema.isKnown child = true := by
  obtain ⟨hhierarchy, -, -⟩ := ofTables_eq_ok h
  rw [childrenOf, hhierarchy] at hchild
  obtain ⟨children, hentry, hmem⟩ := exists_mem_of_mem_lookup hchild
  apply isKnown_of_mem_derivedKnown h hknown
  rw [derivedKnown, List.mem_append, List.mem_append]
  exact .inl (.inr (List.mem_flatMap.mpr ⟨_, hentry, hmem⟩))

/-- every element with an entry for its attributes, -/
theorem isKnown_of_mem_attributes {element : Text} (hmem : element ∈ tables.attributes.map (·.1)) :
    schema.isKnown element = true := by
  apply isKnown_of_mem_derivedKnown h hknown
  have hkeys : (tidy tables.attributes).map (·.1) = tables.attributes.map (·.1) := by
    simp [tidy]
  rw [derivedKnown, List.mem_append, hkeys]
  exact .inr hmem

/-- and every element that requires an attribute, since it has that attribute. -/
theorem isKnown_of_mem_elementsWithRequired {element : Text}
    (hmem : element ∈ schema.elementsWithRequired) : schema.isKnown element = true := by
  obtain ⟨entry, hentry, rfl⟩ := List.mem_map.mp hmem
  obtain ⟨hentry, hsome⟩ := List.mem_filter.mp hentry
  have hne : entry.2 ≠ [] := by simpa using hsome
  obtain ⟨attr, hattr⟩ := List.exists_mem_of_ne_nil _ hne
  have hhas := mem_attributesOf_of_mem_required h hentry hattr
  obtain ⟨-, root, rfl⟩ := exists_root_of_ofTables h
  obtain ⟨attributes, hlisted, -⟩ := exists_mem_of_mem_lookup hhas
  obtain ⟨names, hnames, -⟩ := exists_mem_of_mem_tidy hlisted
  exact isKnown_of_mem_attributes h hknown (List.mem_map.mpr ⟨_, hnames, rfl⟩)

end

theorem requiredOf_eq_nil {schema : Schema} {element : Text}
    (h : element ∉ schema.elementsWithRequired) : schema.requiredOf element = [] := by
  rw [requiredOf]
  cases hnames : schema.required.lookup element with
  | none => rfl
  | some names =>
      obtain ⟨before, after, htable, -⟩ := List.lookup_eq_some_iff.mp hnames
      cases names with
      | nil => rfl
      | cons name names =>
          refine absurd (List.mem_map.mpr ⟨(element, name :: names), ?_, rfl⟩) h
          rw [List.mem_filter]
          exact ⟨by simp [htable], rfl⟩

end Schema
end TagLens
