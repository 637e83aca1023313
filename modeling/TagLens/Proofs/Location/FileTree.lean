import TagLens.Location.FileTree
import TagLens.Proofs.Outcome

/-!
# Files that do not concern each other

Writing a file changes what stands at its own place and nowhere else, as long as the places above it
are there already (`node?_put_of_ne`). The places that a path goes through decide whether it leads
anywhere, but not where to: paths that lead somewhere in two trees lead to the same place
(`walk_unique`).
-/

namespace TagLens.Location.FileTree

variable {tree one other : FileTree} {place target : List String}

/-! ## What stands at a place -/

/-- Something stands at every place above an entry. -/
theorem node?_ne_none_above {entry : List String × Node} (hentry : entry ∈ tree.entries)
    (h : place <+: entry.1) : tree.node? place ≠ none := by
  rw [node?]
  split
  · simp
  · have hany : tree.entries.any (fun entry => place.isPrefixOf entry.1) = true :=
      List.any_eq_true.mpr ⟨entry, hentry, List.isPrefixOf_iff_prefix.mpr h⟩
    simp [hany]

/-- A file has an entry of its own. -/
theorem exists_entry_of_file {bytes : List UInt8} (h : tree.node? place = some (.file bytes)) :
    ∃ entry ∈ tree.entries, entry.1 = place := by
  rw [node?] at h
  split at h
  · next entry hentry =>
      exact ⟨entry, List.mem_of_find?_eq_some hentry, by simpa using List.find?_some hentry⟩
  · split at h <;> simp at h

theorem find?_put_of_ne (hne : place ≠ target) (bytes : List UInt8) :
    (tree.put target bytes).entries.find? (·.1 == place)
      = tree.entries.find? (·.1 == place) := by
  have hlast : [(target, Node.file bytes)].find? (·.1 == place) = none := by
    simp [Ne.symm hne]
  have hkept : (fun entry : List String × Node => decide (entry.1 != target ∧ entry.1 == place))
      = fun entry => entry.1 == place := by
    funext entry
    by_cases h : entry.1 = place <;> simp [h, hne]
  rw [put, List.find?_append, hlast, Option.or_none, List.find?_filter]
  exact congrArg (tree.entries.find? ·) hkept

/-- **Writing a file changes its own place only**, as long as there is something at each place
above it. -/
theorem node?_put_of_ne (hne : place ≠ target)
    (habove : place <+: target → tree.node? place ≠ none) (bytes : List UInt8) :
    (tree.put target bytes).node? place = tree.node? place := by
  have hsome : (tree.put target bytes).entries.any (fun entry => place.isPrefixOf entry.1)
      = (tree.entries.any (fun entry => place.isPrefixOf entry.1) || place.isPrefixOf target) := by
    rw [put, List.any_append, List.any_filter, List.any_cons, List.any_nil, Bool.or_false,
      Bool.eq_iff_iff]
    simp only [Bool.or_eq_true, List.any_eq_true, Bool.and_eq_true, bne_iff_ne]
    grind
  rw [node?] at habove ⊢
  rw [node?, find?_put_of_ne hne, hsome]
  split
  · rfl
  · next hnone =>
      rw [hnone] at habove
      by_cases h : place <+: target
      · have hold := habove h
        grind
      · rw [Bool.eq_false_iff.mpr (mt List.isPrefixOf_iff_prefix.mp h), Bool.or_false]

theorem node?_put (tree : FileTree) (target : List String) (bytes : List UInt8) :
    (tree.put target bytes).node? target = some (.file bytes) := by
  have hnone : (tree.entries.filter (·.1 != target)).find? (·.1 == target) = none := by
    simp [List.find?_eq_none]
  rw [node?, put, List.find?_append, hnone]
  simp

/-- A file that is there is overwritten without a trace elsewhere. -/
theorem node?_put_of_file {old : List UInt8} (hfile : tree.node? target = some (.file old))
    (hne : place ≠ target) (bytes : List UInt8) :
    (tree.put target bytes).node? place = tree.node? place := by
  obtain ⟨entry, hentry, rfl⟩ := exists_entry_of_file hfile
  exact node?_put_of_ne hne (node?_ne_none_above hentry) bytes

/-! ## Where a path leads -/

/-- A step along a path is made from a directory. -/
theorem walk_cons_eq_ok {part : String} {parts : List String}
    (h : tree.walk place (part :: parts) = .ok target) :
    tree.walk (if part == ".." then place.dropLast else place ++ [part]) parts = .ok target := by
  rw [walk] at h
  split at h
  · exact absurd h (by simp)
  · exact absurd h (by simp)
  · exact absurd h (by simp)
  · split at h
    · exact absurd h (by simp)
    · exact h

/-- A path leads to one place only, whatever stands along it. -/
theorem walk_unique {parts last : List String} (hone : one.walk place parts = .ok target)
    (hother : other.walk place parts = .ok last) : target = last := by
  induction parts generalizing place with
  | nil =>
      rw [walk] at hone hother
      exact Except.ok.inj (hone.symm.trans hother)
  | cons part parts ih => exact ih (walk_cons_eq_ok hone) (walk_cons_eq_ok hother)

/-- A path that ends in a name leads to a place of that name. -/
theorem walk_concat {parts : List String} {name : String} (hname : name ≠ "..")
    (h : tree.walk place (parts ++ [name]) = .ok target) : target.getLast? = some name := by
  induction parts generalizing place with
  | nil =>
      have hlast := walk_cons_eq_ok h
      rw [if_neg (by simpa using hname), walk] at hlast
      simp [← Except.ok.inj hlast]
  | cons part parts ih => exact ih (walk_cons_eq_ok h)

theorem walk_of_place {directory path : Path} (h : tree.place directory path = .ok target) :
    tree.walk [] (directory.join path).parts = .ok target := by
  rw [FileTree.place] at h
  split at h
  · exact absurd h (by simp)
  · split at h
    · exact absurd h (by simp)
    · exact mapError_eq_ok h

/-- Paths lead where they did before a file was overwritten. -/
theorem walk_put {old : List UInt8} (hfile : tree.node? target = some (.file old))
    (bytes : List UInt8) (place : List String) (parts : List String) :
    (tree.put target bytes).walk place parts = tree.walk place parts := by
  induction parts generalizing place with
  | nil => rfl
  | cons part parts ih =>
      rw [walk, walk]
      by_cases h : place = target
      · subst h
        rw [node?_put, hfile]
      · rw [node?_put_of_file hfile h]
        simp only [ih]

theorem place_put {old : List UInt8} (hfile : tree.node? target = some (.file old))
    (bytes : List UInt8) (directory path : Path) :
    (tree.put target bytes).place directory path = tree.place directory path := by
  rw [FileTree.place, FileTree.place, walk_put hfile]

/-- Overwriting a file matters only to those who read it. -/
theorem read_put_of_ne {old : List UInt8} (hfile : tree.node? target = some (.file old))
    (bytes : List UInt8) {directory path : Path} (hne : tree.place directory path ≠ .ok target) :
    (tree.put target bytes).read directory path = tree.read directory path := by
  rw [read, read, place_put hfile]
  cases hplace : tree.place directory path with
  | error error => rfl
  | ok place =>
      have hother : place ≠ target := by
        rintro rfl
        exact hne hplace
      simp only [bind, Except.bind, node?_put_of_file hfile hother]

/-- The bytes of a regular file stand at the place that its path leads to. -/
theorem exists_walk_of_regularFile? {directory path : Path} {bytes : List UInt8}
    (h : tree.regularFile? directory path = .ok (some bytes)) :
    ∃ target, tree.walk [] (directory.join path).parts = .ok target
      ∧ tree.node? target = some (.file bytes) := by
  rw [regularFile?] at h
  split at h
  · next target htarget =>
      refine ⟨target, walk_of_place htarget, ?_⟩
      have hbytes := Except.ok.inj h
      split at hbytes
      · next held hheld => rw [hheld, Option.some.inj hbytes]
      · exact absurd hbytes (by simp)
  · split at h <;> exact absurd h (by simp)

/-! ## Trees that agree -/

/-- The trees hold the same at every place that does not have this name. -/
def AgreeApartFrom (hidden : String) (one other : FileTree) : Prop :=
  ∀ place, place.getLast? ≠ some hidden → one.node? place = other.node? place

/-- Writing a file of that name into a directory that is there leaves the rest as it is. -/
theorem agreeApartFrom_put {folder : List String} {entry : List String × Node}
    (hentry : entry ∈ tree.entries) (hfolder : folder <+: entry.1) (hidden : String)
    (bytes : List UInt8) : AgreeApartFrom hidden tree (tree.put (folder ++ [hidden]) bytes) := by
  intro place hlast
  refine (node?_put_of_ne ?_ ?_ bytes).symm
  · rintro rfl
    exact hlast List.getLast?_concat
  · intro habove
    rcases List.prefix_concat_iff.mp habove with rfl | habove
    · exact absurd List.getLast?_concat hlast
    · exact node?_ne_none_above hentry (habove.trans hfolder)

theorem parts_join_child (directory root : Path) (name : String) :
    (directory.join (root.child name)).parts = (directory.join root).parts ++ [name] := by
  rw [Path.join, Path.join, Path.child]
  split
  · exact (List.append_assoc _ _ _).symm
  · rfl

/-- A file of another name has the same bytes in both trees. -/
theorem AgreeApartFrom.bytes_eq {hidden name : String} (h : AgreeApartFrom hidden one other)
    (hname : name ≠ "..") (hne : name ≠ hidden) {directory root : Path}
    {bytes otherBytes : List UInt8}
    (hone : one.regularFile? directory (root.child name) = .ok (some bytes))
    (hother : other.regularFile? directory (root.child name) = .ok (some otherBytes)) :
    bytes = otherBytes := by
  obtain ⟨target, hwalk, hbytes⟩ := exists_walk_of_regularFile? hone
  obtain ⟨last, hotherWalk, hotherBytes⟩ := exists_walk_of_regularFile? hother
  obtain rfl := walk_unique hwalk hotherWalk
  rw [parts_join_child] at hwalk
  have hlast := walk_concat hname hwalk
  rw [h target (by simp [hlast, hne]), hotherBytes] at hbytes
  simpa using hbytes.symm

end TagLens.Location.FileTree
