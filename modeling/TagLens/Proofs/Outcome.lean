import Mathlib.Data.List.Basic

/-!
# Computations that can fail

What is known about the parts of a computation once it is known how the whole of it ends: two steps
in a row, a result that is mapped, and a row of items that are gone through one by one.
-/

namespace TagLens

variable {α β ε : Type}

theorem exists_of_bind_eq_ok {first : Except ε α} {next : α → Except ε β} {result : β}
    (h : (first >>= next) = .ok result) : ∃ a, first = .ok a ∧ next a = .ok result := by
  cases first with
  | error fault => exact absurd h (by simp [bind, Except.bind])
  | ok a => exact ⟨a, rfl, h⟩

theorem mapError_eq_ok {ε' : Type} {first : Except ε α} {f : ε → ε'} {a : α}
    (h : first.mapError f = .ok a) : first = .ok a := by
  cases first with
  | error fault => exact absurd h (by simp [Except.mapError])
  | ok b => exact congrArg Except.ok (Except.ok.inj h)

theorem eq_ok_of_toOption {first : Except ε α} {a : α} (h : first.toOption = some a) :
    first = .ok a := by
  cases first with
  | error fault => exact absurd h (by simp [Except.toOption])
  | ok b => exact congrArg Except.ok (Option.some.inj h)

theorem cases_of_map_eq {f : α → β} {first second : Except ε α}
    (h : first.map f = second.map f) :
    (∃ fault, first = .error fault ∧ second = .error fault)
      ∨ ∃ a b, first = .ok a ∧ second = .ok b ∧ f a = f b := by
  cases first with
  | error fault =>
      cases second with
      | error other =>
          obtain rfl := Except.error.inj h
          exact .inl ⟨fault, rfl, rfl⟩
      | ok b => exact absurd h (by simp [Except.map])
  | ok a =>
      cases second with
      | error fault => exact absurd h (by simp [Except.map])
      | ok b => exact .inr ⟨a, b, rfl, rfl, Except.ok.inj h⟩

/-! ## Rows of items -/

variable {items : List α}

theorem mapM_congr {f g : α → Except ε β} (h : ∀ item ∈ items, f item = g item) :
    items.mapM f = items.mapM g := by
  induction items with
  | nil => rfl
  | cons item items ih =>
      obtain ⟨hitem, hitems⟩ := List.forall_mem_cons.mp h
      rw [List.mapM_cons, List.mapM_cons, hitem, ih hitems]

theorem mapM_eq_ok {f : α → Except ε β} {g : α → β} (h : ∀ item ∈ items, f item = .ok (g item)) :
    items.mapM f = .ok (items.map g) := by
  induction items with
  | nil => rfl
  | cons item items ih =>
      obtain ⟨hitem, hitems⟩ := List.forall_mem_cons.mp h
      rw [List.mapM_cons, hitem, ih hitems]
      rfl

/-- Nothing in a row fails if the row as a whole does not. -/
theorem exists_of_mapM_eq_ok {f : α → Except ε β} {results : List β}
    (h : items.mapM f = .ok results) : ∀ item ∈ items, ∃ result, f item = .ok result := by
  induction items generalizing results with
  | nil => simp
  | cons item items ih =>
      rw [List.mapM_cons] at h
      obtain ⟨first, hfirst, h⟩ := exists_of_bind_eq_ok h
      obtain ⟨more, hmore, -⟩ := exists_of_bind_eq_ok h
      exact List.forall_mem_cons.mpr ⟨⟨first, hfirst⟩, ih hmore⟩

theorem forall_of_mapM_eq_ok {f : α → Except ε β} {results : List β} {P : β → Prop}
    (hresult : ∀ item result, f item = .ok result → P result) (h : items.mapM f = .ok results) :
    ∀ result ∈ results, P result := by
  induction items generalizing results with
  | nil =>
      obtain rfl : [] = results := Except.ok.inj h
      simp
  | cons item items ih =>
      rw [List.mapM_cons] at h
      obtain ⟨first, hfirst, h⟩ := exists_of_bind_eq_ok h
      obtain ⟨more, hmore, h⟩ := exists_of_bind_eq_ok h
      obtain rfl : first :: more = results := Except.ok.inj h
      exact List.forall_mem_cons.mpr ⟨hresult item first hfirst, ih hmore⟩

end TagLens
