import Mathlib.Algebra.Group.Nat.Defs
import Mathlib.Data.Char
import Mathlib.Data.List.Lex
import Mathlib.Data.List.Nodup
import TagLens.Assist.Completion

/-!
# The order in which suggestions are shown

A client sorts suggestions by their sort keys before it shows them. The key of an item is its index
in four digits, and digits in equal number are ordered as texts exactly as the numbers they spell
(`lt_iff_ofDigitChars_lt`). The order of declaration is therefore kept as long as four digits are
enough (`sortKey_lt`). From then on it is lost: the item with index 10000 is shown before the one
with index 9999 (`pairwise_sortKey_iff`, `displayed_eq_self_iff_of_nodup`).
-/

namespace TagLens.Assist

open Schema (precedes)

/-! ## Digits as texts and as numbers -/

/-- With the lower place below `p`, the higher place decides first. -/
theorem mul_add_lt_iff {p a b x y : Nat} (hx : x < p) (hy : y < p) :
    p * a + x < p * b + y ↔ a < b ∨ a = b ∧ x < y := by
  rcases Nat.lt_trichotomy a b with h | rfl | h
  · have hle : p * (a + 1) ≤ p * b := Nat.mul_le_mul_left p h
    rw [Nat.mul_succ] at hle
    omega
  · omega
  · have hle : p * (b + 1) ≤ p * a := Nat.mul_le_mul_left p h
    rw [Nat.mul_succ] at hle
    omega

theorem bounds_of_isDigit {c : Char} (h : c.isDigit = true) :
    '0'.toNat ≤ c.toNat ∧ c.toNat ≤ '9'.toNat := by
  simpa [Char.isDigit, UInt32.le_iff_toNat_le] using h

/-- The first of several digits counts as often as the others have values. -/
theorem ofDigitChars_cons_zero (c : Char) (digits : Text) :
    Nat.ofDigitChars 10 (c :: digits) 0
      = 10 ^ digits.length * (c.toNat - '0'.toNat) + Nat.ofDigitChars 10 digits 0 := by
  rw [Nat.ofDigitChars_cons, Nat.ofDigitChars_eq_ofDigitChars_zero, Nat.mul_zero, Nat.zero_add]

theorem ofDigitChars_lt {digits : Text} (h : ∀ c ∈ digits, c.isDigit = true) :
    Nat.ofDigitChars 10 digits 0 < 10 ^ digits.length := by
  induction digits with
  | nil => simp
  | cons c digits ih =>
      obtain ⟨hc, hdigits⟩ := List.forall_mem_cons.mp h
      have hvalue : c.toNat - '0'.toNat ≤ 9 := by
        have hbounds := bounds_of_isDigit hc
        simp only [Char.reduceToNat] at hbounds ⊢
        omega
      have hrest := ih hdigits
      have hle := Nat.mul_le_mul_left (10 ^ digits.length) hvalue
      rw [ofDigitChars_cons_zero, List.length_cons, pow_succ]
      omega

/-- **Digits in equal number** are ordered as texts exactly as the numbers they spell. -/
theorem lt_iff_ofDigitChars_lt {first second : Text} (hfirst : ∀ c ∈ first, c.isDigit = true)
    (hsecond : ∀ c ∈ second, c.isDigit = true) (hlength : first.length = second.length) :
    first < second ↔ Nat.ofDigitChars 10 first 0 < Nat.ofDigitChars 10 second 0 := by
  induction first generalizing second with
  | nil =>
      obtain rfl := List.length_eq_zero_iff.mp hlength.symm
      simp
  | cons c first ih =>
      cases second with
      | nil => exact absurd hlength (Nat.succ_ne_zero _)
      | cons d second =>
          obtain ⟨hc, hfirst⟩ := List.forall_mem_cons.mp hfirst
          obtain ⟨hd, hsecond⟩ := List.forall_mem_cons.mp hsecond
          have hsame : first.length = second.length := Nat.succ.inj hlength
          have hclow := (bounds_of_isDigit hc).1
          have hdlow := (bounds_of_isDigit hd).1
          have hless : c < d ↔ c.toNat - '0'.toNat < d.toNat - '0'.toNat := by
            show c.toNat < d.toNat ↔ _
            omega
          have hequal : c = d ↔ c.toNat - '0'.toNat = d.toNat - '0'.toNat := by
            rw [← Char.toNat_inj]
            omega
          have hbelow := ofDigitChars_lt hfirst
          rw [hsame] at hbelow
          rw [List.cons_lt_cons_iff, ofDigitChars_cons_zero, ofDigitChars_cons_zero, hsame,
            mul_add_lt_iff hbelow (ofDigitChars_lt hsecond), hless, hequal,
            ih hfirst hsecond hsame]

/-! ## Sort keys -/

theorem isDigit_of_mem_sortKey {index : Nat} {c : Char} (h : c ∈ sortKey index) :
    c.isDigit = true := by
  rcases List.mem_append.mp h with h | h
  · rw [List.eq_of_mem_replicate h]
    rfl
  · exact Nat.isDigit_of_mem_toDigits (by decide) (by decide) h

/-- The zeros in front do not count. -/
theorem ofDigitChars_sortKey (index : Nat) : Nat.ofDigitChars 10 (sortKey index) 0 = index := by
  rw [sortKey, Nat.ofDigitChars_append, Nat.ofDigitChars_replicate_zero, Nat.mul_zero,
    Nat.ofDigitChars_toDigits (by decide) (by decide)]

theorem sortKey_injective : Function.Injective sortKey := by
  intro i j h
  rw [← ofDigitChars_sortKey i, h, ofDigitChars_sortKey]

theorem nodup_map_sortKey (n : Nat) : ((List.range n).map sortKey).Nodup :=
  List.nodup_range.map sortKey_injective

theorem length_sortKey {index : Nat} (h : index < 10000) : (sortKey index).length = 4 := by
  have hdigits : (Nat.toDigits 10 index).length ≤ 4 :=
    (Nat.length_toDigits_le_iff (by decide) (by decide)).mpr h
  rw [sortKey, List.length_append, List.length_replicate]
  omega

/-- Below 10000 the keys are in the order of the indices. -/
theorem sortKey_lt {i j : Nat} (h : i < j) (hj : j < 10000) : sortKey i < sortKey j := by
  have hlength : (sortKey i).length = (sortKey j).length := by
    rw [length_sortKey (Nat.lt_trans h hj), length_sortKey hj]
  rw [lt_iff_ofDigitChars_lt (fun _ => isDigit_of_mem_sortKey) (fun _ => isDigit_of_mem_sortKey)
    hlength, ofDigitChars_sortKey, ofDigitChars_sortKey]
  exact h

/-- **The limit of the order**: the keys of a list of indices are in strict order as long as there
are no more than 10000 of them. -/
theorem pairwise_sortKey_iff (n : Nat) :
    ((List.range n).map sortKey).Pairwise (· < ·) ↔ n ≤ 10000 := by
  rw [List.pairwise_map]
  constructor
  · intro h
    by_contra hn
    have hlength : 10000 < (List.range n).length := by
      rw [List.length_range]
      omega
    have hpair := List.pairwise_iff_getElem.mp h 9999 10000 (Nat.lt_of_succ_lt hlength) hlength
      (by decide)
    rw [List.getElem_range, List.getElem_range] at hpair
    -- five digits that begin with a one come before four nines
    exact absurd hpair (by decide)
  · intro hn
    apply List.pairwise_lt_range.imp_of_mem
    intro i j _ hj hlt
    exact sortKey_lt hlt (Nat.lt_of_lt_of_le (List.mem_range.mp hj) hn)

/-! ## What a client shows -/

theorem precedes_iff {a b : Text} : precedes a b = true ↔ ¬ b < a := by
  simp [precedes]

theorem precedes_trans {a b c : Text} (hab : precedes a b = true) (hbc : precedes b c = true) :
    precedes a c = true := by
  rw [precedes_iff, not_lt] at hab hbc ⊢
  exact hab.trans hbc

theorem precedes_total (a b : Text) : (precedes a b || precedes b a) = true := by
  rw [Bool.or_eq_true, precedes_iff, precedes_iff, not_lt, not_lt]
  exact le_total a b

/-- The items in the order of their sort keys. -/
def displayed (items : List Item) : List Item :=
  items.mergeSort fun first second => precedes first.sortText second.sortText

/-- A list is shown as it is exactly when its keys are in order. -/
theorem displayed_eq_self_iff {items : List Item} :
    displayed items = items
      ↔ items.Pairwise fun first second => precedes first.sortText second.sortText = true := by
  constructor
  · intro h
    rw [← h]
    apply List.pairwise_mergeSort
    · intro first second third
      exact precedes_trans
    · intro first second
      exact precedes_total first.sortText second.sortText
  · intro h
    exact List.mergeSort_of_pairwise h

/-- Distinct keys are in order exactly when they increase strictly. -/
theorem displayed_eq_self_iff_of_nodup {items : List Item}
    (hdistinct : (items.map (·.sortText)).Nodup) :
    displayed items = items ↔ (items.map (·.sortText)).Pairwise (· < ·) := by
  rw [displayed_eq_self_iff, List.pairwise_map]
  rw [List.Nodup, List.pairwise_map] at hdistinct
  constructor
  · intro h
    apply (h.and hdistinct).imp
    rintro first second ⟨hle, hne⟩
    exact lt_of_le_of_ne (not_lt.mp (precedes_iff.mp hle)) hne
  · intro h
    apply h.imp
    intro first second hlt
    exact precedes_iff.mpr (not_lt_of_gt hlt)

/-- The labels are distinct, and the sort keys show the items in the order in which they are listed
as long as there are no more than `limit` of them. -/
structure OrderedUpTo (limit : Nat) (items : List Item) : Prop where
  labels_nodup : (items.map (·.label)).Nodup
  keys_ordered_iff : (items.map (·.sortText)).Pairwise (· < ·) ↔ items.length ≤ limit
  displayed_iff : displayed items = items ↔ items.length ≤ limit

section

variable {make : Text → Text → Item} (hlabel : ∀ label key, (make label key).label = label)
  (hkey : ∀ label key, (make label key).sortText = key)

include hkey in
/-- The keys of an itemized list are those of its indices. -/
theorem map_sortText_itemize (labels : List Text) :
    (itemize labels make).map (·.sortText)
      = (List.range (itemize labels make).length).map sortKey := by
  have hlength : (itemize labels make).length = labels.eraseDups.length := by
    rw [itemize, List.length_map, List.length_zipIdx]
  calc (itemize labels make).map (·.sortText)
      = (labels.eraseDups.zipIdx.map Prod.snd).map sortKey := by
        rw [itemize, List.map_map, List.map_map]
        apply List.map_congr_left
        intro entry _
        exact hkey entry.1 (sortKey entry.2)
    _ = (List.range (itemize labels make).length).map sortKey := by
        rw [List.zipIdx_map_snd, hlength, List.range_eq_range']

include hlabel hkey

theorem orderedUpTo_itemize (labels : List Text) :
    OrderedUpTo 10000 (itemize labels make) := by
  have hkeys := map_sortText_itemize hkey labels
  have hlimit : ((itemize labels make).map (·.sortText)).Pairwise (· < ·)
      ↔ (itemize labels make).length ≤ 10000 := by
    rw [hkeys, pairwise_sortKey_iff]
  have hdistinct : ((itemize labels make).map (·.sortText)).Nodup := by
    rw [hkeys]
    exact nodup_map_sortKey _
  refine ⟨?_, hlimit, ?_⟩
  · rw [map_label_itemize hlabel]
    exact Schema.nodup_eraseDups labels
  · rw [displayed_eq_self_iff_of_nodup hdistinct, hlimit]

end

theorem orderedUpTo_nil (limit : Nat) : OrderedUpTo limit [] := by
  refine ⟨List.nodup_nil, ?_, ?_⟩
  · simp
  · simp [displayed]

/-! ## All suggestions -/

/-- Tables with an attribute that takes `n` values. -/
def countedTables (n : Nat) : Schema.Tables where
  hierarchy := [(Markup.documentRoot, [['a']])]
  enums := [(['k'], (List.range n).map sortKey)]

/-- Lists of suggestions may have any length. -/
theorem exists_length_valueItems (n : Nat) :
    ∃ schema, Schema.ofTables (countedTables n) = .ok schema
      ∧ (valueItems schema (some ['k'])).length = n := by
  obtain ⟨schema, hschema⟩ : ∃ schema, Schema.ofTables (countedTables n) = .ok schema := ⟨_, rfl⟩
  refine ⟨schema, hschema, ?_⟩
  rw [valueItems_some (by simp), itemize, List.length_map, List.length_zipIdx, Schema.domainOf?,
    Schema.enums_of_ofTables hschema]
  show ((List.range n).map sortKey).eraseDups.eraseDups.length = n
  rw [Schema.eraseDups_of_nodup (nodup_map_sortKey n),
    Schema.eraseDups_of_nodup (nodup_map_sortKey n), List.length_map, List.length_range]

/-- **Suggestions come in the order of declaration** as long as there are no more than 10000 of
them, whether elements, attributes, values or closing tags are suggested: the labels are distinct,
and the sort keys increase strictly, so that a client that sorts by them keeps the order, exactly up
to this number. And a schema may well have more to suggest. -/
theorem suggestions_ordered :
    (∀ (schema : Schema) (parent : Text), OrderedUpTo 10000 (elementItems schema parent))
      ∧ (∀ (schema : Schema) (element : Option Text) (existing : List Text),
          OrderedUpTo 10000 (attributeItems schema element existing))
      ∧ (∀ (schema : Schema) (attr : Option Text), OrderedUpTo 10000 (valueItems schema attr))
      ∧ (∀ before : Text, OrderedUpTo 10000 (closingItems before))
      ∧ ∀ n, ∃ tables schema attr, Schema.ofTables tables = .ok schema
          ∧ (valueItems schema (some attr)).length = n := by
  refine ⟨?_, ?_, ?_, ?_, ?_⟩
  · intro schema parent
    exact orderedUpTo_itemize (fun _ _ => rfl) (fun _ _ => rfl) _
  · intro schema element existing
    match element with
    | none | some [] => exact orderedUpTo_nil 10000
    | some (c :: name) =>
        rw [attributeItems_some (List.cons_ne_nil c name)]
        exact orderedUpTo_itemize (fun _ _ => rfl) (fun _ _ => rfl) _
  · intro schema attr
    match attr with
    | none | some [] => exact orderedUpTo_nil 10000
    | some (c :: name) =>
        rw [valueItems_some (List.cons_ne_nil c name)]
        exact orderedUpTo_itemize (fun _ _ => rfl) (fun _ _ => rfl) _
  · intro before
    exact orderedUpTo_itemize (fun _ _ => rfl) (fun _ _ => rfl) _
  · intro n
    obtain ⟨schema, hschema, hlength⟩ := exists_length_valueItems n
    exact ⟨countedTables n, schema, ['k'], hschema, hlength⟩

end TagLens.Assist
