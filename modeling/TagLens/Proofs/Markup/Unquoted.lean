import TagLens.Markup.Attribute
import TagLens.Proofs.Text.Search

/-!
# Quoted values taken away

`unquoted` walks over a text from left to right and takes every complete quoted value away. A text
is therefore put together from characters that stay and from quoted values that go, and
`quoted_induction` follows that. `quotedValues` collects what was inside the values.

A quotation mark stays only if it never comes again, so each of the two stays at most once
(`count_unquoted_le_one`), and since delimiters go in pairs, the marks of a text are, up to an even
number, those that stay and those inside the values (`count_mod_two`).
-/

namespace TagLens.Markup

open Text (isQuote)

/-- What stands inside the complete quoted values that `unquoted` takes away, in order. -/
def quotedValues (text : Text) : List Text :=
  match text with
  | [] => []
  | c :: rest =>
    if isQuote c && List.elem c rest then
      rest.takeWhile (· != c) :: quotedValues ((rest.dropWhile (· != c)).drop 1)
    else quotedValues rest
termination_by text.length
decreasing_by
  · have := Text.length_dropWhile_le (· != c) rest
    simp only [List.length_drop, List.length_cons]
    omega
  · simp

/-! ## One step of the walk -/

section

variable {c q : Char} {value rest : Text}

theorem complete_eq_false (h : isQuote c = true → c ∉ rest) :
    (isQuote c && List.elem c rest) = false := by
  cases hc : isQuote c with
  | false => rfl
  | true => simpa using h hc

theorem complete_value (hq : isQuote q = true) :
    (isQuote q && List.elem q (value ++ q :: rest)) = true := by
  simp [hq]

theorem drop_value (h : q ∉ value) :
    ((value ++ q :: rest).dropWhile (· != q)).drop 1 = rest := by
  rw [List.dropWhile_append_of_pos]
  · simp
  · intro c hc
    have hne : c ≠ q := by
      rintro rfl
      exact h hc
    simp [hne]

/-- A character that is no quotation mark stays, and so does a mark that never comes again. -/
theorem unquoted_cons (h : isQuote c = true → c ∉ rest) :
    unquoted (c :: rest) = c :: unquoted rest := by
  rw [unquoted, complete_eq_false h]
  rfl

theorem quotedValues_cons (h : isQuote c = true → c ∉ rest) :
    quotedValues (c :: rest) = quotedValues rest := by
  rw [quotedValues, complete_eq_false h]
  rfl

/-- A complete quoted value goes. -/
theorem unquoted_value (hq : isQuote q = true) (h : q ∉ value) :
    unquoted (q :: (value ++ q :: rest)) = unquoted rest := by
  rw [unquoted, if_pos (complete_value hq), drop_value h]

theorem quotedValues_value (hq : isQuote q = true) (h : q ∉ value) :
    quotedValues (q :: (value ++ q :: rest)) = value :: quotedValues rest := by
  rw [quotedValues, if_pos (complete_value hq), drop_value h, Text.takeWhile_ne_append h]

end

/-- A stretch without quotation marks stays as it is. -/
theorem unquoted_append {text : Text} (h : ∀ c ∈ text, isQuote c = false) (rest : Text) :
    unquoted (text ++ rest) = text ++ unquoted rest := by
  induction text with
  | nil => rfl
  | cons c text ih =>
      obtain ⟨hc, htext⟩ := List.forall_mem_cons.mp h
      rw [List.cons_append, unquoted_cons (by simp [hc]), ih htext, List.cons_append]

/-- Induction along the walk: a character stays, or a quoted value goes. -/
@[elab_as_elim]
theorem quoted_induction {motive : Text → Prop} (text : Text) (nil : motive [])
    (stays : ∀ c rest, (isQuote c = true → c ∉ rest) → motive rest → motive (c :: rest))
    (goes : ∀ q value rest, isQuote q = true → q ∉ value → motive rest →
      motive (q :: (value ++ q :: rest))) : motive text := by
  fun_induction unquoted text with
  | case1 => exact nil
  | case2 c rest hcomplete ih =>
      simp only [Bool.and_eq_true, List.elem_eq_mem, decide_eq_true_eq] at hcomplete
      obtain ⟨hc, hmem⟩ := hcomplete
      obtain ⟨value, after, rfl, hvalue⟩ := List.eq_append_cons_of_mem hmem
      rw [drop_value hvalue] at ih
      exact goes c value after hc hvalue ih
  | case3 c rest hincomplete ih =>
      apply stays c rest _ ih
      intro hc hmem
      exact hincomplete (by simp [hc, hmem])

/-! ## Which marks stay -/

theorem mem_of_mem_unquoted {text : Text} {c : Char} (h : c ∈ unquoted text) : c ∈ text := by
  induction text using quoted_induction with
  | nil => simp [unquoted] at h
  | stays d rest hd ih =>
      rw [unquoted_cons hd, List.mem_cons] at h
      rcases h with rfl | h
      · simp
      · exact List.mem_cons_of_mem d (ih h)
  | goes q value rest hq hvalue ih =>
      rw [unquoted_value hq hvalue] at h
      simp [ih h]

/-- A quotation mark stays at most once: behind one that stays there is no other. -/
theorem count_unquoted_le_one {q : Char} (hq : isQuote q = true) (text : Text) :
    (unquoted text).count q ≤ 1 := by
  induction text using quoted_induction with
  | nil => simp [unquoted]
  | stays c rest hc ih =>
      rw [unquoted_cons hc]
      by_cases heq : c = q
      · subst heq
        have hnone : c ∉ unquoted rest := fun hmem => hc hq (mem_of_mem_unquoted hmem)
        rw [List.count_cons_self, List.count_eq_zero.mpr hnone]
      · rwa [List.count_cons_of_ne heq]
  | goes d value rest hd hvalue ih => rwa [unquoted_value hd hvalue]

/-- **Marks up to pairs**: the delimiters of the values that go come in pairs, so what decides about
an odd number of marks are those that stay and those inside the values. -/
theorem count_mod_two (q : Char) (text : Text) :
    text.count q % 2 = ((unquoted text).count q + (quotedValues text).flatten.count q) % 2 := by
  induction text using quoted_induction with
  | nil => simp [unquoted, quotedValues]
  | stays c rest hc ih =>
      rw [unquoted_cons hc, quotedValues_cons hc, List.count_cons, List.count_cons]
      omega
  | goes d value rest hd hvalue ih =>
      rw [unquoted_value hd hvalue, quotedValues_value hd hvalue, List.flatten_cons]
      simp only [List.count_cons, List.count_append]
      omega

end TagLens.Markup
