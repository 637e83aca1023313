import TagLens.Proofs.Cursor.Classification
import TagLens.Proofs.Cursor.LastTag
import TagLens.Proofs.Markup.Unquoted

/-!
# Counting quotation marks and reading quoted values

Two rules look at the quotation marks of the tag being typed. The classification counts them, each
of the two on its own, and takes an odd number for an open value. The attributes already written
are found by taking away the quoted values from left to right, so there a value is open when a mark
is left over.

The two differ by the marks *inside* finished values, which reading passes over and counting does
not. `inAttributeValue_iff_unquoted` says by how much, and that the rules agree wherever the
finished values hold each mark an even number of times. An apostrophe in a finished value is enough
to tell them apart (`inAttributeValue_strayMark`).
-/

namespace TagLens.Cursor

open Markup (unquoted quotedValues)
open Text (doubleQuote singleQuote isBlank isQuote)

/-- Each of the two quotation marks stands in the text an even number of times. -/
def EvenMarks (text : Text) : Prop := ∀ q, isQuote q = true → text.count q % 2 = 0

/-- The same of what stands inside the finished values of the text, all together. -/
def EvenInside (text : Text) : Prop := EvenMarks (quotedValues text).flatten

/-! ## The rule that counts -/

theorem evenMarks_iff {text : Text} : EvenMarks text ↔ hasOpenQuote text = false := by
  rw [hasOpenQuote_eq_false_iff]
  constructor
  · intro h
    exact ⟨h doubleQuote rfl, h singleQuote rfl⟩
  · rintro ⟨hdouble, hsingle⟩ q hq
    have hcases : q = doubleQuote ∨ q = singleQuote := by simpa [isQuote] using hq
    rcases hcases with rfl | rfl
    · exact hdouble
    · exact hsingle

theorem EvenMarks.append {text other : Text} (h : EvenMarks text) (hother : EvenMarks other) :
    EvenMarks (text ++ other) := by
  intro q hq
  have hleft := h q hq
  have hright := hother q hq
  rw [List.count_append]
  omega

theorem Quoteless.evenMarks {text : Text} (h : Quoteless text) : EvenMarks text := by
  intro q hq
  rw [h.count_eq_zero hq]

instance (text : Text) : Decidable (EvenMarks text) := decidable_of_iff _ evenMarks_iff.symm

instance (text : Text) : Decidable (EvenInside text) :=
  inferInstanceAs (Decidable (EvenMarks _))

theorem hasOpenQuote_iff {text : Text} :
    hasOpenQuote text = true ↔ ∃ q, isQuote q = true ∧ text.count q % 2 = 1 := by
  rw [← Bool.not_eq_false, ← evenMarks_iff, EvenMarks]
  push Not
  simp only [ne_eq, Nat.mod_two_ne_zero]

/-- Counting sees the marks that are left over together with those inside the finished values. -/
theorem hasOpenQuote_iff_unquoted {text : Text} :
    hasOpenQuote text = true
      ↔ ∃ q, isQuote q = true
        ∧ ((unquoted text).count q + (quotedValues text).flatten.count q) % 2 = 1 := by
  rw [hasOpenQuote_iff]
  simp only [Markup.count_mod_two]

theorem hasOpenQuote_congr {text other : Text}
    (h : ∀ q, isQuote q = true → text.count q % 2 = other.count q % 2) :
    hasOpenQuote text = hasOpenQuote other := by
  rw [hasOpenQuote, hasOpenQuote, h doubleQuote rfl, h singleQuote rfl]

theorem inAttributeValue_tag {inner : Text} (hlt : '<' ∉ inner) (hgt : '>' ∉ inner) :
    inAttributeValue ('<' :: inner) = hasOpenQuote ('<' :: inner) := by
  have htag := unterminatedTag?_append [] (isInsideTag_of_not_mem hlt hgt)
  rw [inAttributeValue, show unterminatedTag? ('<' :: inner) = some ('<' :: inner) from htag]

/-! ## Where the rules agree -/

/-- A mark is left over at most once, so where nothing inside the finished values disturbs the
count, an odd number is a mark left over. -/
theorem hasOpenQuote_of_evenInside {text : Text} (h : EvenInside text) :
    hasOpenQuote text = true ↔ ∃ q ∈ unquoted text, isQuote q = true := by
  rw [hasOpenQuote_iff_unquoted]
  constructor
  · rintro ⟨q, hq, hodd⟩
    have heven := h q hq
    refine ⟨q, ?_, hq⟩
    apply List.count_pos_iff.mp
    omega
  · rintro ⟨q, hleft, hq⟩
    have heven := h q hq
    have hpos := List.count_pos_iff.mpr hleft
    have hone := Markup.count_unquoted_le_one hq text
    exact ⟨q, hq, by omega⟩

/-- Behind finished values alone an odd number comes from the marks inside them. -/
theorem hasOpenQuote_of_finished {text : Text} (h : ∀ c ∈ unquoted text, isQuote c = false) :
    hasOpenQuote text = true ↔ ¬ EvenInside text := by
  have hnone : ∀ q, isQuote q = true → (unquoted text).count q = 0 := by
    intro q hq
    rw [List.count_eq_zero]
    intro hmem
    rw [h q hmem] at hq
    exact absurd hq (by simp)
  rw [hasOpenQuote_iff_unquoted, EvenInside, EvenMarks]
  push Not
  constructor
  · rintro ⟨q, hq, hodd⟩
    have hzero := hnone q hq
    exact ⟨q, hq, by omega⟩
  · rintro ⟨q, hq, hodd⟩
    have hzero := hnone q hq
    exact ⟨q, hq, by omega⟩

/-! ## A finished value and what follows it -/

section

variable {before value after : Text} {q : Char}

/-- The kind of a place behind a finished value does not depend on the value, if that holds each
mark an even number of times. Blank space in front of the value keeps the one inside it from
counting as the first of the tag. -/
theorem kindInTag_value (hblank : before.any isBlank = true)
    (heven : EvenMarks value) :
    kindInTag (before ++ q :: (value ++ q :: after)) = kindInTag (before ++ q :: q :: after) := by
  have hne : before ≠ [] := by
    rintro rfl
    simp at hblank
  have hquote : hasOpenQuote (before ++ q :: (value ++ q :: after))
      = hasOpenQuote (before ++ q :: q :: after) := by
    apply hasOpenQuote_congr
    intro other hother
    -- both texts have the two delimiters; what one has more of is even
    have hvalue := heven other hother
    simp only [List.count_append, List.count_cons]
    omega
  have hslash : ∀ rest : Text, before ++ rest ≠ ['/'] := by
    intro rest heq
    have hany : (before ++ rest).any isBlank = true := by simp [hblank]
    rw [heq] at hany
    exact absurd hany (by decide)
  have hhead : ∀ rest : Text, (before ++ rest).head? = before.head? := by
    intro rest
    obtain ⟨c, more, rfl⟩ := List.exists_cons_of_ne_nil hne
    rfl
  have hlast : (before ++ q :: (value ++ q :: after)).getLast?
      = (before ++ q :: q :: after).getLast? := by
    simp [List.getLast?_append, List.getLast?_cons]
  simp only [kindInTag, hquote, hslash, hhead, hlast, List.any_append, hblank, Bool.true_or,
    if_false]

theorem classify_value (hblank : before.any isBlank = true)
    (heven : EvenMarks value)
    (hinside : ∀ c ∈ before ++ q :: (value ++ q :: after), isInsideTag c = true) :
    classify ('<' :: (before ++ q :: (value ++ q :: after)))
      = classify ('<' :: (before ++ q :: q :: after)) := by
  have hshort : ∀ c ∈ before ++ q :: q :: after, isInsideTag c = true := by
    intro c hc
    apply hinside
    simp only [List.mem_append, List.mem_cons] at hc ⊢
    tauto
  have hwith : classify ('<' :: (before ++ q :: (value ++ q :: after))) = _ :=
    classify_tag [] hinside
  have hwithout : classify ('<' :: (before ++ q :: q :: after)) = _ := classify_tag [] hshort
  rw [hwith, hwithout, kindInTag_value hblank heven]

end

/-- **Open values, counted and read.** In the tag being typed the cursor counts as inside a value
exactly when for one of the two marks the number left over by reading and the number inside finished
values are odd together. So where each mark stands an even number of times inside the finished
values, it counts as inside a value exactly when reading leaves a mark; and where reading leaves
none, exactly when that is not so. In particular what a finished value holds does not matter to the
places behind it, as long as it holds each mark an even number of times. -/
theorem inAttributeValue_iff_unquoted :
    (∀ inner : Text, '<' ∉ inner → '>' ∉ inner →
      (inAttributeValue ('<' :: inner) = true
        ↔ ∃ q, isQuote q = true
          ∧ ((unquoted ('<' :: inner)).count q + (quotedValues ('<' :: inner)).flatten.count q) % 2
            = 1)
      ∧ (EvenInside ('<' :: inner) →
        (inAttributeValue ('<' :: inner) = true
          ↔ ∃ q ∈ unquoted ('<' :: inner), isQuote q = true))
      ∧ ((∀ c ∈ unquoted ('<' :: inner), isQuote c = false) →
        (inAttributeValue ('<' :: inner) = true ↔ ¬ EvenInside ('<' :: inner))))
    ∧ ∀ (before value after : Text) (q : Char), before.any isBlank = true → EvenMarks value →
      '<' ∉ before ++ q :: (value ++ q :: after) → '>' ∉ before ++ q :: (value ++ q :: after) →
      classify ('<' :: (before ++ q :: (value ++ q :: after)))
        = classify ('<' :: (before ++ q :: q :: after)) := by
  refine ⟨?_, ?_⟩
  · intro inner hlt hgt
    rw [inAttributeValue_tag hlt hgt]
    exact ⟨hasOpenQuote_iff_unquoted, hasOpenQuote_of_evenInside, hasOpenQuote_of_finished⟩
  · intro before value after q hblank heven hlt hgt
    exact classify_value hblank heven (isInsideTag_of_not_mem hlt hgt)

/-- A finished value with two apostrophes, and then an open one: both rules see the open value. -/
theorem inAttributeValue_iff_unquoted_twoApostrophes :
    inAttributeValue "<a x=\"'tis'\" y='".toList = true
      ∧ (∃ q ∈ unquoted "<a x=\"'tis'\" y='".toList, isQuote q = true)
      ∧ classify "<a x=\"'tis'\" ".toList = classify "<a x=\"\" ".toList := by
  obtain ⟨hrules, hvalues⟩ := inAttributeValue_iff_unquoted
  obtain ⟨-, hagree, -⟩ := hrules "a x=\"'tis'\" y='".toList (by decide) (by decide)
  have hopen : inAttributeValue "<a x=\"'tis'\" y='".toList = true := by decide
  exact ⟨hopen, (hagree (by decide +kernel)).mp hopen,
    hvalues "a x=".toList "'tis'".toList [' '] doubleQuote (by decide) (by decide) (by decide)
      (by decide)⟩

/-- **The rules can differ, both ways.** Behind a finished value with an apostrophe counting takes
the cursor for inside a value, where reading finds nothing open; and a double quotation mark inside
a finished value makes up for one that has just been typed. -/
theorem inAttributeValue_strayMark :
    (inAttributeValue "<a x=\"it's\" ".toList = true
      ∧ ∀ c ∈ unquoted "<a x=\"it's\" ".toList, isQuote c = false)
    ∧ inAttributeValue "<a x='\"' y=\"".toList = false
      ∧ ∃ c ∈ unquoted "<a x='\"' y=\"".toList, isQuote c = true := by
  have hleft : (unquoted "<a x=\"it's\" ".toList).any isQuote = false := by decide +kernel
  refine ⟨⟨by decide, ?_⟩, by decide, doubleQuote, by decide +kernel, rfl⟩
  intro c hc
  exact Bool.eq_false_iff.mpr (List.any_eq_false.mp hleft c hc)

end TagLens.Cursor
