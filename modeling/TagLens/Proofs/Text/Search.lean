import Mathlib.Data.List.Infix
import TagLens.Text.Basic
import TagLens.Text.Lines

/-!
# Searching a text piece by piece

`occurrences` moves on by one character where its reader fails and by a whole find where it
succeeds. A text that is put together from known pieces is therefore searched piece by piece:

* `occurrences_skip` — a piece inside which nothing begins is passed over;
* `occurrences_hit` — a piece that is a find as a whole is recorded.

A reader that never takes more than there is (`Reader.Fits`) keeps every find inside the text. Every
find was read where it begins (`exists_split_of_mem_occurrences`), and wherever something can be read
there is a find (`exists_mem_occurrences_of_read`). The last parts say when a text can be searched
in two parts, what `contains` looks for, and how lines follow the pieces of a text.
-/

namespace TagLens.Text

variable {α : Type} {read : Reader α}

/-! ## Reading up to a character -/

theorem takeWhile_ne_append {q : Char} {before : Text} (h : q ∉ before) (rest : Text) :
    (before ++ q :: rest).takeWhile (· != q) = before := by
  rw [List.takeWhile_append_of_pos]
  · simp
  · intro c hc
    have hne : c ≠ q := by
      rintro rfl
      exact h hc
    simp [hne]

/-- A run of characters ends where one stands that does not belong to it. -/
theorem takeWhile_append_of_neg {p : Char → Bool} {c : Char} (hc : p c = false)
    (text rest : Text) : (text ++ c :: rest).takeWhile p = text.takeWhile p := by
  induction text with
  | nil => simp [hc]
  | cons d text ih => rw [List.cons_append, List.takeWhile_cons, List.takeWhile_cons, ih]

/-! ## The search loop -/

@[simp] theorem occurrences_nil (offset : Nat) : occurrences read offset [] = [] := by
  rw [occurrences]

/-- Where the reader fails the search moves on by one character. -/
theorem occurrences_cons_none {c : Char} {rest : Text} (offset : Nat)
    (h : read (c :: rest) = none) :
    occurrences read offset (c :: rest) = occurrences read (offset + 1) rest := by
  rw [occurrences, h]

/-- Where the reader succeeds the search goes on behind the find. -/
theorem occurrences_some {text : Text} {a : α} {n : Nat} (offset : Nat)
    (h : read text = some (a, n)) (ht : text ≠ []) (hn : 0 < n) :
    occurrences read offset text
      = ⟨offset, offset + n, a⟩ :: occurrences read (offset + n) (text.drop n) := by
  obtain ⟨c, rest, rfl⟩ := List.exists_cons_of_ne_nil ht
  obtain ⟨m, rfl⟩ : ∃ m, n = m + 1 := ⟨n - 1, by omega⟩
  rw [occurrences, h]
  simp

/-- What the search goes on with behind a find, when the find is a known piece of the text. -/
theorem drop_pred_of_eq_append {c : Char} {rest piece after : Text} (hne : piece ≠ [])
    (h : c :: rest = piece ++ after) : rest.drop (piece.length - 1) = after := by
  obtain ⟨d, piece, rfl⟩ := List.exists_cons_of_ne_nil hne
  obtain ⟨-, rfl⟩ := List.cons.inj h
  simp

/-- A piece inside which nothing begins is passed over. The reader is tried on the piece
together with what follows it, since a find may well reach beyond the piece. -/
theorem occurrences_skip {piece : Text} (offset : Nat) (rest : Text)
    (h : ∀ before tail, piece = before ++ tail → tail ≠ [] → read (tail ++ rest) = none) :
    occurrences read offset (piece ++ rest) = occurrences read (offset + piece.length) rest := by
  induction piece generalizing offset with
  | nil => simp
  | cons c piece ih =>
      have hhere : read (c :: (piece ++ rest)) = none := h [] (c :: piece) rfl (by simp)
      have hlater : ∀ before tail, piece = before ++ tail → tail ≠ [] →
          read (tail ++ rest) = none := by
        intro before tail hsplit hne
        exact h (c :: before) tail (by simp [hsplit]) hne
      rw [List.cons_append, occurrences_cons_none _ hhere, ih _ hlater]
      congr 1
      simp only [List.length_cons]
      omega

/-- A reader that looks at the first character only passes over every piece without a
character it accepts. -/
theorem occurrences_skip_of_forall {piece : Text} (offset : Nat) (rest : Text)
    (h : ∀ c ∈ piece, ∀ tail, read (c :: tail) = none) :
    occurrences read offset (piece ++ rest) = occurrences read (offset + piece.length) rest := by
  apply occurrences_skip
  intro before tail hsplit hne
  obtain ⟨c, tail, rfl⟩ := List.exists_cons_of_ne_nil hne
  exact h c (by simp [hsplit]) (tail ++ rest)

/-- A piece that is a find as a whole is recorded, and the search goes on behind it. -/
theorem occurrences_hit {piece : Text} {a : α} (offset : Nat) (rest : Text) (hne : piece ≠ [])
    (h : read (piece ++ rest) = some (a, piece.length)) :
    occurrences read offset (piece ++ rest)
      = ⟨offset, offset + piece.length, a⟩ :: occurrences read (offset + piece.length) rest := by
  have hlen : 0 < piece.length := List.length_pos_of_ne_nil hne
  rw [occurrences_some offset h (by simp [hne]) hlen, List.drop_left]

/-- Nothing is found in a text at none of whose characters anything begins. -/
theorem occurrences_eq_nil {text : Text} (offset : Nat)
    (h : ∀ before tail, text = before ++ tail → tail ≠ [] → read tail = none) :
    occurrences read offset text = [] := by
  have hskip : occurrences read offset (text ++ []) = occurrences read (offset + text.length) [] :=
    occurrences_skip offset [] (by simpa using h)
  simpa using hskip

/-! ## Finds stay inside the text -/

/-- The reader takes at least one character and never more than there are. -/
def Reader.Fits (read : Reader α) : Prop :=
  ∀ text a n, read text = some (a, n) → 0 < n ∧ n ≤ text.length

/-- Every find was read where it begins, and it ends behind what was read. -/
theorem exists_split_of_mem_occurrences (hfit : Reader.Fits read) {offset : Nat} {text : Text}
    {found : Occurrence α} (h : found ∈ occurrences read offset text) :
    ∃ before tail n, text = before ++ tail ∧ read tail = some (found.value, n)
      ∧ found.start = offset + before.length ∧ found.stop = found.start + n := by
  fun_induction occurrences read offset text with
  | case1 offset => simp at h
  | case2 offset c rest hread ih =>
      obtain ⟨before, tail, n, htext, hfound, hstart, hstop⟩ := ih h
      refine ⟨c :: before, tail, n, by rw [htext, List.cons_append], hfound, ?_, hstop⟩
      rw [hstart, List.length_cons]
      omega
  | case3 offset c rest a n hread ih =>
      obtain ⟨hpos, hle⟩ := hfit _ _ _ hread
      rw [List.length_cons] at hle
      rcases List.mem_cons.mp h with rfl | h
      · exact ⟨[], c :: rest, n, rfl, hread, rfl, rfl⟩
      · obtain ⟨before, tail, m, htext, hfound, hstart, hstop⟩ := ih h
        refine ⟨c :: (rest.take (n - 1) ++ before), tail, m, ?_, hfound, ?_, hstop⟩
        · rw [List.cons_append, List.append_assoc, ← htext, List.take_append_drop]
        · rw [hstart, List.length_cons, List.length_append, List.length_take]
          omega

/-- Wherever something can be read, a find begins or reaches over the place. The induction follows
the search: a place inside a find is never tried. -/
theorem exists_mem_occurrences_of_read (hfit : Reader.Fits read) {text before tail : Text} {a : α}
    {n : Nat} (htext : text = before ++ tail) (hread : read tail = some (a, n)) (offset : Nat) :
    ∃ found ∈ occurrences read offset text,
      found.start ≤ offset + before.length ∧ offset + before.length < found.stop := by
  fun_induction occurrences read offset text generalizing before with
  | case1 offset =>
      obtain ⟨rfl, rfl⟩ := List.append_eq_nil_iff.mp htext.symm
      have hfits := hfit _ _ _ hread
      simp only [List.length_nil] at hfits
      omega
  | case2 offset c rest hnone ih =>
      cases before with
      | nil =>
          rw [List.nil_append] at htext
          rw [htext, hread] at hnone
          exact absurd hnone (by simp)
      | cons d before =>
          obtain ⟨-, hrest⟩ := List.cons.inj htext
          obtain ⟨found, hfound, hstart, hstop⟩ := ih hrest
          rw [List.length_cons]
          exact ⟨found, hfound, by omega, by omega⟩
  | case3 offset c rest b m hsome ih =>
      by_cases hinside : before.length < m
      · exact ⟨_, List.mem_cons_self, Nat.le_add_right _ _, Nat.add_lt_add_left hinside offset⟩
      · have hpos := (hfit _ _ _ hsome).1
        have hlater : rest.drop (m - 1) = before.drop m ++ tail := by
          have hdrop : (c :: rest).drop m = rest.drop (m - 1) := by
            rw [show m = m - 1 + 1 by omega, List.drop_succ_cons, Nat.add_sub_cancel]
          rw [← hdrop, htext, List.drop_append_of_le_length (by omega)]
        obtain ⟨found, hfound, hstart, hstop⟩ := ih hlater
        rw [List.length_drop] at hstart hstop
        exact ⟨found, List.mem_cons_of_mem _ hfound, by omega, by omega⟩

/-- Every find lies between the offset of the text and its end. -/
theorem mem_occurrences_bounds (hfit : Reader.Fits read) {offset : Nat} {text : Text}
    {found : Occurrence α} (h : found ∈ occurrences read offset text) :
    offset ≤ found.start ∧ found.start < found.stop ∧ found.stop ≤ offset + text.length := by
  fun_induction occurrences read offset text with
  | case1 offset => simp at h
  | case2 offset c rest hread ih =>
      have hrest := ih h
      simp only [List.length_cons]
      omega
  | case3 offset c rest a n hread ih =>
      obtain ⟨hpos, hle⟩ := hfit _ _ _ hread
      rw [List.length_cons] at hle ⊢
      rcases List.mem_cons.mp h with rfl | h
      · exact ⟨Nat.le_refl _, by simp only; omega, by simp only; omega⟩
      · have hrest := ih h
        rw [List.length_drop] at hrest
        omega

/-- Every find in a whole text covers some of it. -/
theorem lt_and_le_of_mem_occurrences (hfit : Reader.Fits read) {text : Text}
    {found : Occurrence α} (h : found ∈ occurrences read 0 text) :
    found.start < found.stop ∧ found.stop ≤ text.length := by
  obtain ⟨-, hlt, hstop⟩ := mem_occurrences_bounds hfit h
  rw [Nat.zero_add] at hstop
  exact ⟨hlt, hstop⟩

/-- The finds come in the order of the text and do not overlap. -/
theorem occurrences_pairwise (hfit : Reader.Fits read) (offset : Nat) (text : Text) :
    (occurrences read offset text).Pairwise fun first second => first.stop ≤ second.start := by
  fun_induction occurrences read offset text with
  | case1 offset => exact List.Pairwise.nil
  | case2 offset c rest hread ih => exact ih
  | case3 offset c rest a n hread ih =>
      refine List.pairwise_cons.mpr ⟨?_, ih⟩
      intro second hsecond
      exact (mem_occurrences_bounds hfit hsecond).1

theorem occurrences_ordered (hfit : Reader.Fits read) (offset : Nat) (text : Text) :
    (occurrences read offset text).Pairwise fun first second => first.start < second.start := by
  apply (occurrences_pairwise hfit offset text).imp_of_mem
  intro first second hfirst _ hle
  have hbounds := mem_occurrences_bounds hfit hfirst
  exact Nat.lt_of_lt_of_le hbounds.2.1 hle

/-! ## Searching in two parts -/

/-- A text can be searched on its own when nothing that begins in it depends on what follows. -/
theorem occurrences_append (hfit : Reader.Fits read) {before rest : Text}
    (h : ∀ tail, tail <:+ before → tail ≠ [] → read (tail ++ rest) = read tail) (offset : Nat) :
    occurrences read offset (before ++ rest)
      = occurrences read offset before ++ occurrences read (offset + before.length) rest := by
  fun_induction occurrences read offset before with
  | case1 offset => simp
  | case2 offset c tail hread ih =>
      have hsame : read (c :: (tail ++ rest)) = read (c :: tail) :=
        h (c :: tail) (List.suffix_refl _) (by simp)
      have hlater := ih fun later hsuffix => h later (hsuffix.trans (List.suffix_cons c tail))
      rw [List.cons_append, occurrences_cons_none offset (hsame.trans hread), hlater,
        List.length_cons]
      congr 2
      omega
  | case3 offset c tail a n hread ih =>
      have hsame : read (c :: (tail ++ rest)) = read (c :: tail) :=
        h (c :: tail) (List.suffix_refl _) (by simp)
      obtain ⟨hpos, hle⟩ := hfit _ _ _ hread
      rw [List.length_cons] at hle
      have hdrop : (tail ++ rest).drop (n - 1) = tail.drop (n - 1) ++ rest :=
        List.drop_append_of_le_length (by omega)
      have hafter : tail.drop (n - 1) <:+ c :: tail :=
        (List.drop_suffix _ _).trans (List.suffix_cons c tail)
      rw [List.cons_append, occurrences, hsame.trans hread]
      simp only
      rw [hdrop, ih fun later hsuffix => h later (hsuffix.trans hafter), List.length_drop,
        List.length_cons, List.cons_append]
      congr 3
      omega

/-- A find moved by a number of characters. -/
def Occurrence.shift (n : Nat) (found : Occurrence α) : Occurrence α :=
  ⟨n + found.start, n + found.stop, found.value⟩

/-- What is found does not depend on the offset at which the text begins. -/
theorem occurrences_add (n offset : Nat) (text : Text) :
    occurrences read (n + offset) text
      = (occurrences read offset text).map (Occurrence.shift n) := by
  fun_induction occurrences read offset text with
  | case1 offset => simp
  | case2 offset c rest hread ih => rw [occurrences_cons_none _ hread, Nat.add_assoc, ih]
  | case3 offset c rest a m hread ih =>
      rw [List.map_cons, ← ih, occurrences, hread]
      simp only [Occurrence.shift, Nat.add_assoc]

/-! ## Texts inside a text -/

theorem contains_iff_infix {needle text : Text} :
    contains needle text = true ↔ needle <:+: text := by
  induction text with
  | nil => rw [contains, List.isEmpty_iff, List.infix_nil]
  | cons c rest ih =>
      rw [contains, Bool.or_eq_true, ih, List.isPrefixOf_iff_prefix, List.infix_cons_iff]

/-- A character that is no part of what is looked for separates the places where to look. -/
theorem infix_append_cons_iff {needle before after : Text} {c : Char} (h : c ∉ needle) :
    needle <:+: before ++ c :: after ↔ needle <:+: before ∨ needle <:+: after := by
  constructor
  · rintro ⟨front, back, heq⟩
    rcases List.append_eq_append_iff.mp heq with ⟨part, rfl, -⟩ | ⟨part, hpart, hback⟩
    · exact .inl ⟨front, part, rfl⟩
    · -- the needle ends behind the separator, so it has to begin behind it as well
      rcases List.append_eq_append_iff.mp hpart with ⟨inner, rfl, rfl⟩ | ⟨inner, rfl, rfl⟩
      · cases part with
        | nil => exact .inl ⟨front, [], by simp⟩
        | cons d part =>
            obtain ⟨rfl, -⟩ := List.cons.inj hback
            exact absurd (by simp) h
      · cases inner with
        | nil =>
            cases needle with
            | nil => exact .inl List.nil_infix
            | cons d needle =>
                obtain ⟨rfl, -⟩ := List.cons.inj hback
                exact absurd (by simp) h
        | cons d inner =>
            obtain ⟨-, rfl⟩ := List.cons.inj hback
            exact .inr ⟨inner, back, by simp⟩
  · rintro (⟨front, back, rfl⟩ | ⟨front, back, rfl⟩)
    · exact ⟨front, back ++ c :: after, by simp⟩
    · exact ⟨before ++ c :: front, back, by simp⟩

theorem infix_cons_iff_of_not_mem {needle rest : Text} {c : Char} (h : c ∉ needle)
    (hne : needle ≠ []) : needle <:+: c :: rest ↔ needle <:+: rest := by
  have hsplit : needle <:+: [] ++ c :: rest ↔ needle <:+: [] ∨ needle <:+: rest :=
    infix_append_cons_iff h
  simpa [hne] using hsplit

/-! ## Lines -/

/-- A piece without a line feed goes to the front of the first line. -/
theorem lines_append {piece rest line : Text} {more : List Text} (h : '\n' ∉ piece)
    (hrest : lines rest = line :: more) : lines (piece ++ rest) = (piece ++ line) :: more := by
  induction piece with
  | nil => exact hrest
  | cons c piece ih =>
      rw [List.mem_cons, not_or] at h
      exact lines_cons (Ne.symm h.1) (ih h.2)

theorem length_le_of_mem_lines {text line : Text} (h : line ∈ lines text) :
    line.length ≤ text.length := by
  induction text generalizing line with
  | nil =>
      obtain rfl : line = [] := by simpa using h
      exact Nat.le_refl _
  | cons c rest ih =>
      cases hrest : lines rest with
      | nil => exact absurd hrest (lines_ne_nil rest)
      | cons first more =>
          have hall : ∀ other ∈ first :: more, other.length ≤ rest.length := by
            intro other hother
            exact ih (hrest ▸ hother)
          rw [List.length_cons]
          by_cases hc : c = '\n'
          · subst hc
            rw [lines_newline, hrest, List.mem_cons] at h
            rcases h with rfl | h
            · simp
            · exact Nat.le_succ_of_le (hall line h)
          · rw [lines_cons hc hrest, List.mem_cons] at h
            rcases h with rfl | h
            · exact Nat.succ_le_succ (hall first (by simp))
            · exact Nat.le_succ_of_le (hall line (by simp [h]))

end TagLens.Text
