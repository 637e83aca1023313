import TagLens.Proofs.Text.Search
import TagLens.Text.Blank

/-!
# Carriage returns in front of line feeds

Files may end their lines with a carriage return and a line feed. Read as text, such a file loses
its carriage returns (`joined_universalNewlines`), and `Joined` says how the two texts belong
together: they are the same up to carriage returns in front of line feeds. Texts that are joined can
be cut into joined pieces from either side, and they have the same lines, except that some of them
end with a carriage return in the first text (`Joined.lines`).
-/

namespace TagLens.Text

/-- Every carriage return stands in front of a line feed. -/
def Paired : Text → Prop
  | [] => True
  | c :: rest => (c = '\r' → rest.head? = some '\n') ∧ Paired rest

instance decidablePaired : (text : Text) → Decidable (Paired text)
  | [] => .isTrue trivial
  | c :: rest =>
    have := decidablePaired rest
    inferInstanceAs (Decidable ((c = '\r' → rest.head? = some '\n') ∧ Paired rest))

/-- The first text is the second one with carriage returns in front of some of its line feeds. -/
inductive Joined : Text → Text → Prop where
  | nil : Joined [] []
  | char {c : Char} {first second : Text} (hc : c ≠ '\r') (h : Joined first second) :
    Joined (c :: first) (c :: second)
  | feed {first second : Text} (h : Joined first second) :
    Joined ('\r' :: '\n' :: first) ('\n' :: second)

/-- Without a lone carriage return, reading line ends of every kind drops carriage returns only. -/
theorem joined_universalNewlines {text : Text} (h : Paired text) :
    Joined text (universalNewlines text) := by
  fun_induction universalNewlines text with
  | case1 => exact .nil
  | case2 rest ih => exact .feed (ih h.2.2)
  | case3 c rest hlone ih =>
      have hc : c ≠ '\r' := by
        rintro rfl
        obtain ⟨tail, rfl⟩ := List.head?_eq_some_iff.mp (h.1 rfl)
        exact hlone tail rfl rfl
      rw [if_neg (by simpa using hc)]
      exact .char hc (ih h.2)

theorem universalNewlines_of_not_mem {text : Text} (h : '\r' ∉ text) :
    universalNewlines text = text := by
  fun_induction universalNewlines text with
  | case1 => rfl
  | case2 rest ih => exact absurd (by simp) h
  | case3 c rest hlone ih =>
      rw [List.mem_cons, not_or] at h
      rw [if_neg (by simpa using Ne.symm h.1), ih h.2]

namespace Joined

variable {first second : Text}

/-! ## Pieces -/

theorem append {more other : Text} (h : Joined first second) (hmore : Joined more other) :
    Joined (first ++ more) (second ++ other) := by
  induction h with
  | nil => exact hmore
  | char hc _ ih => exact .char hc ih
  | feed _ ih => exact .feed ih

theorem exists_of_append_right {piece rest : Text} (h : Joined first (piece ++ rest)) :
    ∃ before after, first = before ++ after ∧ Joined before piece ∧ Joined after rest := by
  induction piece generalizing first with
  | nil => exact ⟨[], first, rfl, .nil, h⟩
  | cons c piece ih =>
      cases h with
      | char hc h =>
          obtain ⟨before, after, rfl, hbefore, hafter⟩ := ih h
          exact ⟨c :: before, after, rfl, .char hc hbefore, hafter⟩
      | feed h =>
          obtain ⟨before, after, rfl, hbefore, hafter⟩ := ih h
          exact ⟨'\r' :: '\n' :: before, after, rfl, .feed hbefore, hafter⟩

/-- The first text cannot be cut between a carriage return and its line feed. -/
theorem exists_of_append_left {piece rest : Text} (h : Joined (piece ++ rest) second)
    (hlast : piece.getLast? ≠ some '\r') :
    ∃ before after, second = before ++ after ∧ Joined piece before ∧ Joined rest after := by
  generalize htext : piece ++ rest = text at h
  induction h generalizing piece with
  | nil =>
      obtain ⟨rfl, rfl⟩ := List.append_eq_nil_iff.mp htext
      exact ⟨[], [], rfl, .nil, .nil⟩
  | @char c text second hc h ih =>
      cases piece with
      | nil =>
          obtain rfl : rest = c :: text := htext
          exact ⟨[], c :: second, rfl, .nil, .char hc h⟩
      | cons d piece =>
          obtain ⟨rfl, rfl⟩ := List.cons.inj htext
          have hlast : piece.getLast? ≠ some '\r' := by
            intro heq
            exact hlast (by simp [List.getLast?_cons, heq])
          obtain ⟨before, after, rfl, hbefore, hafter⟩ := ih hlast rfl
          exact ⟨d :: before, after, rfl, .char hc hbefore, hafter⟩
  | @feed text second h ih =>
      cases piece with
      | nil =>
          obtain rfl : rest = '\r' :: '\n' :: text := htext
          exact ⟨[], '\n' :: second, rfl, .nil, .feed h⟩
      | cons d piece =>
          obtain ⟨rfl, htail⟩ := List.cons.inj htext
          cases piece with
          | nil => exact absurd rfl hlast
          | cons e piece =>
              obtain ⟨rfl, rfl⟩ := List.cons.inj htail
              have hlast : piece.getLast? ≠ some '\r' := by
                intro heq
                exact hlast (by simp [List.getLast?_cons, heq])
              obtain ⟨before, after, rfl, hbefore, hafter⟩ := ih hlast rfl
              exact ⟨'\n' :: before, after, rfl, .feed hbefore, hafter⟩

/-! ## What stays the same -/

theorem eq_of_newline_not_mem (h : Joined first second) (hmem : '\n' ∉ second) :
    first = second := by
  induction h with
  | nil => rfl
  | char _ _ ih =>
      rw [List.mem_cons, not_or] at hmem
      rw [ih hmem.2]
  | feed _ _ => exact absurd (by simp) hmem

theorem eq_of_return_not_mem (h : Joined first second) (hmem : '\r' ∉ first) :
    first = second := by
  induction h with
  | nil => rfl
  | char _ _ ih =>
      rw [List.mem_cons, not_or] at hmem
      rw [ih hmem.2]
  | feed _ _ => exact absurd (by simp) hmem

theorem mem_iff (h : Joined first second) {c : Char} (hc : c ≠ '\r') :
    c ∈ first ↔ c ∈ second := by
  induction h with
  | nil => rfl
  | char _ _ ih => rw [List.mem_cons, List.mem_cons, ih]
  | feed _ ih => simp [ih, hc]

theorem count_newline (h : Joined first second) : first.count '\n' = second.count '\n' := by
  induction h with
  | nil => rfl
  | char _ _ ih => rw [List.count_cons, List.count_cons, ih]
  | feed _ ih => simp [ih]

theorem getLast?_eq (h : Joined first second) : first.getLast? = second.getLast? := by
  induction h with
  | nil => rfl
  | char _ _ ih => rw [List.getLast?_cons, List.getLast?_cons, ih]
  | feed _ ih => rw [List.getLast?_cons, List.getLast?_cons, List.getLast?_cons, ih]; rfl

/-- What stands on one line stands at the head of both texts or of neither. -/
theorem isPrefix_iff (h : Joined first second) {piece : Text} (hreturn : '\r' ∉ piece)
    (hfeed : '\n' ∉ piece) : piece <+: first ↔ piece <+: second := by
  constructor
  · rintro ⟨rest, rfl⟩
    obtain ⟨before, after, rfl, hbefore, -⟩ := h.exists_of_append_left
      fun hlast => hreturn (List.mem_of_getLast? hlast)
    rw [hbefore.eq_of_return_not_mem hreturn]
    exact List.prefix_append _ _
  · rintro ⟨rest, rfl⟩
    obtain ⟨before, after, rfl, hbefore, -⟩ := h.exists_of_append_right
    rw [hbefore.eq_of_newline_not_mem hfeed]
    exact List.prefix_append _ _

/-- A carriage return and a line feed are blank space. -/
theorem dropWhile_isBlank (h : Joined first second) :
    Joined (first.dropWhile isBlank) (second.dropWhile isBlank) := by
  induction h with
  | nil => exact .nil
  | @char c first second hc h ih =>
      by_cases hblank : isBlank c = true
      · rw [List.dropWhile_cons_of_pos hblank, List.dropWhile_cons_of_pos hblank]
        exact ih
      · rw [List.dropWhile_cons_of_neg hblank, List.dropWhile_cons_of_neg hblank]
        exact .char hc h
  | feed _ ih =>
      rw [List.dropWhile_cons_of_pos (by decide), List.dropWhile_cons_of_pos (by decide),
        List.dropWhile_cons_of_pos (by decide)]
      exact ih

/-! ## Lines -/

/-- **Lines of joined texts** are the same, up to a carriage return at their end. -/
theorem lines (h : Joined first second) :
    List.Forall₂ (fun line other => line = other ∨ line = other ++ ['\r'])
      (Text.lines first) (Text.lines second) := by
  induction h with
  | nil => exact .cons (.inl rfl) .nil
  | @char c first second hc h ih =>
      by_cases hfeed : c = '\n'
      · subst hfeed
        exact .cons (.inl rfl) ih
      · obtain ⟨line, more, hfirst⟩ := List.exists_cons_of_ne_nil (lines_ne_nil first)
        obtain ⟨other, others, hsecond⟩ := List.exists_cons_of_ne_nil (lines_ne_nil second)
        rw [hfirst, hsecond] at ih
        rw [lines_cons hfeed hfirst, lines_cons hfeed hsecond]
        cases ih with
        | cons hline hmore =>
            refine .cons ?_ hmore
            rcases hline with rfl | rfl
            · exact .inl rfl
            · exact .inr rfl
  | @feed first second h ih =>
      have hreturn : Text.lines ('\r' :: '\n' :: first) = ['\r'] :: Text.lines first :=
        lines_cons (by decide) (lines_newline first)
      rw [hreturn, lines_newline]
      exact .cons (.inr rfl) ih

end Joined

/-! ## Trimmed texts -/

/-- What does not end in a character to be dropped stands at the head of the text with or without
the characters dropped at its end. -/
theorem isPrefix_dropEnd_iff {p : Char → Bool} {piece text : Text} {c : Char}
    (hlast : piece.getLast? = some c) (hc : p c = false) :
    piece <+: (text.reverse.dropWhile p).reverse ↔ piece <+: text := by
  have hsplit :
      (text.reverse.dropWhile p).reverse ++ (text.reverse.takeWhile p).reverse = text := by
    rw [← List.reverse_append, List.takeWhile_append_dropWhile, List.reverse_reverse]
  constructor
  · intro h
    rw [← hsplit]
    exact h.trans (List.prefix_append _ _)
  · intro h
    rw [← hsplit] at h
    obtain ⟨rest, hrest⟩ := h
    rcases List.append_eq_append_iff.mp hrest with ⟨more, hmore, -⟩ | ⟨more, rfl, hmore⟩
    · exact ⟨more, hmore.symm⟩
    · -- only nothing at all can be left of the piece, since its last character is not dropped
      cases hmost : more.getLast? with
      | none =>
          rw [List.getLast?_eq_none_iff.mp hmost, List.append_nil]
      | some d =>
          rw [List.getLast?_append, hmost, Option.some_or] at hlast
          obtain rfl := Option.some.inj hlast
          have hmem : d ∈ text.reverse.takeWhile p := by
            rw [← List.mem_reverse, hmore]
            exact List.mem_append_left _ (List.mem_of_getLast? hmost)
          have hdropped : p d = true := List.all_eq_true.mp List.all_takeWhile d hmem
          exact absurd hdropped (by simp [hc])

/-- What begins with text that is not blank begins so in joined texts alike. -/
theorem Joined.isPrefix_trim_iff {first second : Text} (h : Joined first second) {piece : Text}
    {c : Char} (hlast : piece.getLast? = some c) (hc : isBlank c = false)
    (hreturn : '\r' ∉ piece) (hfeed : '\n' ∉ piece) :
    piece <+: trim first ↔ piece <+: trim second := by
  rw [trim, trim, trimBy, trimBy, isPrefix_dropEnd_iff hlast hc, isPrefix_dropEnd_iff hlast hc]
  exact h.dropWhile_isBlank.isPrefix_iff hreturn hfeed

/-! ## One character more -/

/-- A character at the end that no reader minds does not change what is found. -/
theorem occurrences_concat {α : Type} {read : Reader α} {c : Char} (hfit : Reader.Fits read)
    (hread : ∀ text, text ≠ [] → read (text ++ [c]) = read text) (hc : read [c] = none)
    (offset : Nat) (text : Text) :
    occurrences read offset (text ++ [c]) = occurrences read offset text := by
  rw [occurrences_append hfit (fun tail _ => hread tail), occurrences_cons_none _ hc,
    occurrences_nil, List.append_nil]

end TagLens.Text
