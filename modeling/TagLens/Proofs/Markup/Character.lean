import Mathlib.Data.List.TakeWhile
import Mathlib.Tactic.Tauto
import TagLens.Text.Blank
import TagLens.Markup.Name

/-!
# How the classes of characters keep apart

Tags are read by looking for delimiters, blank space and names. The readers work because no
character belongs to two of these classes: `isNameChar_of_isDelimiter`,
`isBlank_of_isDelimiter` and `isNameChar_of_isBlank`. The last part says when `nameAt?` reads
exactly the name that stands in front of some further text.
-/

namespace TagLens.Markup

open Text (doubleQuote singleQuote isBlank isQuote)

/-- The characters that structure a tag. -/
def isDelimiter (c : Char) : Bool :=
  c == '<' || c == '>' || c == '/' || c == '=' || isQuote c

/-! ## Three disjoint classes -/

theorem mem_of_isDelimiter {c : Char} (h : isDelimiter c = true) :
    c ∈ ['<', '>', '/', '=', doubleQuote, singleQuote] := by
  simp only [isDelimiter, isQuote, Bool.or_eq_true, beq_iff_eq] at h
  simp only [List.mem_cons, List.not_mem_nil, or_false]
  tauto

/-- No delimiter stands in a name. -/
theorem isNameChar_of_isDelimiter {c : Char} (h : isDelimiter c = true) :
    isNameChar c = false := by
  have hall : ∀ d ∈ ['<', '>', '/', '=', doubleQuote, singleQuote], (!isNameChar d) = true :=
    List.all_eq_true.mp (by decide)
  simpa using hall c (mem_of_isDelimiter h)

theorem isBlank_of_isDelimiter {c : Char} (h : isDelimiter c = true) : isBlank c = false := by
  have hall : ∀ d ∈ ['<', '>', '/', '=', doubleQuote, singleQuote], (!isBlank d) = true :=
    List.all_eq_true.mp (by decide)
  simpa using hall c (mem_of_isDelimiter h)

/-- The code points of blank space. -/
def blankPoints : List Nat :=
  List.range' 0x09 5 ++ List.range' 0x1c 5 ++ List.range' 0x2000 11
    ++ [0x85, 0xa0, 0x1680, 0x2028, 0x2029, 0x202f, 0x205f, 0x3000]

theorem toNat_mem_blankPoints {c : Char} (h : isBlank c = true) : c.toNat ∈ blankPoints := by
  simp only [isBlank, Bool.or_eq_true, Bool.and_eq_true, decide_eq_true_eq, beq_iff_eq] at h
  simp only [blankPoints, List.mem_append, List.mem_range'_1, List.mem_cons, List.not_mem_nil,
    or_false]
  omega

/-- Blank space ends a name. The letters of the word table are nowhere near it, which is
checked code point by code point. -/
theorem isNameChar_of_isBlank {c : Char} (h : isBlank c = true) : isNameChar c = false := by
  have hall : ∀ n ∈ blankPoints, isNameChar (Char.ofNat n) = false := by decide +kernel
  rw [← Char.ofNat_toNat c]
  exact hall _ (toNat_mem_blankPoints h)

/-- A name holds neither delimiters nor blank space. -/
theorem isDelimiter_of_isNameChar {c : Char} (h : isNameChar c = true) :
    isDelimiter c = false := by
  by_contra hc
  have hno := isNameChar_of_isDelimiter (by simpa using hc)
  rw [hno] at h
  exact absurd h (by simp)

theorem isBlank_of_isNameChar {c : Char} (h : isNameChar c = true) : isBlank c = false := by
  by_contra hc
  have hno := isNameChar_of_isBlank (by simpa using hc)
  rw [hno] at h
  exact absurd h (by simp)

theorem isDelimiter_of_isBlank {c : Char} (h : isBlank c = true) : isDelimiter c = false := by
  by_contra hc
  have hno := isBlank_of_isDelimiter (by simpa using hc)
  rw [hno] at h
  exact absurd h (by simp)

/-! ## Reading a name in front of other text -/

theorem IsName.ne_nil {name : Text} (h : IsName name) : name ≠ [] := by
  rintro rfl
  exact absurd h (by decide)

theorem IsName.isNameChar_of_mem {name : Text} (h : IsName name) {c : Char} (hc : c ∈ name) :
    isNameChar c = true := by
  cases name with
  | nil => simp at hc
  | cons d rest =>
      obtain ⟨hd, hrest⟩ := isName_cons.mp h
      rcases List.mem_cons.mp hc with rfl | hc
      · exact isNameChar_of_isNameStart hd
      · exact hrest c hc

theorem IsName.not_mem {name : Text} (h : IsName name) {c : Char} (hc : isNameChar c = false) :
    c ∉ name := by
  intro hmem
  rw [h.isNameChar_of_mem hmem] at hc
  exact absurd hc (by simp)

/-- A name and name characters behind it are a longer name. -/
theorem IsName.append {name more : Text} (h : IsName name)
    (hmore : ∀ c ∈ more, isNameChar c = true) : IsName (name ++ more) := by
  cases name with
  | nil => exact absurd rfl h.ne_nil
  | cons c name =>
      obtain ⟨hc, hname⟩ := isName_cons.mp h
      rw [List.cons_append, isName_cons]
      refine ⟨hc, ?_⟩
      intro d hd
      rcases List.mem_append.mp hd with hd | hd
      · exact hname d hd
      · exact hmore d hd

/-- The beginning of a name is a name. -/
theorem IsName.take {name : Text} (h : IsName name) {n : Nat} (hn : 0 < n) :
    IsName (name.take n) := by
  cases name with
  | nil => exact absurd rfl h.ne_nil
  | cons c name =>
      obtain ⟨n, rfl⟩ := Nat.exists_eq_add_one.mpr hn
      obtain ⟨hc, hname⟩ := isName_cons.mp h
      rw [List.take_succ_cons, isName_cons]
      exact ⟨hc, fun d hd => hname d (List.mem_of_mem_take hd)⟩

/-- The text does not go on with a character that would lengthen a name. -/
def EndsName (rest : Text) : Prop := ∀ c ∈ rest.head?, isNameChar c = false

theorem EndsName.take {rest : Text} (h : EndsName rest) (n : Nat) : EndsName (rest.take n) := by
  intro c hc
  rw [List.head?_take] at hc
  split at hc
  · simp at hc
  · exact h c hc

theorem takeWhile_isNameChar_append {name rest : Text} (h : ∀ c ∈ name, isNameChar c = true)
    (hrest : EndsName rest) : (name ++ rest).takeWhile isNameChar = name := by
  rw [List.takeWhile_append_of_pos h]
  cases rest with
  | nil => simp
  | cons c rest => simp [hrest c (by simp)]

theorem dropWhile_isNameChar_append {name rest : Text} (h : ∀ c ∈ name, isNameChar c = true)
    (hrest : EndsName rest) : (name ++ rest).dropWhile isNameChar = rest := by
  rw [List.dropWhile_append_of_pos h]
  cases rest with
  | nil => simp
  | cons c rest => simp [hrest c (by simp)]

/-- A name is read as a whole when nothing behind it lengthens it. -/
theorem nameAt?_append {name rest : Text} (h : IsName name) (hrest : EndsName rest) :
    nameAt? (name ++ rest) = some name := by
  cases name with
  | nil => exact absurd rfl h.ne_nil
  | cons c name =>
      obtain ⟨hc, hname⟩ := isName_cons.mp h
      rw [List.cons_append, nameAt?, if_pos hc, takeWhile_isNameChar_append hname hrest]

theorem nameAt?_eq_none {c : Char} {rest : Text} (h : isNameStart c = false) :
    nameAt? (c :: rest) = none := by
  rw [nameAt?, if_neg (by simp [h])]

theorem isNameStart_of_isNameChar_eq_false {c : Char} (h : isNameChar c = false) :
    isNameStart c = false := by
  by_contra hc
  rw [isNameChar_of_isNameStart (by simpa using hc)] at h
  exact absurd h (by simp)

/-- Whatever is read is the longest run of name characters. -/
theorem eq_of_nameAt?_eq_some {text name : Text} (h : nameAt? text = some name) :
    name = text.takeWhile isNameChar ∧ text.drop name.length = text.dropWhile isNameChar
      ∧ IsName name := by
  cases text with
  | nil => exact absurd h (by simp [nameAt?])
  | cons c rest =>
      rw [nameAt?] at h
      split at h
      · next hc =>
          have hname : name = (c :: rest).takeWhile isNameChar := by
            rw [List.takeWhile_cons, if_pos (isNameChar_of_isNameStart hc)]
            exact (Option.some.inj h).symm
          have hsplit := List.takeWhile_append_dropWhile (p := isNameChar) (l := c :: rest)
          refine ⟨hname, ?_, ?_⟩
          · calc (c :: rest).drop name.length
                = ((c :: rest).takeWhile isNameChar ++ (c :: rest).dropWhile isNameChar).drop
                    ((c :: rest).takeWhile isNameChar).length := by rw [hsplit, hname]
              _ = (c :: rest).dropWhile isNameChar := List.drop_left
          · rw [← Option.some.inj h, isName_cons]
            refine ⟨hc, ?_⟩
            intro d hd
            exact List.mem_takeWhile_imp hd
      · exact absurd h (by simp)

end TagLens.Markup
