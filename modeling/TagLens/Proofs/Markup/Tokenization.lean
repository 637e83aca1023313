import TagLens.Proofs.Markup.Scan
import TagLens.Proofs.Text.Leftmost

/-!
# The tags of a text, said without the scan

What the scan finds in a text is told by the text alone. Each token stands in the text as it was
written, from a `<` to the next `>` (`Stands`); the tokens come in order and do not overlap; and
wherever a `<`, perhaps a slash, and the beginning of a name stand with a `>` behind them, some token
covers the place. These rules leave no choice:

    tokens_eq_iff : tokens text = row ↔ Tokenizes text row

The step behind it is that a tag can be read exactly at such a place (`exists_readTag_iff`), and
that what is read there is the text up to the next `>` (`readTag_eq_some_iff`).
-/

namespace TagLens.Markup

open Text (Finds ReadAt occurrences)

/-! ## The longest name -/

/-- `name` is the longest name with which the text begins. -/
structure LongestName (text name : Text) : Prop where
  isName : IsName name
  begins : name <+: text
  ends : EndsName (text.drop name.length)
  longest : ∀ other, IsName other → other <+: text → other.length ≤ name.length

/-- The name that is read is the longest one. -/
theorem nameAt?_eq_some_iff_longest {text name : Text} :
    nameAt? text = some name ↔ LongestName text name := by
  constructor
  · intro h
    obtain ⟨hsplit, hname, hends⟩ := split_of_nameAt?_eq_some h
    refine ⟨hname, ⟨_, hsplit.symm⟩, hends, ?_⟩
    intro other hother hbegins
    by_contra hlonger
    -- the longer name goes on with the character that ends this one
    obtain ⟨more, hmore⟩ :=
      List.prefix_of_prefix_length_le ⟨_, hsplit.symm⟩ hbegins (Nat.le_of_not_le hlonger)
    obtain ⟨rest, hrest⟩ := hbegins
    cases more with
    | nil =>
        rw [List.append_nil] at hmore
        exact hlonger (hmore ▸ Nat.le_refl _)
    | cons c more =>
        have hhead : c ∈ (text.drop name.length).head? := by
          rw [← hrest, ← hmore, List.append_assoc, List.drop_left]
          rfl
        have hchar : isNameChar c = true := hother.isNameChar_of_mem (by simp [← hmore])
        rw [hends c hhead] at hchar
        exact absurd hchar (by decide)
  · intro h
    exact (nameAt?_eq_some_iff h.isName).mpr ⟨h.begins, h.ends⟩

/-! ## What stands between the ends of a tag -/

/-- `inner` is what stands between the `<` and the `>` of the tag. -/
structure Inside (inner : Text) (tag : Tag) : Prop where
  not_mem : '>' ∉ inner
  closing : tag.closing = true ↔ inner.head? = some '/'
  name : LongestName (dropSlash inner) tag.name
  selfClosing : tag.selfClosing = true ↔ inner.getLast? = some '/'

theorem startsWithSlash_iff {text : Text} :
    startsWithSlash text = true ↔ text.head? = some '/' := by
  cases text with
  | nil => simp [startsWithSlash]
  | cons c text =>
      by_cases hc : c = '/'
      · subst hc
        simp [startsWithSlash]
      · rw [(dropSlash_of_ne text hc).2]
        simpa using hc

/-- The inside of a tag is written as a slash perhaps, the name, and what follows the name. -/
def innerText (closing : Bool) (name body : Text) : Text :=
  (if closing then ['/'] else []) ++ (name ++ body)

theorem tagText_append_eq (closing : Bool) (name body after : Text) :
    tagText closing name body ++ after = '<' :: (innerText closing name body ++ '>' :: after) := by
  simp [tagText, innerText]

theorem length_tagText_eq (closing : Bool) (name body : Text) :
    (tagText closing name body).length = (innerText closing name body).length + 2 := by
  have hlength := congrArg List.length (tagText_append_eq closing name body [])
  simpa using hlength

section

variable {name : Text} (hname : IsName name) (closing : Bool) (body : Text)

include hname

theorem slash_innerText :
    dropSlash (innerText closing name body) = name ++ body
      ∧ startsWithSlash (innerText closing name body) = closing := by
  cases closing with
  | true => exact ⟨rfl, rfl⟩
  | false =>
      obtain ⟨c, tail, hsplit, hc⟩ := hname.head_ne_slash body
      have hnone : innerText false name body = c :: tail := hsplit
      rw [hnone, hsplit]
      exact dropSlash_of_ne tail hc

/-- No name ends in a slash, so a slash at the end of the inside stands behind the name. -/
theorem getLast?_innerText :
    (innerText closing name body).getLast? = some '/' ↔ body.getLast? = some '/' := by
  rw [innerText, List.getLast?_append, List.getLast?_append]
  cases body.getLast? with
  | some c => rfl
  | none =>
      have hlast := List.getLast?_eq_some_getLast hname.ne_nil
      have hne : name.getLast hname.ne_nil ≠ '/' := by
        intro heq
        have hchar := hname.isNameChar_of_mem (List.getLast_mem hname.ne_nil)
        rw [heq] at hchar
        exact absurd hchar (by decide)
      rw [hlast]
      simpa using hne

theorem not_mem_innerText : '>' ∉ innerText closing name body ↔ '>' ∉ body := by
  have hnamed : '>' ∉ name := hname.not_mem (by decide)
  cases closing <;> simp [innerText, hnamed]

end

/-- **What is read as a tag**: a text from a `<` to the next `>` with a name in front, behind a slash
perhaps. -/
theorem readTag_eq_some_iff {text : Text} {tag : Tag} {n : Nat} :
    readTag text = some (tag, n)
      ↔ ∃ inner after, text = '<' :: (inner ++ '>' :: after) ∧ Inside inner tag
        ∧ n = inner.length + 2 := by
  constructor
  · intro h
    obtain ⟨body, after, rfl, rfl, hname, hbody, hend, hself⟩ := exists_of_readTag_eq_some h
    obtain ⟨hdrop, hslash⟩ := slash_innerText hname tag.closing body
    refine ⟨innerText tag.closing tag.name body, after, tagText_append_eq _ _ _ _, ?_, ?_⟩
    · refine ⟨(not_mem_innerText hname tag.closing body).mpr hbody, ?_, ?_, ?_⟩
      · rw [← startsWithSlash_iff, hslash]
      · rw [hdrop, ← nameAt?_eq_some_iff_longest]
        exact nameAt?_append hname hend
      · rw [hself, getLast?_innerText hname, beq_iff_eq]
    · exact length_tagText_eq _ _ _
  · rintro ⟨inner, after, rfl, hinside, rfl⟩
    obtain ⟨hsplit, hname, hend⟩ :=
      split_of_nameAt?_eq_some (nameAt?_eq_some_iff_longest.mpr hinside.name)
    have hclosing : startsWithSlash inner = tag.closing := by
      rw [Bool.eq_iff_iff, startsWithSlash_iff, hinside.closing]
    generalize (dropSlash inner).drop tag.name.length = body at hsplit hend
    have hinner : inner = innerText tag.closing tag.name body := by
      rw [innerText, ← hsplit, ← hclosing, slash_append_dropSlash]
    have hbody : '>' ∉ body := by
      rw [← not_mem_innerText hname tag.closing, ← hinner]
      exact hinside.not_mem
    have hself : tag.selfClosing = (body.getLast? == some '/') := by
      rw [Bool.eq_iff_iff, hinside.selfClosing, beq_iff_eq, hinner, getLast?_innerText hname]
    have hread := readTag_tagText tag.closing hname hbody hend after
    rwa [tagText_append_eq, length_tagText_eq, ← hinner, ← hself] at hread

/-- Where a tag begins a name is read. -/
theorem exists_nameAt?_of_beginsTag {text : Text} (h : beginsTag text = true) :
    ∃ rest name, text = '<' :: rest ∧ nameAt? (dropSlash rest) = some name := by
  unfold beginsTag at h
  split at h
  · next rest =>
      cases hrest : dropSlash rest with
      | nil =>
          rw [hrest] at h
          exact absurd h (by simp)
      | cons c tail =>
          rw [hrest] at h
          have hc : isNameStart c = true := by simpa using h
          exact ⟨rest, _, rfl, by rw [hrest, nameAt?, if_pos hc]⟩
  · exact absurd h (by simp)

/-- Neither the slash nor the name of a tag is the place of its `>`. -/
theorem mem_drop_of_mem {rest name : Text} (h : nameAt? (dropSlash rest) = some name)
    (hgt : '>' ∈ rest) : '>' ∈ (dropSlash rest).drop name.length := by
  obtain ⟨hsplit, hname, -⟩ := split_of_nameAt?_eq_some h
  have hslash : '>' ∉ (if startsWithSlash rest then ['/'] else [] : Text) := by
    cases startsWithSlash rest <;> decide
  rw [← slash_append_dropSlash rest, hsplit] at hgt
  have hbehind := (List.mem_append.mp hgt).resolve_left hslash
  exact (List.mem_append.mp hbehind).resolve_left (hname.not_mem (by decide))

/-- **Where a tag is read**: exactly where one begins and a `>` follows. -/
theorem exists_readTag_iff {text : Text} :
    (∃ tag n, readTag text = some (tag, n)) ↔ beginsTag text = true ∧ '>' ∈ text := by
  constructor
  · rintro ⟨tag, n, hread⟩
    constructor
    · by_contra hbegins
      rw [readTag_eq_none_of_beginsTag (by simpa using hbegins)] at hread
      exact absurd hread (by simp)
    · by_contra hgt
      rw [readTag_eq_none_of_not_mem hgt] at hread
      exact absurd hread (by simp)
  · rintro ⟨hbegins, hgt⟩
    obtain ⟨rest, name, rfl, hname⟩ := exists_nameAt?_of_beginsTag hbegins
    have hafter := mem_drop_of_mem hname (List.mem_of_ne_of_mem (by decide) hgt)
    rw [readTag, hname]
    simp only [List.elem_eq_mem, hafter, decide_true, if_true]
    exact ⟨_, _, rfl⟩

/-! ## The tokens of a text -/

/-- The token covers a tag of the text, from its `<` to its `>`, and says what is inside. -/
def Stands (text : Text) (token : Token) : Prop :=
  ∃ before inner after, text = before ++ '<' :: (inner ++ '>' :: after)
    ∧ token.start = before.length ∧ token.stop = token.start + (inner.length + 2)
    ∧ Inside inner token.value

theorem stands_iff_readAt {text : Text} {token : Token} :
    Stands text token ↔ ReadAt readTag text token := by
  constructor
  · rintro ⟨before, inner, after, htext, hstart, hstop, hinside⟩
    exact ⟨before, _, _, htext, readTag_eq_some_iff.mpr ⟨inner, after, rfl, hinside, rfl⟩, hstart,
      hstop⟩
  · rintro ⟨before, tail, n, htext, hread, hstart, hstop⟩
    obtain ⟨inner, after, rfl, hinside, rfl⟩ := readTag_eq_some_iff.mp hread
    exact ⟨before, inner, after, htext, hstart, hstop, hinside⟩

/-- A row of tokens that tells all tags of a text: in order and without overlap, each standing in
the text as it says, and none left out. -/
structure Tokenizes (text : Text) (row : List Token) : Prop where
  ordered : row.Pairwise fun first second => first.stop ≤ second.start
  stands : ∀ token ∈ row, Stands text token
  covers : ∀ before tail, text = before ++ tail → beginsTag tail = true → '>' ∈ tail →
    ∃ token ∈ row, token.start ≤ before.length ∧ before.length < token.stop

theorem tokenizes_iff_finds {text : Text} {row : List Token} :
    Tokenizes text row ↔ Finds readTag text row := by
  constructor
  · intro h
    refine ⟨h.ordered, ?_, ?_⟩
    · intro token htoken
      exact stands_iff_readAt.mp (h.stands token htoken)
    · intro before tail tag n htext hread
      obtain ⟨hbegins, hgt⟩ := exists_readTag_iff.mp ⟨tag, n, hread⟩
      exact h.covers before tail htext hbegins hgt
  · intro h
    refine ⟨h.ordered, ?_, ?_⟩
    · intro token htoken
      exact stands_iff_readAt.mpr (h.readAt token htoken)
    · intro before tail htext hbegins hgt
      obtain ⟨tag, n, hread⟩ := exists_readTag_iff.mpr ⟨hbegins, hgt⟩
      exact h.covers before tail tag n htext hread

/-- **The tags of a text.** The tokens come in the order of the text and do not overlap. Each covers
a piece of the text that begins with a `<`, then a slash exactly when it is a closing tag, then its
name, the longest that begins there, and that ends with a `>`, the only one in it, with a slash in
front exactly when it is self-closing. Wherever a `<`, perhaps a slash, and the first character of a
name stand and a `>` follows, some token covers the place. No other row of tokens has all this. -/
theorem tokens_eq_iff (text : Text) (row : List Token) :
    tokens text = row ↔ Tokenizes text row := by
  rw [tokens, Text.occurrences_eq_iff readTag_fits, tokenizes_iff_finds]

/-- A tag without a name, a tag that is never finished with another inside it, a closing tag that
looks self-closing, and a `<` behind the last `>`. -/
example : tokens "<1><a <b/></c.d />><e".toList
    = [⟨3, 10, ⟨['a'], false, true⟩⟩, ⟨10, 18, ⟨['c', '.', 'd'], true, true⟩⟩] := by
  decide +kernel

end TagLens.Markup
