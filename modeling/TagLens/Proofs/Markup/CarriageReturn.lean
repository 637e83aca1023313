import TagLens.Proofs.Document.Place
import TagLens.Proofs.Markup.AssignedValue
import TagLens.Proofs.Markup.NearestMatch
import TagLens.Proofs.Text.CarriageReturn

/-!
# Markup with and without carriage returns

A carriage return and a line feed have no meaning in markup: neither belongs to a name or delimits
anything. So joined texts (`Text.Joined`) hold the same tags at the same positions
(`placed_tokens`), and scanning them finds the same elements open and the same closing tags
unmatched (`view_nesting`). On a single line the carriage return at the end is passed over by every
reader (`openings_append_return`, `values_append_return`).
-/

namespace TagLens.Markup

open Document (Position column endPosition)
open Text (Joined occurrences occurrences_cons_none occurrences_hit)

/-! ## Names -/

section

variable {first second : Text}

theorem takeWhile_isNameChar_joined (h : Joined first second) :
    first.takeWhile isNameChar = second.takeWhile isNameChar := by
  induction h with
  | nil => rfl
  | char _ _ ih => rw [List.takeWhile_cons, List.takeWhile_cons, ih]
  | feed _ _ =>
      rw [List.takeWhile_cons_of_neg (by decide), List.takeWhile_cons_of_neg (by decide)]

theorem nameAt?_joined (h : Joined first second) : nameAt? first = nameAt? second := by
  cases h with
  | nil => rfl
  | char _ h => rw [nameAt?, nameAt?, takeWhile_isNameChar_joined h]
  | feed h => rw [nameAt?_eq_none (by decide), nameAt?_eq_none (by decide)]

theorem endsName_joined (h : Joined first second) : EndsName first ↔ EndsName second := by
  cases h with
  | nil => rfl
  | char _ h => simp [EndsName]
  | feed h =>
      have hreturn : isNameChar '\r' = false := by decide
      have hfeed : isNameChar '\n' = false := by decide
      simp [EndsName, hreturn, hfeed]

/-- The elements that joined texts mention are the same. -/
theorem mentions_joined {name : Text} (hname : IsName name) (h : Joined first second) :
    mentions name first = true ↔ mentions name second = true := by
  induction h with
  | nil => rfl
  | char _ h ih =>
      rw [mentions_cons, mentions_cons, ← nameAt?_eq_some_iff hname, ← nameAt?_eq_some_iff hname,
        nameAt?_joined h, ih]
  | feed _ ih =>
      rw [mentions_cons, mentions_cons, mentions_cons, ih]
      simp

/-! ## Tags -/

/-- The part of a tag before its body lies on one line. -/
def tagHead (closing : Bool) (name : Text) : Text :=
  '<' :: ((if closing then ['/'] else []) ++ name)

theorem tagText_eq (closing : Bool) (name body : Text) :
    tagText closing name body = tagHead closing name ++ (body ++ ['>']) := by
  simp [tagText, tagHead]

theorem not_mem_tagHead {name : Text} (hname : IsName name) (closing : Bool) :
    '\r' ∉ tagHead closing name ∧ '\n' ∉ tagHead closing name := by
  have hreturn : '\r' ∉ name := hname.not_mem (by decide)
  have hfeed : '\n' ∉ name := hname.not_mem (by decide)
  cases closing with
  | false => simp [tagHead, hreturn, hfeed]
  | true => simp [tagHead, hreturn, hfeed]

theorem exists_body_of_joined_right {piece name body : Text} {closing : Bool}
    (hname : IsName name) (h : Joined piece (tagText closing name body)) :
    ∃ inner, piece = tagText closing name inner ∧ Joined inner body := by
  rw [tagText_eq] at h
  obtain ⟨head, tail, rfl, hhead, htail⟩ := h.exists_of_append_right
  obtain ⟨inner, last, rfl, hinner, hlast⟩ := htail.exists_of_append_right
  refine ⟨inner, ?_, hinner⟩
  rw [tagText_eq, hhead.eq_of_newline_not_mem (not_mem_tagHead hname closing).2,
    hlast.eq_of_newline_not_mem (by decide)]

theorem exists_body_of_joined_left {piece name body : Text} {closing : Bool}
    (hname : IsName name) (h : Joined (tagText closing name body) piece) :
    ∃ inner, piece = tagText closing name inner ∧ Joined body inner := by
  obtain ⟨hreturn, hfeed⟩ := not_mem_tagHead hname closing
  rw [tagText_eq] at h
  obtain ⟨head, tail, rfl, hhead, htail⟩ := h.exists_of_append_left
    fun hlast => hreturn (List.mem_of_getLast? hlast)
  -- both texts end with the `>`, and what stands before it is joined
  have hlast := htail.getLast?_eq
  rw [List.getLast?_concat] at hlast
  obtain ⟨inner, rfl⟩ := List.getLast?_eq_some_iff.mp hlast.symm
  obtain ⟨before, after, hsplit, hbefore, hafter⟩ := htail.exists_of_append_right
  rw [hafter.eq_of_newline_not_mem (by decide)] at hsplit
  rw [List.append_cancel_right hsplit]
  exact ⟨inner, by rw [tagText_eq, hhead.eq_of_return_not_mem hreturn], hbefore⟩

/-- A tag of one text is the same tag in the other, with a body that may differ in carriage
returns. -/
theorem readTag_joined {tag : Tag} {body inner rest after : Text} (hname : IsName tag.name)
    (hclosed : '>' ∉ inner) (hends : EndsName inner)
    (hself : tag.selfClosing = (inner.getLast? == some '/')) (hbody : Joined body inner) :
    readTag (tagText tag.closing tag.name body ++ rest)
        = some (tag, (tagText tag.closing tag.name body).length)
      ∧ readTag (tagText tag.closing tag.name inner ++ after)
        = some (tag, (tagText tag.closing tag.name inner).length) := by
  have hopen : '>' ∉ body := by rwa [hbody.mem_iff (by decide)]
  constructor
  · rw [readTag_tagText tag.closing hname hopen ((endsName_joined hbody).mpr hends),
      hbody.getLast?_eq, ← hself]
  · rw [readTag_tagText tag.closing hname hclosed hends, ← hself]

/-- **Tags of joined texts**: at the head of both texts stands the same tag, or of neither. -/
theorem readTag_cases (h : Joined first second) :
    (readTag first = none ∧ readTag second = none)
      ∨ ∃ tag piece rest other after, first = piece ++ rest ∧ second = other ++ after
          ∧ Joined piece other ∧ Joined rest after ∧ piece ≠ [] ∧ other ≠ []
          ∧ readTag (piece ++ rest) = some (tag, piece.length)
          ∧ readTag (other ++ after) = some (tag, other.length) := by
  cases hsecond : readTag second with
  | some found =>
      obtain ⟨tag, n⟩ := found
      obtain ⟨inner, after, rfl, -, hname, hclosed, hends, hself⟩ :=
        exists_of_readTag_eq_some hsecond
      obtain ⟨piece, rest, rfl, hpiece, hrest⟩ := h.exists_of_append_right
      obtain ⟨body, rfl, hbody⟩ := exists_body_of_joined_right hname hpiece
      obtain ⟨hread, hother⟩ := readTag_joined hname hclosed hends hself hbody
      exact .inr ⟨tag, _, rest, _, after, rfl, rfl, hpiece, hrest, tagText_ne_nil _ _ _,
        tagText_ne_nil _ _ _, hread, hother⟩
  | none =>
      cases hfirst : readTag first with
      | none => exact .inl ⟨rfl, rfl⟩
      | some found =>
          obtain ⟨tag, n⟩ := found
          obtain ⟨body, rest, rfl, -, hname, hopen, hstarts, hself⟩ :=
            exists_of_readTag_eq_some hfirst
          obtain ⟨other, after, rfl, hpiece, -⟩ := h.exists_of_append_left
            (by simp [tagText_eq, List.getLast?_append])
          obtain ⟨inner, rfl, hbody⟩ := exists_body_of_joined_left hname hpiece
          have hclosed : '>' ∉ inner := by rwa [← hbody.mem_iff (by decide)]
          have hread := readTag_tagText tag.closing hname hclosed
            ((endsName_joined hbody).mp hstarts) after
          exact absurd (hsecond.symm.trans hread) (by simp)

/-! ## Positions -/

/-- The position behind a text does not count carriage returns in front of line feeds. -/
theorem endPosition_joined (h : Joined first second) : endPosition first = endPosition second := by
  have hcolumn : column first = column second := by
    induction h with
    | nil => rfl
    | @char c first second hc h ih =>
        by_cases hmem : '\n' ∈ second
        · rw [Document.column_cons_of_mem hmem,
            Document.column_cons_of_mem ((h.mem_iff (by decide)).mpr hmem), ih]
        · rw [h.eq_of_newline_not_mem hmem]
    | feed _ ih =>
        rw [Document.column_cons_of_mem (by simp), Document.column_newline,
          Document.column_newline, ih]
  rw [endPosition, endPosition, hcolumn, h.count_newline]

/-- A tag with the positions of its ends. -/
def placed (text : Text) (token : Token) : Position × Position × Tag :=
  (endPosition (text.take token.start), endPosition (text.take token.stop), token.value)

theorem placed_hit (before piece rest : Text) (tag : Tag) :
    placed (before ++ (piece ++ rest)) ⟨before.length, before.length + piece.length, tag⟩
      = (endPosition before, endPosition (before ++ piece), tag) := by
  have hstop : (before ++ (piece ++ rest)).take (before.length + piece.length)
      = before ++ piece := by
    rw [← List.append_assoc, ← List.length_append, List.take_left]
  rw [placed, hstop, List.take_left]

/-- The search goes on behind joined texts, with tags at the same positions. -/
theorem placed_occurrences {before other : Text} (hbefore : Joined before other)
    (h : Joined first second) :
    (occurrences readTag before.length first).map (placed (before ++ first))
      = (occurrences readTag other.length second).map (placed (other ++ second)) := by
  -- by the length of the text, since a tag takes many characters at once
  induction hlength : first.length using Nat.strong_induction_on
    generalizing first second before other with
  | _ n ih =>
  have hnext : ∀ piece rest piece' rest' : Text, first = piece ++ rest →
      second = piece' ++ rest' → piece ≠ [] → Joined piece piece' → Joined rest rest' →
      (occurrences readTag (before.length + piece.length) rest).map (placed (before ++ first))
        = (occurrences readTag (other.length + piece'.length) rest').map
            (placed (other ++ second)) := by
    rintro piece rest piece' rest' rfl rfl hne hpiece hrest
    have hlt : rest.length < n := by
      have := List.length_pos_of_ne_nil hne
      rw [← hlength, List.length_append]
      omega
    have hih := ih rest.length hlt (hbefore.append hpiece) hrest rfl
    simpa only [List.length_append, List.append_assoc] using hih
  rcases readTag_cases h with ⟨hfirst, hsecond⟩ |
    ⟨tag, piece, rest, piece', rest', rfl, rfl, hpiece, hrest, hne, hne', hread, hread'⟩
  · cases h with
    | nil => rw [Text.occurrences_nil, Text.occurrences_nil]; rfl
    | @char c first second hc h =>
        rw [occurrences_cons_none _ hfirst, occurrences_cons_none _ hsecond]
        exact hnext [c] first [c] second rfl rfl (by simp) (.char hc .nil) h
    | @feed first second h =>
        have hfeed : readTag ('\n' :: first) = none := rfl
        rw [occurrences_cons_none _ hfirst, occurrences_cons_none _ hfeed,
          occurrences_cons_none _ hsecond]
        exact hnext ['\r', '\n'] first ['\n'] second rfl rfl (by simp) (.feed .nil) h
  · rw [occurrences_hit _ _ hne hread, occurrences_hit _ _ hne' hread', List.map_cons,
      List.map_cons, placed_hit, placed_hit,
      hnext piece rest piece' rest' rfl rfl hne hpiece hrest,
      endPosition_joined hbefore, endPosition_joined (hbefore.append hpiece)]

/-- **Joined texts hold the same tags at the same positions.** -/
theorem placed_tokens (h : Joined first second) :
    (tokens first).map (placed first) = (tokens second).map (placed second) :=
  placed_occurrences .nil h

/-! ## Nesting -/

/-- What the check of the nesting sees of a scan: the names of the open elements, and the closing
tags that closed nothing with their positions. -/
def view (text : Text) (state : Nesting) : List Text × List (Position × Position × Tag) :=
  (state.frames.map (·.name), state.unmatched.map (placed text))

/-- The view after one more tag depends on the view before and on the tag as it is placed. -/
theorem view_step {state other : Nesting} {token mate : Token}
    (hview : view first state = view second other)
    (hplaced : placed first token = placed second mate) :
    view first (state.step token) = view second (other.step mate) := by
  obtain ⟨hframes, hunmatched⟩ := Prod.mk.inj hview
  have hvalue : token.value = mate.value := (Prod.mk.inj (Prod.mk.inj hplaced).2).2
  -- a closing tag asks the frames for their names only, so both scans answer alike
  have hany : ∀ name, state.frames.any (·.isNamed name) = other.frames.any (·.isNamed name) := by
    intro name
    have hnames : (state.frames.map (·.name)).any (· == name)
        = (other.frames.map (·.name)).any (· == name) := by rw [hframes]
    rwa [List.any_map, List.any_map] at hnames
  have herase : ∀ name, (state.frames.eraseP (·.isNamed name)).map (·.name)
      = (other.frames.eraseP (·.isNamed name)).map (·.name) := by
    intro name
    have hnames : (state.frames.map (·.name)).eraseP (· == name)
        = (other.frames.map (·.name)).eraseP (· == name) := by rw [hframes]
    rwa [List.eraseP_map, List.eraseP_map] at hnames
  rcases token.value.opener_or_closing with hopener | hclosing | ⟨hopener, hclosing⟩
  · rw [state.step_of_isOpener hopener, other.step_of_isOpener (hvalue ▸ hopener)]
    simp only [view, List.map_cons, frameOf, hvalue, hframes, hunmatched]
  · rw [state.step_of_closing hclosing, other.step_of_closing (hvalue ▸ hclosing)]
    simp only [view, hvalue, hany, herase]
    split
    · rw [hunmatched]
    · rw [List.map_append, List.map_append, hunmatched, List.map_singleton, List.map_singleton,
        hplaced]
  · rw [state.step_of_neither hopener hclosing,
      other.step_of_neither (hvalue ▸ hopener) (hvalue ▸ hclosing)]
    exact hview

theorem view_foldl {row others : List Token} {state other : Nesting}
    (hrow : row.map (placed first) = others.map (placed second))
    (hview : view first state = view second other) :
    view first (row.foldl Nesting.step state) = view second (others.foldl Nesting.step other) := by
  induction row generalizing others state other with
  | nil =>
      obtain rfl := List.map_eq_nil_iff.mp hrow.symm
      exact hview
  | cons token row ih =>
      cases others with
      | nil => exact absurd hrow (by simp)
      | cons mate others =>
          obtain ⟨hplaced, hmore⟩ := List.cons.inj hrow
          rw [List.foldl_cons, List.foldl_cons]
          exact ih hmore (view_step hview hplaced)

/-- **Scanning joined texts** finds the same elements open and the same closing tags unmatched. -/
theorem view_nesting (h : Joined first second) :
    view first (nesting first) = view second (nesting second) :=
  view_foldl (placed_tokens h) rfl

end

/-! ## The end of a line -/

section

variable (line : Text)

theorem nameAt?_append_return : nameAt? (line ++ ['\r']) = nameAt? line :=
  nameAt?_append_of_neg (by decide) line []

theorem openings_append_return : openings (line ++ ['\r']) = openings line := by
  refine Text.occurrences_concat readOpening_fits ?_ rfl 0 line
  intro text hne
  exact readOpening_append_of_neg (by decide) hne []

theorem mentions_append_return {name : Text} (hname : IsName name) :
    mentions name (line ++ ['\r']) = true ↔ mentions name line = true := by
  induction line with
  | nil =>
      rw [List.nil_append, mentions_cons]
      simp
  | cons c rest ih =>
      rw [List.cons_append, mentions_cons, mentions_cons, ← nameAt?_eq_some_iff hname,
        ← nameAt?_eq_some_iff hname, nameAt?_append_return, ih]

/-- The end of a complete value is found before the end of the line. -/
theorem quoted_append_return {quote : Char} (hquote : Text.isQuote quote = true) (rest : Text) :
    List.elem quote (rest ++ ['\r']) = List.elem quote rest
      ∧ (List.elem quote rest = true →
        (rest ++ ['\r']).takeWhile (· != quote) = rest.takeWhile (· != quote)) := by
  have hne : quote ≠ '\r' := by
    rintro rfl
    exact absurd hquote (by decide)
  constructor
  · rw [Bool.eq_iff_iff]
    simp [hne]
  · intro hmem
    obtain ⟨value, more, rfl, hvalue⟩ := List.eq_append_cons_of_mem (List.elem_iff.mp hmem)
    rw [List.append_assoc, List.cons_append, Text.takeWhile_ne_append hvalue,
      Text.takeWhile_ne_append hvalue]

theorem readValue_append_return : readValue (line ++ ['\r']) = readValue line := by
  rw [readValue, readValue, nameAt?_append_return]
  cases hname : nameAt? line with
  | none => rfl
  | some name =>
      have hle : name.length ≤ line.length := by
        rw [(eq_of_nameAt?_eq_some hname).1]
        exact (List.takeWhile_sublist _).length_le
      simp only [List.drop_append_of_le_length hle]
      cases line.drop name.length with
      | nil => rfl
      | cons c tail =>
          by_cases hc : c = '='
          · subst hc
            cases tail with
            | nil => rfl
            | cons quote rest =>
                cases hquote : Text.isQuote quote with
                | false => simp [hquote]
                | true =>
                    obtain ⟨helem, hvalue⟩ := quoted_append_return hquote rest
                    cases hmem : List.elem quote rest with
                    | false =>
                        simp only [List.cons_append, helem, hmem, Bool.and_false, Bool.false_and,
                          Bool.false_eq_true, if_false]
                    | true => simp only [List.cons_append, helem, hmem, hvalue hmem]
          · simp [hc]

theorem values_append_return :
    occurrences readValue 0 (line ++ ['\r']) = occurrences readValue 0 line :=
  Text.occurrences_concat readValue_fits (fun text _ => readValue_append_return text) rfl 0 line

end

end TagLens.Markup
