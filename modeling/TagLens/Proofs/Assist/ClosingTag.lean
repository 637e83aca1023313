import Mathlib.Logic.Function.Iterate
import TagLens.Assist.Completion
import TagLens.Proofs.Diagnosis.Imbalance
import TagLens.Proofs.Markup.NearestMatch
import TagLens.Proofs.Markup.Resume

/-!
# Closing what is open

Right behind `</` the open elements are offered, innermost first. Taking one of the offers closes
exactly that element: the scan loses the innermost frame of the name and nothing else changes
(`nesting_closed`). The first offer is the innermost element of all, so taking first offers one
after another empties the list of open elements from the inside (`nesting_iterate`).
-/

namespace TagLens.Assist

open Cursor (unterminatedTag?)
open Diagnosis (checkNesting)
open Markup (IsName Frame Nesting Settled nesting openElements tagText readTag tokens Token)
open Text (occurrences)

/-! ## What is offered -/

theorem openElements_append_slash {text : Text} (h : Settled text) :
    openElements (text ++ ['<', '/']) = openElements text := by
  have hnone : occurrences readTag text.length ['<', '/'] = [] :=
    Markup.occurrences_readTag_eq_nil (by decide) _
  rw [openElements, Markup.nesting_append h, hnone]
  rfl

/-- Behind `</` the offers are those for closing tags, whatever the schema is. -/
theorem complete_append_slash (schema : Schema) (text : Text) :
    complete schema (text ++ ['<', '/']) = closingItems (text ++ ['<', '/']) := by
  have hkind : (Cursor.context (text ++ ['<', '/'])).kind = .closingTag :=
    Cursor.classify_tag text (List.all_eq_true.mp rfl)
  rw [complete, itemsFor, hkind]

theorem map_label_complete (schema : Schema) {text : Text} (h : Settled text) :
    (complete schema (text ++ ['<', '/'])).map (·.label)
      = (openElements text).reverse.eraseDups := by
  rw [complete_append_slash, closingItems, openElements_append_slash h]
  apply map_label_itemize
  intro label key
  rfl

/-! ## Taking an offer -/

/-- The text after a `</` and the text of an offer have been typed. -/
def accept (text : Text) (item : Item) : Text := text ++ ('<' :: '/' :: item.insertText)

theorem accept_eq (schema : Schema) {text : Text} (h : Settled text) {item : Item}
    (hitem : item ∈ complete schema (text ++ ['<', '/'])) :
    item.label ∈ openElements text ∧ accept text item = text ++ tagText true item.label [] := by
  rw [complete_append_slash, closingItems, openElements_append_slash h] at hitem
  obtain ⟨name, hname, key, rfl⟩ := exists_of_mem_itemize hitem
  refine ⟨List.mem_reverse.mp hname, ?_⟩
  simp [accept, tagText]

theorem unterminatedTag?_closed (text name : Text) :
    unterminatedTag? (text ++ tagText true name []) = none := by
  apply Cursor.unterminatedTag?_of_getLast?
  simp [tagText, List.getLast?_append, List.getLast?_cons]

theorem occurrences_closeTag {name : Text} (h : IsName name) (offset : Nat) :
    occurrences readTag offset (tagText true name [])
      = [⟨offset, offset + (tagText true name []).length, ⟨name, true, false⟩⟩] := by
  have hbody : '>' ∉ ([] : Text) := by simp
  have hread := Markup.readTag_tagText true h hbody (by simp [Markup.EndsName]) []
  have hhit := Text.occurrences_hit offset [] (Markup.tagText_ne_nil true name []) hread
  rwa [List.append_nil, Text.occurrences_nil] at hhit

/-- A closing tag behind the text is one more step of the scan. -/
theorem nesting_closeTag {text name : Text} (h : Settled text) (hname : name ∈ openElements text) :
    nesting (text ++ tagText true name [])
      = (nesting text).step
          ⟨text.length, text.length + (tagText true name []).length, ⟨name, true, false⟩⟩ := by
  obtain ⟨frame, hframe, rfl⟩ := List.mem_map.mp hname
  have hisName := Markup.isName_of_mem_frames (List.mem_reverse.mp hframe)
  rw [Markup.nesting_append h, occurrences_closeTag hisName, List.foldl_cons, List.foldl_nil]

/-- **Closing an element**: a closing tag with the name of an open element takes the innermost
element of that name away. -/
theorem nesting_closed {text name : Text} (h : Settled text) (hname : name ∈ openElements text) :
    nesting (text ++ tagText true name [])
      = ⟨(nesting text).frames.eraseP (·.isNamed name), (nesting text).unmatched⟩ := by
  obtain ⟨frame, hframe, hnamed⟩ := List.mem_map.mp hname
  have hany : (nesting text).frames.any (·.isNamed name) = true := by
    rw [List.any_eq_true]
    exact ⟨frame, List.mem_reverse.mp hframe, by simpa [Frame.isNamed] using hnamed⟩
  rw [nesting_closeTag h hname, Nesting.step_of_closing _ rfl, if_pos hany]

/-- The same outermost first: the last frame of the name is gone, and the frames before and behind
it are still there. -/
theorem exists_stack_closed {text name : Text} (h : Settled text)
    (hname : name ∈ openElements text) :
    ∃ outer frame inner, (nesting text).stack = outer ++ frame :: inner ∧ frame.name = name
      ∧ (∀ other ∈ inner, other.name ≠ name)
      ∧ (nesting (text ++ tagText true name [])).stack = outer ++ inner := by
  let token : Token :=
    ⟨text.length, text.length + (tagText true name []).length, ⟨name, true, false⟩⟩
  have hclosing : token.value.closing = true := rfl
  rw [nesting_closeTag h hname]
  rcases (nesting text).step_closing_cases hclosing with
    ⟨outer, frame, inner, hsplit, hnamed, hothers, hleft, -⟩ | ⟨hnone, -⟩
  · exact ⟨outer, frame, inner, hsplit, hnamed, hothers, hleft⟩
  · obtain ⟨frame, hframe, hnamed⟩ := List.mem_map.mp hname
    exact absurd hnamed (hnone frame hframe)

/-! ## Taking first offers until nothing is left -/

/-- Type `</` and take the first offer, if there is one. -/
def closeInnermost (schema : Schema) (text : Text) : Text :=
  match complete schema (text ++ ['<', '/']) with
  | [] => text
  | item :: _ => accept text item

theorem reverse_openElements (text : Text) :
    (openElements text).reverse = (nesting text).frames.map (·.name) := by
  rw [openElements, Nesting.names, Nesting.stack, ← List.map_reverse, List.reverse_reverse]

theorem closeInnermost_of_nil (schema : Schema) {text : Text} (h : Settled text)
    (hframes : (nesting text).frames = []) : closeInnermost schema text = text := by
  have hlabels := map_label_complete schema h
  rw [reverse_openElements, hframes] at hlabels
  rw [closeInnermost, List.map_eq_nil_iff.mp hlabels]

theorem closeInnermost_of_cons (schema : Schema) {text : Text} (h : Settled text) {frame : Frame}
    {below : List Frame} (hframes : (nesting text).frames = frame :: below) :
    closeInnermost schema text = text ++ tagText true frame.name [] := by
  have hlabels := map_label_complete schema h
  rw [reverse_openElements, hframes, List.map_cons, List.eraseDups_cons] at hlabels
  obtain ⟨item, more, hitems, hlabel, -⟩ := List.map_eq_cons_iff.mp hlabels
  have hitem : item ∈ complete schema (text ++ ['<', '/']) := by
    rw [hitems]
    exact List.mem_cons_self
  rw [closeInnermost, hitems, ← hlabel]
  exact (accept_eq schema h hitem).2

/-- One step closes the innermost element of all and leaves no unterminated tag. -/
theorem closeInnermost_step (schema : Schema) {text : Text} (h : unterminatedTag? text = none) :
    unterminatedTag? (closeInnermost schema text) = none
      ∧ text <+: closeInnermost schema text
      ∧ nesting (closeInnermost schema text)
          = ⟨(nesting text).frames.tail, (nesting text).unmatched⟩ := by
  have hsettled := Settled.of_unterminatedTag? h
  cases hframes : (nesting text).frames with
  | nil =>
      rw [closeInnermost_of_nil schema hsettled hframes]
      refine ⟨h, List.prefix_refl _, ?_⟩
      rw [List.tail_nil, ← hframes]
  | cons frame below =>
      have hopen : frame.name ∈ openElements text := by
        rw [← List.mem_reverse, reverse_openElements, hframes]
        exact List.mem_cons_self
      have hnamed : frame.isNamed frame.name = true := BEq.rfl
      rw [closeInnermost_of_cons schema hsettled hframes]
      refine ⟨unterminatedTag?_closed _ _, List.prefix_append _ _, ?_⟩
      rw [nesting_closed hsettled hopen, hframes, List.eraseP_cons_of_pos hnamed, List.tail_cons]

/-- **Any number of steps** closes as many elements from the inside, and sets no closing tag
aside. -/
theorem closeInnermost_iterate (schema : Schema) {text : Text} (h : unterminatedTag? text = none)
    (steps : Nat) :
    unterminatedTag? ((closeInnermost schema)^[steps] text) = none
      ∧ text <+: (closeInnermost schema)^[steps] text
      ∧ nesting ((closeInnermost schema)^[steps] text)
          = ⟨(nesting text).frames.drop steps, (nesting text).unmatched⟩ := by
  induction steps with
  | zero => exact ⟨h, List.prefix_refl _, rfl⟩
  | succ steps ih =>
      obtain ⟨hsettled, hstarts, hnesting⟩ := ih
      obtain ⟨hsettled', hstarts', hnesting'⟩ := closeInnermost_step schema hsettled
      rw [Function.iterate_succ_apply']
      refine ⟨hsettled', hstarts.trans hstarts', ?_⟩
      rw [hnesting', hnesting, List.tail_drop]

/-- The complaints about closing tags are the same in every longer text that sets the same closing
tags aside. -/
theorem mapM_complain_of_extends {text longer : Text} (hstarts : text <+: longer)
    (hunmatched : (nesting longer).unmatched = (nesting text).unmatched) :
    (nesting longer).unmatched.mapM (Diagnosis.complain longer)
      = (nesting text).unmatched.mapM (Diagnosis.complain text) := by
  obtain ⟨more, rfl⟩ := hstarts
  rw [hunmatched]
  apply mapM_congr
  intro token htoken
  have hmem : token ∈ tokens text := (Markup.unmatched_foldl_sublist _).mem htoken
  obtain ⟨-, hlt, hstop⟩ := Text.mem_occurrences_bounds Markup.readTag_fits hmem
  rw [Nat.zero_add] at hstop
  exact Diagnosis.complain_append (Nat.le_of_lt hlt) hstop more

/-- **Offers for closing tags close what they name.** Behind `</` the names of the open elements
are offered, innermost first and each once. Taking an offer removes the innermost element of its
name, sets nothing aside and leaves no unterminated tag. Taking first offers `steps` times leaves
all but that many of the open elements, from the outside, so nothing is open exactly from as many
steps on as there were open elements. The check of the nesting then reports what it reported about
closing tags before, and nothing else; it does not fail on a text within the protocol's bounds. -/
theorem closing_offers (schema : Schema) (text : Text) (h : unterminatedTag? text = none) :
    (complete schema (text ++ ['<', '/'])).map (·.label) = (openElements text).reverse.eraseDups
      ∧ (∀ item ∈ complete schema (text ++ ['<', '/']),
          unterminatedTag? (accept text item) = none
          ∧ (nesting (accept text item)).unmatched = (nesting text).unmatched
          ∧ ∃ outer frame inner, (nesting text).stack = outer ++ frame :: inner
            ∧ frame.name = item.label ∧ (∀ other ∈ inner, other.name ≠ item.label)
            ∧ (nesting (accept text item)).stack = outer ++ inner)
      ∧ (∀ steps, (nesting ((closeInnermost schema)^[steps] text)).stack
          = (nesting text).stack.take ((openElements text).length - steps))
      ∧ (∀ steps, (nesting ((closeInnermost schema)^[steps] text)).stack = []
          ↔ (openElements text).length ≤ steps)
      ∧ checkNesting ((closeInnermost schema)^[(openElements text).length] text)
          = (checkNesting text).map (List.filter (·.problem.code == "unmatched-closing-tag"))
      ∧ (text.length ≤ 2147483647 → ∃ found, checkNesting text = .ok found) := by
  have hsettled := Settled.of_unterminatedTag? h
  have hlength : (openElements text).length = (nesting text).frames.length := by
    rw [← List.length_reverse, reverse_openElements, List.length_map]
  have hstack : ∀ steps, (nesting ((closeInnermost schema)^[steps] text)).stack
      = (nesting text).stack.take ((openElements text).length - steps) := by
    intro steps
    obtain ⟨-, -, hnesting⟩ := closeInnermost_iterate schema h steps
    rw [hnesting, Nesting.stack, List.reverse_drop, hlength]
    rfl
  refine ⟨map_label_complete schema hsettled, ?_, hstack, ?_, ?_,
    Diagnosis.exists_checkNesting_eq_ok⟩
  · intro item hitem
    obtain ⟨hopen, haccept⟩ := accept_eq schema hsettled hitem
    rw [haccept]
    refine ⟨unterminatedTag?_closed _ _, ?_, exists_stack_closed hsettled hopen⟩
    rw [nesting_closed hsettled hopen]
  · intro steps
    obtain ⟨-, -, hnesting⟩ := closeInnermost_iterate schema h steps
    rw [hnesting, Nesting.stack, List.reverse_eq_nil_iff, List.drop_eq_nil_iff, hlength]
  · obtain ⟨-, hstarts, hnesting⟩ := closeInnermost_iterate schema h (openElements text).length
    have hclosed : (nesting ((closeInnermost schema)^[(openElements text).length] text)).frames
        = [] := by
      rw [hnesting, hlength, List.drop_length]
    rw [Diagnosis.map_filter_checkNesting, Diagnosis.checkNesting_of_nil hclosed]
    apply mapM_complain_of_extends hstarts
    rw [hnesting]

/-- A stray closing tag, an element inside one of the same name, and another between the two. -/
def nestedTwice : Text := "</x><a><b><a>".toList

theorem closing_offers_nestedTwice :
    unterminatedTag? nestedTwice = none
      ∧ (complete Diagnosis.listSchema (nestedTwice ++ ['<', '/'])).map (·.label) = [['a'], ['b']]
      ∧ (nesting ((closeInnermost Diagnosis.listSchema)^[2] nestedTwice)).stack ≠ []
      ∧ (nesting ((closeInnermost Diagnosis.listSchema)^[3] nestedTwice)).stack = [] := by
  have hsettled : unterminatedTag? nestedTwice = none := by decide
  have hopen : openElements nestedTwice = [['a'], ['b'], ['a']] := by decide +kernel
  obtain ⟨hlabels, -, -, hempty, -⟩ := closing_offers Diagnosis.listSchema nestedTwice hsettled
  rw [hopen] at hlabels hempty
  refine ⟨hsettled, ?_, ?_, ?_⟩
  · rw [hlabels]
    decide
  · exact (hempty 2).not.mpr (by decide)
  · exact (hempty 3).mpr (by decide)

end TagLens.Assist
