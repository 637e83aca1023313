import Mathlib.Data.List.Induction
import Mathlib.Data.List.Infix
import TagLens.Markup.Nesting
import TagLens.Proofs.Markup.Scan

/-!
# Which tags match

A closing tag removes the innermost open element of its name, from the middle of the list if need
be. The module says what comes of this rule for any row of tags, well nested or not, without
speaking of the list: per name it is the matching of brackets.

* An element stays open exactly when the closing tags of its name never outnumber the opening ones
  on any stretch that begins right behind its own tag (`frames_foldl`, `survives_iff`).
* A closing tag closes nothing exactly when the opening tags of its name never outnumber the
  closing ones on any stretch that ends right before it (`countP_frames_le_iff`,
  `mem_unmatched_foldl`).
* What becomes of the tags of one name does not depend on the others (`only_foldl`).
-/

namespace TagLens.Markup

/-! ## Opening and closing tags of a name -/

/-- A tag that opens an element: neither a closing tag nor a self-closing one. -/
def Tag.isOpener (tag : Tag) : Bool := !tag.closing && !tag.selfClosing

def Tag.opens (name : Text) (tag : Tag) : Bool := tag.isOpener && tag.name == name

def Tag.closes (name : Text) (tag : Tag) : Bool := tag.closing && tag.name == name

/-- How many elements of a name a row of tags opens. -/
def openers (name : Text) (row : List Token) : Nat := row.countP (·.value.opens name)

/-- How many closing tags of a name a row holds. -/
def closers (name : Text) (row : List Token) : Nat := row.countP (·.value.closes name)

theorem openers_cons (name : Text) (token : Token) (row : List Token) :
    openers name (token :: row) = (token.value.opens name).toNat + openers name row := by
  cases h : token.value.opens name with
  | true => simp [openers, h, Nat.add_comm]
  | false => simp [openers, h]

theorem closers_cons (name : Text) (token : Token) (row : List Token) :
    closers name (token :: row) = (token.value.closes name).toNat + closers name row := by
  cases h : token.value.closes name with
  | true => simp [closers, h, Nat.add_comm]
  | false => simp [closers, h]

/-- The open element that an opening tag leaves. -/
def frameOf (token : Token) : Frame := ⟨token.value.name, token.start⟩

def Frame.isNamed (name : Text) (frame : Frame) : Bool := frame.name == name

theorem Tag.opener_or_closing (tag : Tag) :
    tag.isOpener = true ∨ tag.closing = true ∨ (tag.isOpener = false ∧ tag.closing = false) := by
  cases hopener : tag.isOpener with
  | true => exact .inl rfl
  | false =>
      cases hclosing : tag.closing with
      | true => exact .inr (.inl rfl)
      | false => exact .inr (.inr ⟨rfl, rfl⟩)

theorem Tag.closes_of_isOpener {tag : Tag} (h : tag.isOpener = true) (name : Text) :
    tag.closes name = false := by
  simp only [Tag.isOpener, Bool.and_eq_true, Bool.not_eq_true'] at h
  rw [Tag.closes, h.1, Bool.false_and]

theorem Tag.closes_of_opens {name : Text} {tag : Tag} (h : tag.opens name = true) :
    tag.closes name = false := by
  rw [Tag.opens, Bool.and_eq_true] at h
  exact Tag.closes_of_isOpener h.1 name

theorem Tag.isOpener_of_closing {tag : Tag} (h : tag.closing = true) : tag.isOpener = false := by
  rw [Tag.isOpener, h]
  rfl

theorem Tag.opens_of_closing {tag : Tag} (h : tag.closing = true) (name : Text) :
    tag.opens name = false := by
  rw [Tag.opens, Tag.isOpener_of_closing h, Bool.false_and]

theorem isNamed_frameOf {token : Token} (h : token.value.isOpener = true) (name : Text) :
    (frameOf token).isNamed name = token.value.opens name := by
  rw [Tag.opens, h, Bool.true_and]
  rfl

/-! ## One step -/

namespace Nesting

variable (state : Nesting) {token : Token}

theorem step_of_isOpener (h : token.value.isOpener = true) :
    state.step token = { state with frames := frameOf token :: state.frames } := by
  simp only [Tag.isOpener, Bool.and_eq_true, Bool.not_eq_true'] at h
  simp [step, h.1, h.2, frameOf]

/-- A closing tag for which nothing is open erases nothing. -/
theorem step_of_closing (h : token.value.closing = true) :
    state.step token
      = ⟨state.frames.eraseP (·.isNamed token.value.name),
          if state.frames.any (·.isNamed token.value.name) then state.unmatched
          else state.unmatched ++ [token]⟩ := by
  cases hany : state.frames.any (·.isNamed token.value.name) with
  | true =>
      have hnamed : state.frames.any (fun frame => frame.name == token.value.name) = true := hany
      simp only [step, h, hnamed, if_true]
      rfl
  | false =>
      have hnamed : state.frames.any (fun frame => frame.name == token.value.name) = false := hany
      have herase : state.frames.eraseP (·.isNamed token.value.name) = state.frames := by
        apply List.eraseP_of_forall_not
        simpa using hany
      simp [step, h, hnamed, herase]

/-- A closing tag takes away the innermost element of its name, or it is set aside because there is
none. Said of the open elements outermost first. -/
theorem step_closing_cases (h : token.value.closing = true) :
    (∃ outer frame inner, state.stack = outer ++ frame :: inner
        ∧ frame.name = token.value.name ∧ (∀ other ∈ inner, other.name ≠ token.value.name)
        ∧ (state.step token).stack = outer ++ inner
        ∧ (state.step token).unmatched = state.unmatched)
      ∨ ((∀ frame ∈ state.stack, frame.name ≠ token.value.name)
        ∧ (state.step token).stack = state.stack
        ∧ (state.step token).unmatched = state.unmatched ++ [token]) := by
  rw [state.step_of_closing h]
  cases hany : state.frames.any (·.isNamed token.value.name) with
  | true =>
      obtain ⟨frame, hmem, hnamed⟩ := List.any_eq_true.mp hany
      -- innermost first, the element that goes is the first one of its name
      obtain ⟨closed, inner, outer, hinner, hclosed, hsplit, herase⟩ :=
        List.exists_of_eraseP hmem hnamed
      refine .inl ⟨outer.reverse, closed, inner.reverse, ?_, ?_, ?_, ?_, rfl⟩
      · rw [stack, hsplit]
        simp
      · simpa [Frame.isNamed] using hclosed
      · intro other hother
        have hnot := hinner other (List.mem_reverse.mp hother)
        simpa [Frame.isNamed] using hnot
      · show (state.frames.eraseP (·.isNamed token.value.name)).reverse = _
        rw [herase, List.reverse_append]
  | false =>
      have hnone : ∀ frame ∈ state.frames, ¬ frame.isNamed token.value.name = true := by
        simpa using hany
      refine .inr ⟨?_, ?_, rfl⟩
      · intro frame hframe
        have hnot := hnone frame (List.mem_reverse.mp hframe)
        simpa [Frame.isNamed] using hnot
      · show (state.frames.eraseP (·.isNamed token.value.name)).reverse = _
        rw [List.eraseP_of_forall_not hnone]
        rfl

/-- A tag is set aside exactly when it is a closing one and no element of its name is open. -/
theorem unmatched_step (token : Token) :
    (state.step token).unmatched
      = state.unmatched
        ++ if token.value.closing && !state.frames.any (·.isNamed token.value.name) then [token]
          else [] := by
  cases hclosing : token.value.closing with
  | true =>
      rw [state.step_of_closing hclosing]
      cases state.frames.any (·.isNamed token.value.name) with
      | true => simp
      | false => simp
  | false =>
      cases hvoid : token.value.selfClosing with
      | true => simp [step, hclosing, hvoid]
      | false => simp [step, hclosing, hvoid]

theorem step_of_neither (hopener : token.value.isOpener = false)
    (hclosing : token.value.closing = false) : state.step token = state := by
  have hvoid : token.value.selfClosing = true := by
    simpa [Tag.isOpener, hclosing] using hopener
  simp [step, hclosing, hvoid]

end Nesting

/-! ## Elements that stay open -/

/-- Does an element stay open when further tags follow? `above` is the number of elements of its
name that stand open inside it; they are closed first. -/
def survives (name : Text) : Nat → List Token → Bool
  | _, [] => true
  | above, token :: later =>
    if token.value.opens name then survives name (above + 1) later
    else if token.value.closes name then above != 0 && survives name (above - 1) later
    else survives name above later

theorem forall_prefix_cons {token : Token} {later : List Token} {P : List Token → Prop} :
    (∀ part, part <+: token :: later → P part)
      ↔ P [] ∧ ∀ part, part <+: later → P (token :: part) := by
  constructor
  · intro h
    refine ⟨h [] List.nil_prefix, ?_⟩
    intro part hpart
    exact h (token :: part) ((List.prefix_cons_inj token).mpr hpart)
  · rintro ⟨hnil, hcons⟩ part hpart
    rcases List.prefix_cons_iff.mp hpart with rfl | ⟨rest, rfl, hrest⟩
    · exact hnil
    · exact hcons rest hrest

/-- **Survival by counting**: on no stretch that begins here do the closing tags of the name
outnumber the opening ones by more than the elements above. -/
theorem survives_iff {name : Text} {above : Nat} {later : List Token} :
    survives name above later = true
      ↔ ∀ part, part <+: later → closers name part ≤ above + openers name part := by
  induction later generalizing above with
  | nil => simp [survives, closers, openers]
  | cons token later ih =>
      have hnil : closers name [] ≤ above + openers name [] := Nat.zero_le _
      rw [survives, forall_prefix_cons]
      cases hopens : token.value.opens name with
      | true =>
          have hhere : ∀ part, closers name (token :: part) ≤ above + openers name (token :: part)
              ↔ closers name part ≤ above + 1 + openers name part := by
            intro part
            rw [openers_cons, closers_cons, hopens, Tag.closes_of_opens hopens]
            simp only [Bool.toNat_true, Bool.toNat_false]
            omega
          simp only [if_true, ih, hhere, hnil, true_and]
      | false =>
          cases hcloses : token.value.closes name with
          | true =>
              by_cases habove : above = 0
              · -- the tag alone is a stretch on which it is one too many
                have hfail : ¬ ∀ part, part <+: later →
                    closers name (token :: part) ≤ above + openers name (token :: part) := by
                  intro h
                  have hone := h [] List.nil_prefix
                  rw [openers_cons, closers_cons, hopens, hcloses, habove] at hone
                  exact Nat.not_succ_le_zero 0 hone
                exact iff_of_false (by simp [habove]) (fun h => hfail h.2)
              · have hhere : ∀ part,
                    closers name (token :: part) ≤ above + openers name (token :: part)
                      ↔ closers name part ≤ above - 1 + openers name part := by
                  intro part
                  rw [openers_cons, closers_cons, hopens, hcloses]
                  simp only [Bool.toNat_true, Bool.toNat_false]
                  omega
                simp [ih, hhere, hnil, habove]
          | false =>
              have hhere : ∀ part,
                  closers name (token :: part) ≤ above + openers name (token :: part)
                    ↔ closers name part ≤ above + openers name part := by
                intro part
                rw [openers_cons, closers_cons, hopens, hcloses]
                simp only [Bool.toNat_false, Nat.zero_add]
              simp [ih, hhere, hnil]

/-- What is left of the open elements, innermost first, when further tags follow; `above` holds
the elements inside them. -/
def kept (later : List Token) (above : List Frame) : List Frame → List Frame
  | [] => []
  | frame :: below =>
    if survives frame.name (above.countP (·.isNamed frame.name)) later then
      frame :: kept later (frame :: above) below
    else kept later (frame :: above) below

/-- The elements that a row of tags opens and leaves open, in the order of the row. -/
def lasting : List Token → List Frame
  | [] => []
  | token :: later =>
    if token.value.isOpener && survives token.value.name 0 later then
      frameOf token :: lasting later
    else lasting later

theorem countP_isNamed_cons (name : Text) (frame : Frame) (above : List Frame) :
    (frame :: above).countP (·.isNamed name)
      = (frame.isNamed name).toNat + above.countP (·.isNamed name) := by
  cases h : frame.isNamed name with
  | true => simp [h, Nat.add_comm]
  | false => simp [h]

/-- What is left depends on the tags that follow and on the elements above only through the
question which elements survive. -/
theorem kept_congr {later later' : List Token} {above above' : List Frame}
    (h : ∀ name more, survives name (more + above.countP (·.isNamed name)) later
      = survives name (more + above'.countP (·.isNamed name)) later') (frames : List Frame) :
    kept later above frames = kept later' above' frames := by
  induction frames generalizing above above' with
  | nil => rfl
  | cons frame below ih =>
      have hhere := h frame.name 0
      rw [Nat.zero_add, Nat.zero_add] at hhere
      have hbelow : kept later (frame :: above) below = kept later' (frame :: above') below := by
        apply ih
        intro name more
        rw [countP_isNamed_cons, countP_isNamed_cons, ← Nat.add_assoc, ← Nat.add_assoc]
        exact h name _
      rw [kept, kept, hhere, hbelow]

theorem kept_nil (above frames : List Frame) : kept [] above frames = frames := by
  induction frames generalizing above with
  | nil => rfl
  | cons frame below ih => rw [kept, survives, if_pos rfl, ih]

/-- An opening tag stands above everything that is open when it comes. -/
theorem kept_opener {token : Token} (h : token.value.isOpener = true) (later : List Token)
    (frames : List Frame) :
    kept later [frameOf token] frames = kept (token :: later) [] frames := by
  apply kept_congr
  intro name more
  rw [countP_isNamed_cons, isNamed_frameOf h, survives, Tag.closes_of_isOpener h]
  cases token.value.opens name with
  | true => rfl
  | false => rfl

theorem kept_neither {token : Token} (hopener : token.value.isOpener = false)
    (hclosing : token.value.closing = false) (later : List Token) (frames : List Frame) :
    kept later [] frames = kept (token :: later) [] frames := by
  apply kept_congr
  intro name more
  rw [survives, Tag.opens, Tag.closes, hopener, hclosing]
  rfl

theorem survives_closing {token : Token} (h : token.value.closing = true) (name : Text)
    (above : Nat) (later : List Token) :
    survives name above (token :: later)
      = if token.value.name = name then above != 0 && survives name (above - 1) later
        else survives name above later := by
  rw [survives, Tag.opens_of_closing h, Tag.closes, h, Bool.true_and]
  simp

/-- A closing tag takes the innermost element of its name away, and of the elements of that name
below it one less is to be closed first. -/
theorem kept_closing {token : Token} (h : token.value.closing = true) (later : List Token)
    {above : List Frame} (habove : above.countP (·.isNamed token.value.name) = 0)
    (frames : List Frame) :
    kept later above (frames.eraseP (·.isNamed token.value.name))
      = kept (token :: later) above frames := by
  induction frames generalizing above with
  | nil => rfl
  | cons frame below ih =>
      cases hnamed : frame.isNamed token.value.name with
      | true =>
          have hname : frame.name = token.value.name := by simpa [Frame.isNamed] using hnamed
          have hgone : survives frame.name (above.countP (·.isNamed frame.name)) (token :: later)
              = false := by
            rw [survives_closing h, if_pos hname.symm, hname, habove]
            rfl
          rw [List.eraseP_cons_of_pos hnamed, kept, hgone, if_neg (by decide)]
          -- this element goes; for those below it counts as closed already
          apply kept_congr
          intro name more
          rw [survives_closing h, countP_isNamed_cons]
          split
          · next heq =>
              rw [← heq, hnamed, habove]
              rfl
          · next hne =>
              have hother : frame.isNamed name = false := by
                rw [Frame.isNamed, hname]
                exact beq_false_of_ne hne
              rw [hother, Bool.toNat_false, Nat.zero_add]
      | false =>
          have hname : ¬ token.value.name = frame.name := by
            rintro heq
            rw [Frame.isNamed, heq] at hnamed
            simp at hnamed
          have hbelow : (frame :: above).countP (·.isNamed token.value.name) = 0 := by
            rw [countP_isNamed_cons, hnamed, habove]
            rfl
          rw [List.eraseP_cons_of_neg (by simp [hnamed]), kept, kept, survives_closing h,
            if_neg hname, ih hbelow]

/-- **What a row of tags leaves open**: the elements it opens that survive the tags behind them,
and below them what survives of the elements that were open before. -/
theorem frames_foldl (row : List Token) (state : Nesting) :
    (row.foldl Nesting.step state).frames = (lasting row).reverse ++ kept row [] state.frames := by
  induction row generalizing state with
  | nil => simp [lasting, kept_nil]
  | cons token later ih =>
      rw [List.foldl_cons, ih]
      rcases token.value.opener_or_closing with hopener | hclosing | ⟨hopener, hclosing⟩
      · rw [state.step_of_isOpener hopener, lasting, kept, kept_opener hopener, hopener,
          Bool.true_and]
        show _ ++ (if survives token.value.name 0 later = true then _ else _) = _
        split
        · simp
        · rfl
      · rw [state.step_of_closing hclosing, lasting, Tag.isOpener_of_closing hclosing,
          Bool.false_and, kept_closing hclosing later rfl]
        rfl
      · rw [state.step_of_neither hopener hclosing, lasting, hopener, Bool.false_and,
          kept_neither hopener hclosing]
        rfl

/-- The elements left open, named by their tags and what stands behind these. -/
theorem mem_lasting {row : List Token} {frame : Frame} :
    frame ∈ lasting row ↔ ∃ before token after, row = before ++ token :: after
      ∧ token.value.isOpener = true ∧ frame = frameOf token
      ∧ ∀ part, part <+: after → closers token.value.name part ≤ openers token.value.name part := by
  induction row with
  | nil => simp [lasting]
  | cons first later ih =>
      have hfirst : (first.value.isOpener && survives first.value.name 0 later) = true
          ↔ first.value.isOpener = true ∧ ∀ part, part <+: later →
              closers first.value.name part ≤ openers first.value.name part := by
        rw [Bool.and_eq_true, survives_iff]
        simp only [Nat.zero_add]
      constructor
      · intro hmem
        have hcases : (first.value.isOpener && survives first.value.name 0 later) = true
            ∧ frame = frameOf first ∨ frame ∈ lasting later := by
          rw [lasting] at hmem
          split at hmem
          · next hlasts =>
              rcases List.mem_cons.mp hmem with hframe | hmem
              · exact .inl ⟨hlasts, hframe⟩
              · exact .inr hmem
          · exact .inr hmem
        rcases hcases with ⟨hlasts, hframe⟩ | hmem
        · obtain ⟨hopener, hcount⟩ := hfirst.mp hlasts
          exact ⟨[], first, later, rfl, hopener, hframe, hcount⟩
        · obtain ⟨before, token, after, rfl, hrest⟩ := ih.mp hmem
          exact ⟨first :: before, token, after, rfl, hrest⟩
      · rintro ⟨before, token, after, hsplit, hopener, hframe, hcount⟩
        rw [lasting]
        cases before with
        | nil =>
            obtain ⟨rfl, rfl⟩ := List.cons.inj hsplit
            rw [if_pos (hfirst.mpr ⟨hopener, hcount⟩), hframe]
            exact List.mem_cons_self
        | cons other before =>
            obtain ⟨rfl, rfl⟩ := List.cons.inj hsplit
            have hmem := ih.mpr ⟨before, token, after, rfl, hopener, hframe, hcount⟩
            split
            · exact List.mem_cons_of_mem _ hmem
            · exact hmem

theorem lasting_sublist (row : List Token) : (lasting row).Sublist (row.map frameOf) := by
  induction row with
  | nil => exact List.Sublist.refl _
  | cons token later ih =>
      rw [lasting, List.map_cons]
      split
      · exact ih.cons_cons _
      · exact ih.cons _

/-! ## One name at a time -/

/-- Of the elements of one name, the innermost is erased, and no other. -/
theorem filter_eraseP (name closed : Text) (frames : List Frame) :
    (frames.eraseP (·.isNamed closed)).filter (·.isNamed name)
      = if closed = name then (frames.filter (·.isNamed name)).tail
        else frames.filter (·.isNamed name) := by
  induction frames with
  | nil => simp
  | cons frame below ih =>
      cases hclosed : frame.isNamed closed with
      | true =>
          have hframe : frame.name = closed := by simpa [Frame.isNamed] using hclosed
          rw [List.eraseP_cons_of_pos hclosed]
          split
          · next heq =>
              rw [List.filter_cons_of_pos (by rw [← heq]; exact hclosed), List.tail_cons]
          · next hne =>
              rw [List.filter_cons_of_neg (by simpa [Frame.isNamed, hframe] using hne)]
      | false =>
          rw [List.eraseP_cons_of_neg (by simp [hclosed]), List.filter_cons, List.filter_cons, ih]
          cases hnamed : frame.isNamed name with
          | false => rfl
          | true =>
              have hne : closed ≠ name := by
                rintro rfl
                rw [hnamed] at hclosed
                exact absurd hclosed (by decide)
              rw [if_neg hne, if_neg hne]

namespace Nesting

/-- The part of a scan that concerns one name. -/
def only (state : Nesting) (name : Text) : Nesting :=
  ⟨state.frames.filter (·.isNamed name), state.unmatched.filter (·.value.name == name)⟩

/-- A tag of another name changes nothing. -/
theorem only_step_of_ne (state : Nesting) {token : Token} {name : Text}
    (h : token.value.name ≠ name) : (state.step token).only name = state.only name := by
  have hframe : (frameOf token).isNamed name = false := beq_false_of_ne h
  have htoken : (token.value.name == name) = false := beq_false_of_ne h
  rcases token.value.opener_or_closing with hopener | hclosing | ⟨hopener, hclosing⟩
  · rw [state.step_of_isOpener hopener, only, only, List.filter_cons_of_neg (by simp [hframe])]
  · rw [state.step_of_closing hclosing, only, only, filter_eraseP, if_neg h]
    split
    · rfl
    · simp [htoken]
  · rw [state.step_of_neither hopener hclosing]

/-- A tag of the name does what it does among the elements of the name. -/
theorem only_step_of_eq (state : Nesting) {token : Token} {name : Text}
    (h : token.value.name = name) :
    (state.step token).only name = (state.only name).step token := by
  subst h
  have hframe : (frameOf token).isNamed token.value.name = true := BEq.rfl
  rcases token.value.opener_or_closing with hopener | hclosing | ⟨hopener, hclosing⟩
  · rw [state.step_of_isOpener hopener, step_of_isOpener _ hopener, only, only,
      List.filter_cons_of_pos hframe]
  · have hany : (state.frames.filter (·.isNamed token.value.name)).any
        (·.isNamed token.value.name) = state.frames.any (·.isNamed token.value.name) := by
      simp
    rw [state.step_of_closing hclosing, step_of_closing _ hclosing, only, only, hany]
    simp only [List.eraseP_filter, Bool.and_self]
    split
    · rfl
    · simp
  · rw [state.step_of_neither hopener hclosing, step_of_neither _ hopener hclosing]

/-- **Names do not interfere**: what a row of tags does to the elements of one name, the tags of
that name do alone. -/
theorem only_foldl (row : List Token) (state : Nesting) (name : Text) :
    (row.foldl step state).only name
      = (row.filter (·.value.name == name)).foldl step (state.only name) := by
  induction row generalizing state with
  | nil => rfl
  | cons token later ih =>
      rw [List.foldl_cons, ih]
      by_cases h : token.value.name = name
      · rw [List.filter_cons_of_pos (by simpa using h), List.foldl_cons, state.only_step_of_eq h]
      · rw [List.filter_cons_of_neg (by simpa using h), state.only_step_of_ne h]

end Nesting

/-! ## Closing tags that close nothing -/

/-- How many elements of a name are open after one more tag. -/
theorem countP_frames_step (state : Nesting) (token : Token) (name : Text) :
    (state.step token).frames.countP (·.isNamed name)
      = state.frames.countP (·.isNamed name) + (token.value.opens name).toNat
        - (token.value.closes name).toNat := by
  rcases token.value.opener_or_closing with hopener | hclosing | ⟨hopener, hclosing⟩
  · rw [state.step_of_isOpener hopener, countP_isNamed_cons, isNamed_frameOf hopener,
      Tag.closes_of_isOpener hopener, Nat.add_comm]
    rfl
  · rw [state.step_of_closing hclosing, List.countP_eq_length_filter, filter_eraseP,
      List.countP_eq_length_filter, Tag.opens_of_closing hclosing, Tag.closes, hclosing,
      Bool.true_and]
    by_cases h : token.value.name = name
    · simp [h]
    · simp [h, beq_false_of_ne h]
  · rw [state.step_of_neither hopener hclosing, Tag.opens, Tag.closes, hopener, hclosing]
    rfl

theorem forall_suffix_concat {row : List Token} {token : Token} {P : List Token → Prop} :
    (∀ part, part <:+ row ++ [token] → P part)
      ↔ P [] ∧ ∀ part, part <:+ row → P (part ++ [token]) := by
  constructor
  · intro h
    refine ⟨h [] List.nil_suffix, ?_⟩
    intro part hpart
    exact h (part ++ [token]) (List.suffix_concat_iff.mpr (.inr ⟨part, rfl, hpart⟩))
  · rintro ⟨hnil, hconcat⟩ part hpart
    rcases List.suffix_concat_iff.mp hpart with rfl | ⟨rest, rfl, hrest⟩
    · exact hnil
    · exact hconcat rest hrest

theorem openers_concat (name : Text) (row : List Token) (token : Token) :
    openers name (row ++ [token]) = openers name row + (token.value.opens name).toNat := by
  rw [openers, List.countP_append]
  exact congrArg (openers name row + ·) (openers_cons name token [])

theorem closers_concat (name : Text) (row : List Token) (token : Token) :
    closers name (row ++ [token]) = closers name row + (token.value.closes name).toNat := by
  rw [closers, List.countP_append]
  exact congrArg (closers name row + ·) (closers_cons name token [])

/-- **How many elements of a name are open**: the greatest surplus of opening tags over closing
ones on a stretch that ends here. The induction is on the row from its end, since the stretches end
where the row does. -/
theorem countP_frames_le_iff (row : List Token) (name : Text) (bound : Nat) :
    (row.foldl Nesting.step Nesting.empty).frames.countP (·.isNamed name) ≤ bound
      ↔ ∀ part, part <:+ row → openers name part ≤ bound + closers name part := by
  induction row using List.reverseRecOn generalizing bound with
  | nil => simp [Nesting.empty, openers]
  | append_singleton row token ih =>
      have hnil : openers name [] ≤ bound + closers name [] := Nat.zero_le _
      rw [List.foldl_append, List.foldl_cons, List.foldl_nil, countP_frames_step,
        forall_suffix_concat]
      simp only [openers_concat, closers_concat, hnil, true_and]
      cases hopens : token.value.opens name with
      | true =>
          rw [Tag.closes_of_opens hopens, Bool.toNat_true, Bool.toNat_false]
          cases bound with
          | zero =>
              -- the tag alone is a stretch with a surplus
              refine iff_of_false (by omega) ?_
              intro h
              exact Nat.not_succ_le_zero 0 (h [] List.nil_suffix)
          | succ bound =>
              have hless := ih bound
              constructor
              · intro h part hpart
                have := hless.mp (by omega) part hpart
                omega
              · intro h
                have := hless.mpr fun part hpart => by
                  have := h part hpart
                  omega
                omega
      | false =>
          have hmore := ih (bound + (token.value.closes name).toNat)
          rw [Bool.toNat_false]
          constructor
          · intro h part hpart
            have := hmore.mp (by omega) part hpart
            omega
          · intro h
            have := hmore.mpr fun part hpart => by
              have := h part hpart
              omega
            omega

theorem any_isNamed_eq_false_iff (row : List Token) (name : Text) :
    (row.foldl Nesting.step Nesting.empty).frames.any (·.isNamed name) = false
      ↔ ∀ part, part <:+ row → openers name part ≤ closers name part := by
  have hcount := countP_frames_le_iff row name 0
  simp only [Nat.zero_add, Nat.le_zero] at hcount
  rw [← hcount, List.countP_eq_zero, List.any_eq_false]

/-- **Closing tags set aside**: those before which no element of their name is open. -/
theorem mem_unmatched_foldl {row : List Token} {token : Token} :
    token ∈ (row.foldl Nesting.step Nesting.empty).unmatched
      ↔ ∃ before after, row = before ++ token :: after ∧ token.value.closing = true
        ∧ ∀ part, part <:+ before →
            openers token.value.name part ≤ closers token.value.name part := by
  induction row using List.reverseRecOn with
  | nil => simp [Nesting.empty]
  | append_singleton row last ih =>
      rw [List.foldl_append, List.foldl_cons, List.foldl_nil, Nesting.unmatched_step,
        List.mem_append, ih]
      constructor
      · rintro (⟨before, after, rfl, hrest⟩ | hlast)
        · exact ⟨before, after ++ [last], by simp, hrest⟩
        · split at hlast
          · next haside =>
              obtain rfl : token = last := List.mem_singleton.mp hlast
              rw [Bool.and_eq_true, Bool.not_eq_true', any_isNamed_eq_false_iff] at haside
              exact ⟨row, [], rfl, haside⟩
          · exact absurd hlast List.not_mem_nil
      · rintro ⟨before, after, hsplit, hclosing, hcount⟩
        rcases List.eq_nil_or_concat after with rfl | ⟨front, other, rfl⟩
        · -- the tag is the last of the row
          obtain ⟨rfl, hlast⟩ := List.append_inj' hsplit rfl
          obtain rfl : last = token := List.singleton_inj.mp hlast
          refine .inr ?_
          rw [if_pos]
          · exact List.mem_singleton.mpr rfl
          · rw [Bool.and_eq_true, Bool.not_eq_true', any_isNamed_eq_false_iff]
            exact ⟨hclosing, hcount⟩
        · rw [List.concat_eq_append, ← List.cons_append, ← List.append_assoc] at hsplit
          obtain ⟨rfl, -⟩ := List.append_inj' hsplit rfl
          exact .inl ⟨before, front, rfl, hclosing, hcount⟩

theorem unmatched_foldl_sublist (row : List Token) :
    (row.foldl Nesting.step Nesting.empty).unmatched.Sublist row := by
  induction row using List.reverseRecOn with
  | nil => exact List.Sublist.refl _
  | append_singleton row last ih =>
      rw [List.foldl_append, List.foldl_cons, List.foldl_nil, Nesting.unmatched_step]
      apply ih.append
      split
      · exact List.Sublist.refl _
      · exact List.nil_sublist _

/-! ## Whole texts -/

theorem tokens_ordered (text : Text) :
    (tokens text).Pairwise fun first second => first.start < second.start :=
  Text.occurrences_ordered readTag_fits 0 text

theorem stack_eq_lasting (text : Text) : (nesting text).stack = lasting (tokens text) := by
  rw [Nesting.stack, nesting, frames_foldl]
  simp [Nesting.empty, kept]

theorem isName_of_mem_frames {text : Text} {frame : Frame} (h : frame ∈ (nesting text).frames) :
    IsName frame.name := by
  have hstack : frame ∈ (nesting text).stack := List.mem_reverse.mpr h
  rw [stack_eq_lasting] at hstack
  obtain ⟨token, htoken, rfl⟩ := List.mem_map.mp ((lasting_sublist _).mem hstack)
  obtain ⟨-, tail, n, -, hread, -, -⟩ :=
    Text.exists_split_of_mem_occurrences readTag_fits htoken
  obtain ⟨-, -, -, -, hname, -⟩ := exists_of_readTag_eq_some hread
  exact hname

/-- **The rule of the nearest match**, for any text. The elements open at its end are those whose
opening tag no closing tags of their name outnumber behind it, outermost first; the closing tags set
aside are those that no opening tags of their name outnumber before them, in the order of the text;
and both are settled among the tags of one name, whatever the others are. -/
theorem nesting_nearest_match (text : Text) :
    (∀ frame, frame ∈ (nesting text).stack ↔
        ∃ before token after, tokens text = before ++ token :: after
          ∧ token.value.isOpener = true ∧ frame = frameOf token
          ∧ ∀ part, part <+: after →
              closers token.value.name part ≤ openers token.value.name part)
      ∧ (nesting text).stack.Pairwise (fun outer inner => outer.offset < inner.offset)
      ∧ (∀ token, token ∈ (nesting text).unmatched ↔
          ∃ before after, tokens text = before ++ token :: after ∧ token.value.closing = true
            ∧ ∀ part, part <:+ before →
                openers token.value.name part ≤ closers token.value.name part)
      ∧ (nesting text).unmatched.Pairwise (fun first second => first.start < second.start)
      ∧ ∀ name, (nesting text).only name
          = ((tokens text).filter (·.value.name == name)).foldl Nesting.step Nesting.empty := by
  refine ⟨?_, ?_, ?_, ?_, ?_⟩
  · intro frame
    rw [stack_eq_lasting, mem_lasting]
  · rw [stack_eq_lasting]
    apply List.Pairwise.sublist (lasting_sublist _)
    exact List.pairwise_map.mpr (tokens_ordered text)
  · intro token
    exact mem_unmatched_foldl
  · exact (tokens_ordered text).sublist (unmatched_foldl_sublist _)
  · intro name
    exact Nesting.only_foldl _ _ name

end TagLens.Markup
