import TagLens.Diagnosis.Validator
import TagLens.Proofs.Markup.Scan

/-!
# Forests of elements and their ancestors

A `Forest` is a well-nested text as the tolerant scan understands it: elements and stretches
between them. An opening tag may hold anything that is no `>`, and a stretch may hold anything
in which no tag begins, so comments and declarations count as stretches.

`Forest.extents` lists the elements in the order of their opening tags, each with the offset
where its opening tag ends and the offset where its closing tag ends. An element is open at an
offset between the two. The scan knows nothing of elements; the main statement of the module
is that it finds the open ones all the same, at every offset:

    nesting_take : nesting (forest.text.take k) = ⟨frames of the elements open at k, []⟩
-/

namespace TagLens.Markup

open Text (isBlank occurrences occurrences_hit)

/-! ## Well-nested texts -/

/-- A stretch between two tags. -/
structure Run where
  chars : Text
  tagFree : TagFree chars

/-- Blank space, possibly none. -/
structure Space where
  chars : Text
  blank : ∀ c ∈ chars, isBlank c = true

/-- The name of an opening tag and whatever stands between the name and the end of the tag. -/
structure Head where
  name : Text
  body : Text
  isName : IsName name
  endsName : EndsName body
  unclosed : '>' ∉ body

namespace Head

def openTag (head : Head) : Text := tagText false head.name head.body

def voidTag (head : Head) : Text := tagText false head.name (head.body ++ ['/'])

def closeTag (head : Head) (space : Space) : Text := tagText true head.name space.chars

end Head

/-- Elements in a row, each behind a stretch of its own, and a last stretch behind them all.
Two stretches never touch. -/
inductive Forest where
  | leaf (run : Run)
  /-- An element without content. -/
  | void (run : Run) (head : Head) (rest : Forest)
  /-- An element with its content; a slash at the end of its opening tag would make it void. -/
  | node (run : Run) (head : Head) (opens : head.body.getLast? ≠ some '/') (space : Space)
      (inner rest : Forest)

namespace Forest

/-- The forest written down. -/
def text : Forest → Text
  | .leaf run => run.chars
  | .void run head rest => run.chars ++ (head.voidTag ++ rest.text)
  | .node run head _ space inner rest =>
    run.chars ++ (head.openTag ++ (inner.text ++ (head.closeTag space ++ rest.text)))

/-- The tags of the forest, when its text begins at `offset`. -/
def tokens (offset : Nat) : Forest → List Token
  | .leaf _ => []
  | .void run head rest =>
    let start := offset + run.chars.length
    let stop := start + head.voidTag.length
    ⟨start, stop, ⟨head.name, false, true⟩⟩ :: rest.tokens stop
  | .node run head _ space inner rest =>
    let start := offset + run.chars.length
    let opened := start + head.openTag.length
    let ended := opened + inner.text.length
    let closed := ended + (head.closeTag space).length
    ⟨start, opened, ⟨head.name, false, false⟩⟩ :: (inner.tokens opened
      ++ ⟨ended, closed, ⟨head.name, true, false⟩⟩ :: rest.tokens closed)

end Forest

/-- An element with content: its name and where its opening tag begins, where its opening tag
ends, and where its closing tag ends. -/
structure Extent where
  frame : Frame
  opened : Nat
  closed : Nat
  deriving DecidableEq, Repr

/-- The element is open at an offset: its opening tag is complete and its closing tag is not. -/
def Extent.isOpenAt (extent : Extent) (k : Nat) : Bool := extent.opened ≤ k && k < extent.closed

namespace Forest

/-- The elements with content in the order of their opening tags, so outer ones come before
the ones inside them. -/
def extents (offset : Nat) : Forest → List Extent
  | .leaf _ => []
  | .void run head rest => rest.extents (offset + run.chars.length + head.voidTag.length)
  | .node run head _ space inner rest =>
    let start := offset + run.chars.length
    let opened := start + head.openTag.length
    let closed := opened + inner.text.length + (head.closeTag space).length
    ⟨⟨head.name, start⟩, opened, closed⟩ :: (inner.extents opened ++ rest.extents closed)

/-- The frames of the elements open at an offset, outermost first. -/
def openFrames (forest : Forest) (offset k : Nat) : List Frame :=
  ((forest.extents offset).filter (·.isOpenAt k)).map (·.frame)

/-! ## The scan finds the tags of the forest -/

/-- Blank space neither lengthens a name nor ends a tag, and it never makes a tag void. -/
theorem space_body (space : Space) :
    EndsName space.chars ∧ '>' ∉ space.chars ∧ space.chars.getLast? ≠ some '/' := by
  have hdelimiter : ∀ c ∈ space.chars, isDelimiter c = false := fun c hc =>
    isDelimiter_of_isBlank (space.blank c hc)
  refine ⟨?_, ?_, ?_⟩
  · intro c hc
    exact isNameChar_of_isBlank (space.blank c (List.mem_of_mem_head? hc))
  · intro hmem
    exact absurd (hdelimiter _ hmem) (by decide)
  · intro hlast
    exact absurd (hdelimiter _ (List.mem_of_getLast? hlast)) (by decide)

theorem readTag_openTag (head : Head) (opens : head.body.getLast? ≠ some '/') (rest : Text) :
    readTag (head.openTag ++ rest) = some (⟨head.name, false, false⟩, head.openTag.length) := by
  have hlast : (head.body.getLast? == some '/') = false := by simpa using opens
  rw [Head.openTag, readTag_tagText false head.isName head.unclosed head.endsName, hlast]

theorem readTag_voidTag (head : Head) (rest : Text) :
    readTag (head.voidTag ++ rest) = some (⟨head.name, false, true⟩, head.voidTag.length) := by
  have hunclosed : '>' ∉ head.body ++ ['/'] := by simpa using head.unclosed
  have hends : EndsName (head.body ++ ['/']) := by
    intro c hc
    cases hbody : head.body with
    | nil =>
        obtain rfl : '/' = c := by simpa [hbody] using hc
        decide
    | cons d body =>
        apply head.endsName c
        simpa [hbody] using hc
  have hlast : ((head.body ++ ['/']).getLast? == some '/') = true := by simp
  rw [Head.voidTag, readTag_tagText false head.isName hunclosed hends, hlast]

theorem readTag_closeTag (head : Head) (space : Space) (rest : Text) :
    readTag (head.closeTag space ++ rest)
      = some (⟨head.name, true, false⟩, (head.closeTag space).length) := by
  obtain ⟨hends, hunclosed, hslash⟩ := space_body space
  have hlast : (space.chars.getLast? == some '/') = false := by simpa using hslash
  rw [Head.closeTag, readTag_tagText true head.isName hunclosed hends, hlast]

theorem atTag_tagText (closing : Bool) (name body rest : Text) :
    AtTag (tagText closing name body ++ rest) := by
  intro c hc
  simpa [tagText] using hc.symm

/-- The scan of a forest finds its tags and goes on behind it. What follows has to be a tag or
the end, since the last stretch of the forest may end in a loose `<`. -/
theorem occurrences_text (forest : Forest) (offset : Nat) {rest : Text} (hrest : AtTag rest) :
    occurrences readTag offset (forest.text ++ rest)
      = forest.tokens offset ++ occurrences readTag (offset + forest.text.length) rest := by
  induction forest generalizing offset rest with
  | leaf run =>
      rw [text, tokens, List.nil_append, occurrences_readTag_run offset run.tagFree hrest]
  | void run head more ih =>
      have hat : AtTag (head.voidTag ++ (more.text ++ rest)) := atTag_tagText _ _ _ _
      have hne : head.voidTag ≠ [] := tagText_ne_nil _ _ _
      simp only [text, tokens, List.append_assoc, List.cons_append]
      rw [occurrences_readTag_run offset run.tagFree hat,
        occurrences_hit _ _ hne (readTag_voidTag head _), ih _ hrest]
      simp only [List.length_append, Nat.add_assoc]
  | node run head opens space inner more ihInner ihMore =>
      have hatOpen : AtTag (head.openTag ++ (inner.text ++ (head.closeTag space
          ++ (more.text ++ rest)))) := atTag_tagText _ _ _ _
      have hatClose : AtTag (head.closeTag space ++ (more.text ++ rest)) :=
        atTag_tagText _ _ _ _
      have hneOpen : head.openTag ≠ [] := tagText_ne_nil _ _ _
      have hneClose : head.closeTag space ≠ [] := tagText_ne_nil _ _ _
      simp only [text, tokens, List.append_assoc, List.cons_append]
      rw [occurrences_readTag_run offset run.tagFree hatOpen,
        occurrences_hit _ _ hneOpen (readTag_openTag head opens _), ihInner _ hatClose,
        occurrences_hit _ _ hneClose (readTag_closeTag head space _), ihMore _ hrest]
      simp only [List.length_append, Nat.add_assoc]

theorem occurrences_eq_tokens (forest : Forest) (offset : Nat) :
    occurrences readTag offset forest.text = forest.tokens offset := by
  have hend : AtTag [] := by simp [AtTag]
  have h := occurrences_text forest offset hend
  simpa using h

/-! ## What is left of a cut forest

Every tag ends behind the offset where the forest begins, and every element is closed before
the offset where it ends. -/

theorem filter_tokens_eq_nil (forest : Forest) {offset k : Nat} (hk : k ≤ offset) :
    (forest.tokens offset).filter (fun token => token.stop ≤ k) = [] := by
  rw [← occurrences_eq_tokens]
  exact filter_occurrences_eq_nil forest.text hk

theorem mem_extents_bounds (forest : Forest) {offset : Nat} {extent : Extent}
    (h : extent ∈ forest.extents offset) :
    offset < extent.opened ∧ extent.closed ≤ offset + forest.text.length := by
  induction forest generalizing offset with
  | leaf run => simp [extents] at h
  | void run head rest ih =>
      have hrest := ih h
      simp only [text, List.length_append]
      omega
  | node run head opens space inner rest ihInner ihRest =>
      have hpos : 0 < head.openTag.length := List.length_pos_of_ne_nil (tagText_ne_nil _ _ _)
      simp only [extents, List.mem_cons, List.mem_append] at h
      simp only [text, List.length_append]
      rcases h with rfl | h | h
      · simp only
        omega
      · have hinner := ihInner h
        omega
      · have hrest := ihRest h
        omega

theorem openFrames_of_le (forest : Forest) {offset k : Nat} (hk : k ≤ offset) :
    forest.openFrames offset k = [] := by
  rw [openFrames, List.map_eq_nil_iff, List.filter_eq_nil_iff]
  intro extent hmem
  have hbounds := mem_extents_bounds forest hmem
  simp only [Extent.isOpenAt, Bool.and_eq_true, decide_eq_true_eq]
  omega

theorem openFrames_of_ge (forest : Forest) {offset k : Nat} (hk : offset + forest.text.length ≤ k) :
    forest.openFrames offset k = [] := by
  rw [openFrames, List.map_eq_nil_iff, List.filter_eq_nil_iff]
  intro extent hmem
  have hbounds := mem_extents_bounds forest hmem
  simp only [Extent.isOpenAt, Bool.and_eq_true, decide_eq_true_eq]
  omega

/-- In an element with content, the element itself comes first when it is open, then what is
open inside it, then what is open behind it. -/
theorem openFrames_node (run : Run) (head : Head) (opens : head.body.getLast? ≠ some '/')
    (space : Space) (inner rest : Forest) (offset k : Nat) :
    openFrames (.node run head opens space inner rest) offset k
      = (if Extent.isOpenAt ⟨⟨head.name, offset + run.chars.length⟩,
            offset + run.chars.length + head.openTag.length,
            offset + run.chars.length + head.openTag.length + inner.text.length
              + (head.closeTag space).length⟩ k
          then [⟨head.name, offset + run.chars.length⟩] else [])
        ++ (inner.openFrames (offset + run.chars.length + head.openTag.length) k
          ++ rest.openFrames (offset + run.chars.length + head.openTag.length
              + inner.text.length + (head.closeTag space).length) k) := by
  simp only [openFrames, extents, List.filter_cons, List.filter_append]
  split
  · simp
  · simp

/-! ## The stack machine follows the elements -/

/-- A closing tag right behind the content of its element removes that element: nothing else is
open in between, so the innermost open element of its name is the one to close. -/
theorem step_close_top (state : Nesting) (name : Text) (start first last : Nat) :
    Nesting.step { state with frames := ⟨name, start⟩ :: state.frames }
        ⟨first, last, ⟨name, true, false⟩⟩ = state := by
  simp [Nesting.step]

/-- **The run of the stack machine** over the tags that a cut at `k` leaves: the open elements
are put on top of what was open before, and no closing tag is unmatched. By induction on the
forest; in an element the cut falls before the end of its opening tag, inside the element, or
behind its closing tag. -/
theorem foldl_step_tokens (forest : Forest) (offset k : Nat) (state : Nesting) :
    ((forest.tokens offset).filter (fun token => token.stop ≤ k)).foldl Nesting.step state
      = { state with frames := (forest.openFrames offset k).reverse ++ state.frames } := by
  induction forest generalizing offset state with
  | leaf run => simp [tokens, openFrames, extents]
  | void run head rest ih =>
      rw [tokens]
      by_cases hk : offset + run.chars.length + head.voidTag.length ≤ k
      · rw [List.filter_cons_of_pos (by simpa using hk), List.foldl_cons]
        exact ih _ _
      · have hopen : openFrames (.void run head rest) offset k = [] :=
          openFrames_of_le rest (by omega)
        rw [List.filter_cons_of_neg (by simpa using hk), filter_tokens_eq_nil rest (by omega),
          hopen]
        rfl
  | node run head opens space inner rest ihInner ihRest =>
      rw [openFrames_node, tokens]
      generalize hstart : offset + run.chars.length = start
      generalize hopened : start + head.openTag.length = opened
      generalize hended : opened + inner.text.length = ended
      generalize hclosed : ended + (head.closeTag space).length = closed
      have hopen : Nesting.step state ⟨start, opened, ⟨head.name, false, false⟩⟩
          = { state with frames := ⟨head.name, start⟩ :: state.frames } := rfl
      by_cases hin : opened ≤ k
      · -- the opening tag is complete, so the element is pushed
        rw [List.filter_cons_of_pos (by simpa using hin), List.foldl_cons, hopen,
          List.filter_append, List.foldl_append, ihInner]
        by_cases hout : closed ≤ k
        · -- the cut is behind the element: everything inside it has been closed by then
          rw [if_neg (by simp [Extent.isOpenAt, hout]), inner.openFrames_of_ge (by omega),
            List.filter_cons_of_pos (by simpa using hout), List.foldl_cons, List.reverse_nil,
            List.nil_append, step_close_top, ihRest]
          rfl
        · -- the cut is inside the element, so nothing behind it is seen
          rw [if_pos (by simp [Extent.isOpenAt, hin]; omega), rest.openFrames_of_le (by omega),
            List.filter_cons_of_neg (by simpa using hout), filter_tokens_eq_nil rest (by omega)]
          simp
      · rw [List.filter_cons_of_neg (by simpa using hin), List.filter_append,
          filter_tokens_eq_nil inner (by omega), List.filter_cons_of_neg (by simp; omega),
          filter_tokens_eq_nil rest (by omega), if_neg (by simp [Extent.isOpenAt, hin]),
          inner.openFrames_of_le (by omega), rest.openFrames_of_le (by omega)]
        rfl

/-- **The scan of a cut forest**: at every offset it holds exactly the elements whose opening
tag is complete and whose closing tag is not, innermost first, and it never sets a closing tag
aside. -/
theorem nesting_take (forest : Forest) (k : Nat) :
    nesting (forest.text.take k) = ⟨(forest.openFrames 0 k).reverse, []⟩ := by
  have hrun := foldl_step_tokens forest 0 k Nesting.empty
  rw [← occurrences_eq_tokens] at hrun
  rw [nesting, tokens_take, Markup.tokens, hrun]
  simp [Nesting.empty]

theorem nesting_text (forest : Forest) : nesting forest.text = Nesting.empty := by
  have h := nesting_take forest forest.text.length
  rwa [List.take_length, openFrames_of_ge forest (by omega)] at h

theorem checkNesting_text (forest : Forest) : Diagnosis.checkNesting forest.text = .ok [] := by
  rw [Diagnosis.checkNesting, nesting_text]
  rfl

/-- **The ancestors at every offset**: the scan of the text before an offset gives the elements
open there, outermost first, and sets no closing tag aside; the check of the whole text has
nothing to report. -/
theorem ancestors_take (forest : Forest) (k : Nat) :
    openElements (forest.text.take k)
        = ((forest.extents 0).filter (·.isOpenAt k)).map (·.frame.name)
      ∧ (nesting (forest.text.take k)).unmatched = []
      ∧ Diagnosis.checkNesting forest.text = .ok [] := by
  refine ⟨?_, ?_, forest.checkNesting_text⟩
  · rw [openElements, nesting_take, Nesting.names, Nesting.stack, List.reverse_reverse, openFrames,
      List.map_map]
    rfl
  · rw [nesting_take]

end Forest
end TagLens.Markup
