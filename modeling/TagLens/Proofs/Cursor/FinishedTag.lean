import TagLens.Proofs.Cursor.LastTag
import TagLens.Proofs.Markup.NearestMatch
import TagLens.Proofs.Markup.Tokenization

/-!
# Finishing the tag that is being typed

While a tag is being typed, the cursor's surroundings name its element, which is looked for behind
the last `<` of the text. Once the `>` is typed, the scan reads the tag, which it looks for from the
beginning of the text. Behind a text that ends outside of tags the two agree: the tag that is read
is the one that was announced (`occurrences_finished`), and nothing else happens to the open
elements than what this one tag does (`nesting_finished`).
-/

namespace TagLens.Cursor

open Markup (Frame Nesting Settled Tag Token nameAt? dropSlash startsWithSlash readTag nesting)
open Text (occurrences)

/-- A text, a `<` and the inside of a tag, and the `>` that finishes the tag. -/
def finished (before inner : Text) : Text := before ++ '<' :: (inner ++ ['>'])

/-- The tag that a `<`, the text `inner` and a `>` make when `name` is the name in it. -/
def finishedTag (inner name : Text) : Tag :=
  ⟨name, startsWithSlash inner, inner.getLast? == some '/'⟩

/-! ## The tag that is read -/

section

variable {inner name : Text}

/-- Read at its `<`, the tag takes the text up to its `>`. -/
theorem readTag_finished (hgt : '>' ∉ inner) (h : nameAt? (dropSlash inner) = some name) :
    readTag ('<' :: (inner ++ ['>'])) = some (finishedTag inner name, inner.length + 2) := by
  have hinside : Markup.Inside inner (finishedTag inner name) :=
    { not_mem := hgt
      closing := Markup.startsWithSlash_iff
      name := Markup.nameAt?_eq_some_iff_longest.mp h
      selfClosing := beq_iff_eq }
  exact Markup.readTag_eq_some_iff.mpr ⟨inner, [], rfl, hinside, rfl⟩

/-- Without a name no tag is read at the `<`. -/
theorem readTag_nameless (h : nameAt? (dropSlash inner) = none) :
    readTag ('<' :: (inner ++ ['>'])) = none := by
  have hname : nameAt? (dropSlash (inner ++ ['>'])) = none := by
    rw [Markup.dropSlash_append (by simp), Markup.nameAt?_append_of_neg (by decide), h]
  rw [readTag, hname]

/-- **One tag is read** where a tag is finished, if there is a name in it, and none otherwise. -/
theorem occurrences_finished (hlt : '<' ∉ inner) (hgt : '>' ∉ inner) (offset : Nat) :
    occurrences readTag offset ('<' :: (inner ++ ['>']))
      = (nameAt? (dropSlash inner)).toList.map fun name =>
          ⟨offset, offset + (inner.length + 2), finishedTag inner name⟩ := by
  cases hname : nameAt? (dropSlash inner) with
  | some name =>
      have hread := readTag_finished hgt hname
      have hlength : ('<' :: (inner ++ ['>'])).length = inner.length + 2 := by simp
      rw [Text.occurrences_some offset hread (by simp) (by omega), ← hlength, List.drop_length]
      simp
  | none =>
      have hrest : ∀ c ∈ inner ++ ['>'], ∀ tail, readTag (c :: tail) = none := by
        intro c hc tail
        apply Markup.readTag_cons_of_ne
        rintro rfl
        exact hlt (by simpa using hc)
      have hskip := Text.occurrences_skip_of_forall (offset + 1) [] hrest
      rw [List.append_nil] at hskip
      rw [Text.occurrences_cons_none offset (readTag_nameless hname), hskip]
      simp

end

/-! ## What becomes of the open elements -/

section

variable {before inner name : Text}

/-- The open elements behind the finished tag are those before it, after one step. -/
theorem nesting_finished (hbefore : Settled before) (hlt : '<' ∉ inner) (hgt : '>' ∉ inner)
    (h : nameAt? (dropSlash inner) = some name) :
    nesting (finished before inner)
      = (nesting before).step
          ⟨before.length, before.length + (inner.length + 2), finishedTag inner name⟩ := by
  rw [finished, Markup.nesting_append hbefore, occurrences_finished hlt hgt, h]
  rfl

theorem nesting_finished_nameless (hbefore : Settled before) (hlt : '<' ∉ inner)
    (hgt : '>' ∉ inner) (h : nameAt? (dropSlash inner) = none) :
    nesting (finished before inner) = nesting before := by
  rw [finished, Markup.nesting_append hbefore, occurrences_finished hlt hgt, h]
  rfl

/-- A text that begins with a name begins with no slash. -/
theorem dropSlash_of_nameAt? (h : nameAt? inner = some name) :
    dropSlash inner = inner ∧ startsWithSlash inner = false := by
  cases inner with
  | nil => exact absurd h (by simp [nameAt?])
  | cons c rest =>
      apply Markup.dropSlash_of_ne
      rintro rfl
      rw [Markup.nameAt?_eq_none (by decide)] at h
      exact absurd h (by simp)

/-- An opening tag adds its element, unless it is a self-closing one. -/
theorem nesting_finished_opening (hbefore : Settled before) (hlt : '<' ∉ inner) (hgt : '>' ∉ inner)
    (h : nameAt? inner = some name) :
    (nesting (finished before inner)).stack
        = (nesting before).stack
          ++ (if inner.getLast? = some '/' then [] else [⟨name, before.length⟩])
      ∧ (nesting (finished before inner)).unmatched = (nesting before).unmatched := by
  obtain ⟨hdrop, hslash⟩ := dropSlash_of_nameAt? h
  have hname : nameAt? (dropSlash inner) = some name := by rw [hdrop, h]
  rw [nesting_finished hbefore hlt hgt hname]
  by_cases hlast : inner.getLast? = some '/'
  · rw [if_pos hlast, Nesting.step_of_neither]
    · exact ⟨(List.append_nil _).symm, rfl⟩
    · simp [Tag.isOpener, finishedTag, hlast]
    · exact hslash
  · rw [if_neg hlast, Nesting.step_of_isOpener]
    · refine ⟨?_, rfl⟩
      simp [Nesting.stack, Markup.frameOf, finishedTag]
    · simp [Tag.isOpener, finishedTag, hslash, hlast]

/-- The element that the surroundings announce is the one whose name stands behind the `<`. -/
theorem tag_context (hlt : '<' ∉ inner) (hgt : '>' ∉ inner)
    (hkind : (context (before ++ '<' :: inner)).kind ≠ .none) :
    (context (before ++ '<' :: inner)).tag = nameAt? inner := by
  have htag := unterminatedTag?_append before (isInsideTag_of_not_mem hlt hgt)
  have hclassify : classify (before ++ '<' :: inner) ≠ .none := hkind
  simp [context, hclassify, htag, tagElement?]

end

/-- **Finishing a tag does what was announced.** Let the text before end outside of tags, and let a
`<` and the text `inner` follow, which holds neither end of a tag. Behind the `>` that finishes the
tag there is nothing to be typed. If `inner` begins with a name, this is the name that was
announced; its element is then open inside all others, at the place of the `<`, unless `inner` ends
in a slash. If `inner` begins with a slash and a name, the innermost open element of the name is
closed or, where there is none, the tag is set aside. In every other case nothing happens. -/
theorem nesting_finished_cases (before inner : Text) (hbefore : unterminatedTag? before = none)
    (hlt : '<' ∉ inner) (hgt : '>' ∉ inner) :
    classify (finished before inner) = .none
      ∧ (∀ name, nameAt? inner = some name →
        ((context (before ++ '<' :: inner)).kind ≠ .none →
            (context (before ++ '<' :: inner)).tag = some name)
          ∧ (nesting (finished before inner)).stack
            = (nesting before).stack
              ++ (if inner.getLast? = some '/' then [] else [⟨name, before.length⟩])
          ∧ (nesting (finished before inner)).unmatched = (nesting before).unmatched)
      ∧ (∀ rest name, inner = '/' :: rest → nameAt? rest = some name →
        (∃ outer frame behind, (nesting before).stack = outer ++ frame :: behind
            ∧ frame.name = name ∧ (∀ other ∈ behind, other.name ≠ name)
            ∧ (nesting (finished before inner)).stack = outer ++ behind
            ∧ (nesting (finished before inner)).unmatched = (nesting before).unmatched)
          ∨ ((∀ frame ∈ (nesting before).stack, frame.name ≠ name)
            ∧ (nesting (finished before inner)).stack = (nesting before).stack
            ∧ (nesting (finished before inner)).unmatched
              = (nesting before).unmatched ++ [⟨before.length, before.length + (inner.length + 2),
                  ⟨name, true, inner.getLast? == some '/'⟩⟩]))
      ∧ (nameAt? inner = none → (∀ rest, inner = '/' :: rest → nameAt? rest = none) →
        nesting (finished before inner) = nesting before) := by
  have hsettled := Settled.of_unterminatedTag? hbefore
  refine ⟨?_, ?_, ?_, ?_⟩
  · apply classify_settled
    have hgtEnd := unterminatedTag?_append_gt (before ++ '<' :: inner)
    rwa [List.append_assoc] at hgtEnd
  · intro name hname
    refine ⟨?_, nesting_finished_opening hsettled hlt hgt hname⟩
    intro hkind
    rw [tag_context hlt hgt hkind, hname]
  · rintro rest name rfl hname
    let token : Token := ⟨before.length, before.length + (('/' :: rest).length + 2),
      finishedTag ('/' :: rest) name⟩
    have hclosing : token.value.closing = true := rfl
    rw [nesting_finished hsettled hlt hgt hname]
    exact (nesting before).step_closing_cases hclosing
  · intro hopening hclosing
    have hnone : nameAt? (dropSlash inner) = none := by
      unfold dropSlash
      split
      · next rest => exact hclosing rest rfl
      · exact hopening
    exact nesting_finished_nameless hsettled hlt hgt hnone

/-- Text with a `>` of its own, an open element twice inside itself, and a comment. -/
def settledText : Text := "a > b <p><q><p class='x'><!-- -->".toList

/-- Behind it an element is opened, the middle one of three elements is closed, a closing tag is set
aside although it is written like a self-closing one, and something is no tag at all. -/
theorem nesting_finished_cases_settledText :
    unterminatedTag? settledText = none
      ∧ (nesting settledText).stack = [⟨['p'], 6⟩, ⟨['q'], 9⟩, ⟨['p'], 12⟩]
      ∧ (context (settledText ++ '<' :: "r s='1' ".toList)).tag = some ['r']
      ∧ (nesting (finished settledText "r s='1' ".toList)).stack
        = [⟨['p'], 6⟩, ⟨['q'], 9⟩, ⟨['p'], 12⟩, ⟨['r'], 33⟩]
      ∧ (∃ outer frame behind, (nesting settledText).stack = outer ++ frame :: behind
          ∧ frame.name = ['q'] ∧ (∀ other ∈ behind, other.name ≠ ['q'])
          ∧ (nesting (finished settledText "/q".toList)).stack = outer ++ behind)
      ∧ (nesting (finished settledText "/r /".toList)).unmatched
        = [⟨33, 39, ⟨['r'], true, true⟩⟩]
      ∧ nesting (finished settledText "/ q".toList) = nesting settledText := by
  have hsettled : unterminatedTag? settledText = none := by decide
  have hstack : (nesting settledText).stack = [⟨['p'], 6⟩, ⟨['q'], 9⟩, ⟨['p'], 12⟩] := by
    decide +kernel
  have hunmatched : (nesting settledText).unmatched = [] := by decide +kernel
  obtain ⟨-, hopening, -, -⟩ :=
    nesting_finished_cases settledText "r s='1' ".toList hsettled (by decide) (by decide)
  obtain ⟨hannounced, hopened, -⟩ := hopening ['r'] rfl
  obtain ⟨-, -, hclosing, -⟩ :=
    nesting_finished_cases settledText "/q".toList hsettled (by decide) (by decide)
  obtain ⟨-, -, hunopened, -⟩ :=
    nesting_finished_cases settledText "/r /".toList hsettled (by decide) (by decide)
  obtain ⟨-, -, -, hneither⟩ :=
    nesting_finished_cases settledText "/ q".toList hsettled (by decide) (by decide)
  refine ⟨hsettled, hstack, hannounced (by decide +kernel), ?_, ?_, ?_, ?_⟩
  · rw [hopened, hstack]
    rfl
  · rcases hclosing ['q'] ['q'] rfl rfl with
      ⟨outer, frame, behind, hsplit, hname, hothers, hleft, -⟩
      | ⟨hnone, -⟩
    · exact ⟨outer, frame, behind, hsplit, hname, hothers, hleft⟩
    · rw [hstack] at hnone
      exact absurd rfl (hnone ⟨['q'], 9⟩ (by simp))
  · rcases hunopened "r /".toList ['r'] rfl rfl with ⟨outer, frame, behind, hsplit, hname, -⟩
      | ⟨-, -, hset⟩
    · have hnot : ∀ other ∈ (nesting settledText).stack, other.name ≠ ['r'] := by
        rw [hstack]
        decide
      exact absurd hname (hnot frame (by simp [hsplit]))
    · rw [hset, hunmatched]
      rfl
  · apply hneither rfl
    rintro rest heq
    obtain rfl := (List.cons.inj heq).2
    rfl

end TagLens.Cursor
