import TagLens.Markup.Tag
import TagLens.Proofs.Markup.Character
import TagLens.Proofs.Text.Search

/-!
# What the scan for tags sees

`tagText` writes a tag down, and `readTag` reads back exactly what `tagText` writes, whatever
follows (`readTag_tagText`, `exists_of_readTag_eq_some`). Two consequences for whole texts:

* `tokens_take` — cutting a text at an offset loses the tags that end behind the offset and
  changes nothing about the others;
* `occurrences_readTag_run` — a stretch in which no `<` or `</` stands directly before the first
  character of a name is passed over, whatever else it holds.

The checks that ask for less than a whole tag look for a name behind a `<`, one they know
(`mentions_iff_standsWhole`, `mentions_iff`) or any (`exists_suffix_of_mem_openings`).
-/

namespace TagLens.Markup

open Text (occurrences Reader occurrences_nil occurrences_cons_none occurrences_skip occurrences_hit
  occurrences_eq_nil mem_occurrences_bounds)

/-! ## Writing a tag down -/

/-- A `<`, a slash if the tag is a closing one, the name, anything without `>`, and a `>`. -/
def tagText (closing : Bool) (name body : Text) : Text :=
  '<' :: ((if closing then ['/'] else []) ++ name ++ body ++ ['>'])

theorem tagText_ne_nil (closing : Bool) (name body : Text) : tagText closing name body ≠ [] := by
  simp [tagText]

theorem length_tagText (closing : Bool) (name body : Text) :
    (tagText closing name body).length = 1 + closing.toNat + name.length + body.length + 1 := by
  cases closing
  · simp [tagText]
    omega
  · simp [tagText]
    omega

/-- Nothing of a tag but its last character is a `>`. -/
theorem not_mem_take_tagText {closing : Bool} {name body : Text} (hname : IsName name)
    (hbody : '>' ∉ body) {k : Nat} (hk : k < (tagText closing name body).length) :
    '>' ∉ (tagText closing name body).take k := by
  have hnamed : '>' ∉ name := hname.not_mem (by decide)
  have hslash : '>' ∉ (if closing then ['/'] else [] : Text) := by cases closing <;> decide
  have hinit : tagText closing name body
      = ('<' :: ((if closing then ['/'] else []) ++ name ++ body)) ++ ['>'] := by
    simp [tagText]
  rw [hinit, List.length_append, List.length_singleton] at hk
  rw [hinit, List.take_append_of_le_length (by omega)]
  intro hmem
  have hmem := List.mem_of_mem_take hmem
  simp only [List.mem_cons, List.mem_append] at hmem
  rcases hmem with hmem | (hmem | hmem) | hmem
  · exact absurd hmem (by decide)
  · exact hslash hmem
  · exact hnamed hmem
  · exact hbody hmem

theorem IsName.head_ne_slash {name : Text} (h : IsName name) (rest : Text) :
    ∃ c tail, name ++ rest = c :: tail ∧ c ≠ '/' := by
  cases name with
  | nil => exact absurd rfl h.ne_nil
  | cons c tail =>
      refine ⟨c, tail ++ rest, rfl, ?_⟩
      rintro rfl
      exact absurd (isName_cons.mp h).1 (by decide)

theorem dropSlash_of_ne {c : Char} (tail : Text) (h : c ≠ '/') :
    dropSlash (c :: tail) = c :: tail ∧ startsWithSlash (c :: tail) = false := by
  constructor
  · unfold dropSlash
    split
    · next heq => exact absurd (List.cons.inj heq).1 h
    · rfl
  · unfold startsWithSlash
    split
    · next heq => exact absurd (List.cons.inj heq).1 h
    · rfl

/-- **Reading back**: a tag is read as it was written, whatever follows it. -/
theorem readTag_tagText {name body : Text} (closing : Bool) (hname : IsName name)
    (hbody : '>' ∉ body) (hend : EndsName body) (rest : Text) :
    readTag (tagText closing name body ++ rest)
      = some (⟨name, closing, body.getLast? == some '/'⟩,
          (tagText closing name body).length) := by
  have hread : nameAt? (name ++ (body ++ '>' :: rest)) = some name := by
    apply nameAt?_append hname
    intro c hc
    cases body with
    | nil =>
        obtain rfl : '>' = c := by simpa using hc
        decide
    | cons d body => exact hend c (by simpa using hc)
  have htake : (body ++ '>' :: rest).takeWhile (· != '>') = body :=
    Text.takeWhile_ne_append hbody rest
  obtain ⟨c, tail, hsplit, hc⟩ := hname.head_ne_slash (body ++ '>' :: rest)
  obtain ⟨hdrop, hstart⟩ := dropSlash_of_ne tail hc
  rw [← hsplit] at hdrop hstart
  cases closing with
  | false =>
      have htext : tagText false name body ++ rest = '<' :: (name ++ (body ++ '>' :: rest)) := by
        simp [tagText]
      rw [htext, readTag, hdrop, hread, length_tagText]
      simp [htake, hstart]
  | true =>
      have htext : tagText true name body ++ rest
          = '<' :: '/' :: (name ++ (body ++ '>' :: rest)) := by
        simp [tagText]
      rw [htext, readTag, dropSlash, hread, length_tagText]
      simp [htake, startsWithSlash]

theorem slash_append_dropSlash (text : Text) :
    (if startsWithSlash text then ['/'] else []) ++ dropSlash text = text := by
  cases text with
  | nil => rfl
  | cons c tail =>
      by_cases hc : c = '/'
      · subst hc
        rfl
      · obtain ⟨hdrop, hstart⟩ := dropSlash_of_ne tail hc
        simp [hdrop, hstart]

theorem endsName_dropWhile (text : Text) : EndsName (text.dropWhile isNameChar) := by
  intro c hc
  have hhead := List.head?_dropWhile_not isNameChar text
  rw [Option.mem_def] at hc
  rw [hc] at hhead
  simpa using hhead

/-- A name that is read stands at the head of the text, and nothing behind it lengthens it. -/
theorem split_of_nameAt?_eq_some {text name : Text} (h : nameAt? text = some name) :
    text = name ++ text.drop name.length ∧ IsName name ∧ EndsName (text.drop name.length) := by
  obtain ⟨hname, hdrop, hisName⟩ := eq_of_nameAt?_eq_some h
  rw [hdrop]
  refine ⟨?_, hisName, endsName_dropWhile text⟩
  rw [hname, List.takeWhile_append_dropWhile]

/-- **Nothing else is read**: whatever is read as a tag was written as one. -/
theorem exists_of_readTag_eq_some {text : Text} {tag : Tag} {n : Nat}
    (h : readTag text = some (tag, n)) :
    ∃ body rest, text = tagText tag.closing tag.name body ++ rest
      ∧ n = (tagText tag.closing tag.name body).length ∧ IsName tag.name ∧ '>' ∉ body
      ∧ EndsName body ∧ tag.selfClosing = (body.getLast? == some '/') := by
  unfold readTag at h
  split at h
  · next inner =>
      split at h
      · exact absurd h (by simp)
      · next name hread =>
          obtain ⟨hinner, hisName, hafter⟩ := split_of_nameAt?_eq_some hread
          -- what stands behind the name is only looked at as a whole from here on
          generalize (dropSlash inner).drop name.length = afterName at h hafter hinner
          simp only at h
          split at h
          · next hclosed =>
              have hmem : '>' ∈ afterName := by simpa using hclosed
              obtain ⟨body, rest, rfl, hbody⟩ := List.eq_append_cons_of_mem hmem
              rw [Text.takeWhile_ne_append hbody] at h
              obtain ⟨rfl, rfl⟩ := Prod.mk.inj (Option.some.inj h)
              refine ⟨body, rest, ?_, ?_, hisName, hbody, ?_, rfl⟩
              · calc '<' :: inner
                    = '<' :: ((if startsWithSlash inner then ['/'] else []) ++ dropSlash inner) := by
                      rw [slash_append_dropSlash]
                  _ = _ := by
                      rw [hinner]
                      simp [tagText]
              · rw [length_tagText]
              · intro c hc
                apply hafter c
                rw [Option.mem_def] at hc ⊢
                rw [List.head?_append, hc, Option.some_or]
          · exact absurd h (by simp)
  · exact absurd h (by simp)

/-- What is read as a tag depends on the tag's own characters alone, and the only `>` among
them is the last. -/
theorem exists_piece_of_readTag {text : Text} {tag : Tag} {n : Nat}
    (h : readTag text = some (tag, n)) :
    ∃ piece after, text = piece ++ after ∧ n = piece.length
      ∧ (∀ other, readTag (piece ++ other) = some (tag, piece.length))
      ∧ ∀ k < piece.length, '>' ∉ piece.take k := by
  obtain ⟨body, after, htext, hn, hname, hbody, hend, hself⟩ := exists_of_readTag_eq_some h
  refine ⟨_, after, htext, hn, ?_, fun k hk => not_mem_take_tagText hname hbody hk⟩
  intro other
  rw [readTag_tagText tag.closing hname hbody hend other, ← hself]

theorem readTag_fits : Reader.Fits readTag := by
  intro text tag n h
  obtain ⟨body, rest, rfl, rfl, -⟩ := exists_of_readTag_eq_some h
  rw [List.length_append, length_tagText]
  omega

theorem readTag_eq_none_of_not_mem {text : Text} (h : '>' ∉ text) : readTag text = none := by
  cases hread : readTag text with
  | none => rfl
  | some found =>
      obtain ⟨tag, n⟩ := found
      obtain ⟨body, rest, rfl, -⟩ := exists_of_readTag_eq_some hread
      exact absurd (by simp [tagText]) h

theorem occurrences_readTag_eq_nil {text : Text} (h : '>' ∉ text) (offset : Nat) :
    occurrences readTag offset text = [] := by
  apply occurrences_eq_nil
  intro before tail hsplit _
  apply readTag_eq_none_of_not_mem
  intro hmem
  exact h (by rw [hsplit]; exact List.mem_append_right _ hmem)

/-! ## Cutting a text -/

/-- A cut never makes a tag out of what was none. -/
theorem readTag_take_eq_none {text : Text} (h : readTag text = none) (k : Nat) :
    readTag (text.take k) = none := by
  cases hread : readTag (text.take k) with
  | none => rfl
  | some found =>
      obtain ⟨tag, n⟩ := found
      obtain ⟨body, rest, htake, -, hname, hbody, hend, -⟩ := exists_of_readTag_eq_some hread
      have hwhole : text = tagText tag.closing tag.name body ++ (rest ++ text.drop k) := by
        rw [← List.append_assoc, ← htake, List.take_append_drop]
      rw [hwhole, readTag_tagText tag.closing hname hbody hend] at h
      exact absurd h (by simp)

/-- No tag ends before the text begins. -/
theorem filter_occurrences_eq_nil (text : Text) {offset k : Nat} (hk : k ≤ offset) :
    (occurrences readTag offset text).filter (fun token => token.stop ≤ k) = [] := by
  rw [List.filter_eq_nil_iff]
  intro token hmem
  have hbounds := mem_occurrences_bounds readTag_fits hmem
  simp only [decide_eq_true_eq]
  omega

/-- The tags of a cut text are the tags of the text that end before the cut. The induction
follows the search: a cut inside the first tag leaves no `>` at all. -/
theorem occurrences_readTag_take (offset k : Nat) (text : Text) :
    occurrences readTag offset (text.take k)
      = (occurrences readTag offset text).filter (fun token => token.stop ≤ offset + k) := by
  fun_induction occurrences readTag offset text generalizing k with
  | case1 offset => simp
  | case2 offset c rest hread ih =>
      cases k with
      | zero => rw [List.take_zero, occurrences_nil, filter_occurrences_eq_nil rest (by omega)]
      | succ k =>
          have hcut := readTag_take_eq_none hread (k + 1)
          rw [List.take_succ_cons] at hcut ⊢
          rw [occurrences_cons_none offset hcut, ih k]
          congr 1
          funext token
          rw [show offset + 1 + k = offset + (k + 1) by omega]
  | case3 offset c rest tag n hread ih =>
      obtain ⟨piece, after, htext, rfl, hpiece, hinside⟩ := exists_piece_of_readTag hread
      have hne : piece ≠ [] := List.ne_nil_of_length_pos (readTag_fits _ _ _ hread).1
      have hdrop := Text.drop_pred_of_eq_append hne htext
      rw [hdrop] at ih ⊢
      rw [htext]
      by_cases hk : piece.length ≤ k
      · -- the cut is behind the tag
        have hcut : (piece ++ after).take k = piece ++ after.take (k - piece.length) := by
          rw [List.take_append, List.take_of_length_le hk]
        rw [hcut, occurrences_hit offset _ hne (hpiece _), ih,
          List.filter_cons_of_pos (by simp only [decide_eq_true_eq]; omega)]
        rw [show offset + piece.length + (k - piece.length) = offset + k by omega]
      · -- the cut is inside the tag: what is left has no `>`
        have hcut : (piece ++ after).take k = piece.take k :=
          List.take_append_of_le_length (by omega)
        have hnone : occurrences readTag offset (piece.take k) = [] :=
          occurrences_readTag_eq_nil (hinside k (by omega)) offset
        rw [hcut, hnone, List.filter_cons_of_neg (by simp only [decide_eq_true_eq]; omega),
          filter_occurrences_eq_nil after (by omega)]

/-- **Cutting a text** at an offset keeps exactly the tags that end at or before it. -/
theorem tokens_take (text : Text) (k : Nat) :
    tokens (text.take k) = (tokens text).filter (fun token => token.stop ≤ k) := by
  have h := occurrences_readTag_take 0 k text
  rwa [Nat.zero_add] at h

/-! ## Stretches without tags -/

/-- Does the text begin with a `<` or `</` directly before the first character of a name? -/
def beginsTag : Text → Bool
  | '<' :: rest => (dropSlash rest).head?.any isNameStart
  | _ => false

/-- Only where a tag begins can one be read. -/
theorem readTag_eq_none_of_beginsTag {text : Text} (h : beginsTag text = false) :
    readTag text = none := by
  unfold readTag
  split
  · next inner =>
      have hname : nameAt? (dropSlash inner) = none := by
        rw [beginsTag] at h
        cases hinner : dropSlash inner with
        | nil => rfl
        | cons c tail =>
            rw [hinner] at h
            exact nameAt?_eq_none (by simpa using h)
      rw [hname]
  · rfl

/-- Nowhere in the text does a tag begin. -/
def TagFree (text : Text) : Prop := ∀ tail ∈ text.tails, beginsTag tail = false

instance (text : Text) : Decidable (TagFree text) :=
  inferInstanceAs (Decidable (∀ tail ∈ text.tails, beginsTag tail = false))

theorem tagFree_of_not_mem {text : Text} (h : '<' ∉ text) : TagFree text := by
  intro tail htail
  rw [List.mem_tails] at htail
  cases tail with
  | nil => rfl
  | cons c tail =>
      have hc : c ≠ '<' := by
        rintro rfl
        exact h (htail.subset (by simp))
      unfold beginsTag
      split
      · next heq => exact absurd (List.cons.inj heq).1 hc
      · rfl

/-- What follows a text has no part in its slash, unless it begins with one. -/
theorem dropSlash_append {rest : Text} (hrest : '/' ∉ rest.head?) (inner : Text) :
    dropSlash (inner ++ rest) = dropSlash inner ++ rest := by
  cases inner with
  | nil =>
      cases rest with
      | nil => rfl
      | cons d rest =>
          apply (dropSlash_of_ne rest _).1
          rintro rfl
          exact hrest (by simp)
  | cons c inner =>
      by_cases hc : c = '/'
      · subst hc
        rfl
      · rw [List.cons_append, (dropSlash_of_ne _ hc).1, (dropSlash_of_ne _ hc).1]
        rfl

/-- The end of the text, or the `<` of a tag. -/
def AtTag (rest : Text) : Prop := ∀ c ∈ rest.head?, c = '<'

/-- A tag that follows does not turn the end of a stretch into the beginning of a tag. -/
theorem beginsTag_append {tail rest : Text} (hne : tail ≠ []) (h : beginsTag tail = false)
    (hrest : AtTag rest) : beginsTag (tail ++ rest) = false := by
  obtain ⟨c, inner, rfl⟩ := List.exists_cons_of_ne_nil hne
  by_cases hc : c = '<'
  · subst hc
    have hslash : '/' ∉ rest.head? := fun hmem => absurd (hrest '/' hmem) (by decide)
    rw [List.cons_append, beginsTag, dropSlash_append hslash]
    rw [beginsTag] at h
    cases hinner : dropSlash inner with
    | cons d more =>
        rw [hinner] at h
        simpa using h
    | nil =>
        -- the stretch ends in a loose `<` or `</`, and the next tag begins with no name
        cases rest with
        | nil => rfl
        | cons d rest =>
            obtain rfl : d = '<' := hrest d (by simp)
            rfl
  · unfold beginsTag
    split
    · next heq => exact absurd (List.cons.inj heq).1 hc
    · rfl

/-- A stretch without tags is passed over when the text ends behind it or goes on with a tag. -/
theorem occurrences_readTag_run {run rest : Text} (offset : Nat) (hrun : TagFree run)
    (hrest : AtTag rest) :
    occurrences readTag offset (run ++ rest)
      = occurrences readTag (offset + run.length) rest := by
  apply occurrences_skip
  intro before tail hsplit hne
  have hfree : beginsTag tail = false :=
    hrun tail ((List.mem_tails tail run).mpr ⟨before, hsplit.symm⟩)
  exact readTag_eq_none_of_beginsTag (beginsTag_append hne hfree hrest)

/-! ## Names behind a `<` -/

/-- A name is read exactly where it stands and is not continued. -/
theorem nameAt?_eq_some_iff {name text : Text} (hname : IsName name) :
    nameAt? text = some name ↔ name <+: text ∧ EndsName (text.drop name.length) := by
  constructor
  · intro h
    obtain ⟨hsplit, -, hends⟩ := split_of_nameAt?_eq_some h
    exact ⟨⟨_, hsplit.symm⟩, hends⟩
  · rintro ⟨⟨rest, rfl⟩, hrest⟩
    rw [List.drop_left] at hrest
    exact nameAt?_append hname hrest

theorem mentions_cons {name rest : Text} {c : Char} :
    mentions name (c :: rest) = true
      ↔ (c = '<' ∧ name <+: rest ∧ EndsName (rest.drop name.length))
        ∨ mentions name rest = true := by
  rw [mentions]
  cases hdrop : rest.drop name.length with
  | nil => simp [EndsName]
  | cons next more => simp [EndsName, and_assoc]

/-- Behind some `<` of the text the name stands, and nothing behind it lengthens it. -/
def StandsWhole (name text : Text) : Prop :=
  ∃ before after, text = before ++ '<' :: (name ++ after) ∧ EndsName after

/-- The search for a name reads no names: it compares characters, whatever they are, and looks at
the one behind them. -/
theorem mentions_iff_standsWhole {name text : Text} :
    mentions name text = true ↔ StandsWhole name text := by
  induction text with
  | nil => simp [mentions, StandsWhole]
  | cons c rest ih =>
      rw [mentions_cons, ih]
      constructor
      · rintro (⟨rfl, ⟨after, rfl⟩, hends⟩ | ⟨before, after, rfl, hends⟩)
        · rw [List.drop_left] at hends
          exact ⟨[], after, rfl, hends⟩
        · exact ⟨c :: before, after, rfl, hends⟩
      · rintro ⟨before, after, htext, hends⟩
        cases before with
        | nil =>
            obtain ⟨rfl, rfl⟩ := List.cons.inj htext
            refine .inl ⟨rfl, List.prefix_append name after, ?_⟩
            rwa [List.drop_left]
        | cons d before =>
            obtain ⟨-, rfl⟩ := List.cons.inj htext
            exact .inr ⟨before, after, rfl, hends⟩

/-- **Mentioned names**: a name is mentioned exactly when it is the whole name behind some `<`. -/
theorem mentions_iff {name text : Text} (hname : IsName name) :
    mentions name text = true ↔ ∃ tail, '<' :: tail <:+ text ∧ nameAt? tail = some name := by
  rw [mentions_iff_standsWhole]
  constructor
  · rintro ⟨before, after, rfl, hends⟩
    exact ⟨name ++ after, List.suffix_append before _, nameAt?_append hname hends⟩
  · rintro ⟨tail, ⟨before, rfl⟩, hread⟩
    obtain ⟨hsplit, -, hends⟩ := split_of_nameAt?_eq_some hread
    exact ⟨before, tail.drop name.length, by rw [← hsplit], hends⟩

/-- An opening is read exactly at a `<` with a name behind it. -/
theorem readOpening_eq_some_iff {text name : Text} {n : Nat} :
    readOpening text = some (name, n)
      ↔ ∃ tail, text = '<' :: tail ∧ nameAt? tail = some name ∧ n = 1 + name.length := by
  constructor
  · intro h
    unfold readOpening at h
    split at h
    · next tail =>
        obtain ⟨other, hname, heq⟩ := Option.map_eq_some_iff.mp h
        obtain ⟨rfl, rfl⟩ := Prod.mk.inj heq
        exact ⟨tail, rfl, hname, rfl⟩
    · exact absurd h (by simp)
  · rintro ⟨tail, rfl, hname, rfl⟩
    rw [readOpening, hname, Option.map_some]

theorem readOpening_fits : Reader.Fits readOpening := by
  intro text name n h
  obtain ⟨tail, rfl, hname, rfl⟩ := readOpening_eq_some_iff.mp h
  have hle : name.length ≤ tail.length := by
    rw [(eq_of_nameAt?_eq_some hname).1]
    exact (List.takeWhile_sublist _).length_le
  rw [List.length_cons]
  omega

theorem readOpening_cons_of_ne {c : Char} (hc : c ≠ '<') (rest : Text) :
    readOpening (c :: rest) = none := by
  unfold readOpening
  split
  · next heq => exact absurd (List.cons.inj heq).1 hc
  · rfl

theorem occurrences_readOpening_eq_nil {text : Text} (h : '<' ∉ text) (offset : Nat) :
    occurrences readOpening offset text = [] := by
  apply Text.occurrences_eq_nil
  intro before tail htext hne
  obtain ⟨c, tail, rfl⟩ := List.exists_cons_of_ne_nil hne
  apply readOpening_cons_of_ne
  rintro rfl
  exact h (by simp [htext])

/-- A `<` without a name behind it opens nothing. -/
theorem occurrences_readOpening_cons {inner : Text} (hname : nameAt? inner = none)
    (hlt : '<' ∉ inner) (offset : Nat) : occurrences readOpening offset ('<' :: inner) = [] := by
  have hread : readOpening ('<' :: inner) = none := by
    rw [readOpening, hname, Option.map_none]
  rw [Text.occurrences_cons_none offset hread, occurrences_readOpening_eq_nil hlt]

/-- Behind a character that ends every name the text does not matter. -/
theorem nameAt?_append_of_neg {c : Char} (hc : isNameChar c = false) (text rest : Text) :
    nameAt? (text ++ c :: rest) = nameAt? text := by
  cases text with
  | nil => exact nameAt?_eq_none (isNameStart_of_isNameChar_eq_false hc)
  | cons d text => rw [List.cons_append, nameAt?, nameAt?, Text.takeWhile_append_of_neg hc]

theorem readOpening_append_of_neg {c : Char} (hc : isNameChar c = false) {text : Text}
    (hne : text ≠ []) (rest : Text) : readOpening (text ++ c :: rest) = readOpening text := by
  obtain ⟨d, text, rfl⟩ := List.exists_cons_of_ne_nil hne
  by_cases hd : d = '<'
  · subst hd
    rw [List.cons_append, readOpening, readOpening, nameAt?_append_of_neg hc]
  · rw [List.cons_append, readOpening_cons_of_ne hd, readOpening_cons_of_ne hd]

/-- Every opening found is a name behind some `<`. -/
theorem exists_suffix_of_mem_openings {text : Text} {found : Text.Occurrence Text}
    (h : found ∈ openings text) :
    ∃ tail, '<' :: tail <:+ text ∧ nameAt? tail = some found.value := by
  obtain ⟨before, whole, n, htext, hread, -, -⟩ :=
    Text.exists_split_of_mem_occurrences readOpening_fits h
  obtain ⟨tail, rfl, hname, -⟩ := readOpening_eq_some_iff.mp hread
  exact ⟨tail, ⟨before, htext.symm⟩, hname⟩

end TagLens.Markup
