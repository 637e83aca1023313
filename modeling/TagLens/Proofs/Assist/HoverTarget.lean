import TagLens.Proofs.Assist.AttributeSite
import TagLens.Proofs.Diagnosis.Imbalance
import TagLens.Proofs.Markup.Resume

/-!
# Names under the cursor on well-formed lines

A well-formed line is a row of character data, closing tags and opening tags, the latter with
attributes whose values hold no end of a tag (`LinePart`). On such a line the cursor touches exactly
the names that stand in it: those of its tags (`elementAt?_lineText`) and those of the attributes of
its opening tags (`attributeAt?_lineText`), at their places.

For the attributes the induction runs along the row. What it keeps is that the part of the line that
has been passed ends outside of tags: the tags in it are finished, and none of their attributes is
touched from behind (`attributeAt?_settled`).
-/

namespace TagLens.Assist

open Cursor (unterminatedTag?)
open Diagnosis (listSchema)
open Document (Range)
open Markup (IsName EndsName CharData Settled Space noSpace oneSpace SpacedAttribute nameAt?
  dropSlash startsWithSlash namesFrom readOpening isNameChar)
open Text (Occurrence Reader occurrences)

/-! ## Well-formed lines -/

/-- An opening tag; a void one ends in `/>`. -/
structure LineTag where
  name : Text
  attributes : List SpacedAttribute
  space : Space
  void : Bool
  isName : IsName name
  unmarked : ∀ attr ∈ attributes, '<' ∉ attr.value ∧ '>' ∉ attr.value

namespace LineTag

/-- What stands between the attributes and the `>`. -/
def ending (tag : LineTag) : Text := tag.space.chars ++ (if tag.void then ['/'] else [])

/-- What stands between the name and the `>`. -/
def inside (tag : LineTag) : Text := tag.attributes.flatMap SpacedAttribute.text ++ tag.ending

def text (tag : LineTag) : Text := '<' :: (tag.name ++ (tag.inside ++ ['>']))

end LineTag

/-- A part of a well-formed line. -/
inductive LinePart where
  | data (run : CharData)
  /-- `</name>` -/
  | closing (name : Text) (isName : IsName name)
  | opening (tag : LineTag)

namespace LinePart

def text : LinePart → Text
  | .data run => run.chars
  | .closing name _ => '<' :: '/' :: (name ++ ['>'])
  | .opening tag => tag.text

/-- The name of the tag that the part is, if it is one, when the part begins at `offset`. -/
def elements (part : LinePart) (offset : Nat) : List (Occurrence Text) :=
  match part with
  | .data _ => []
  | .closing name _ => [⟨offset + 2, offset + 2 + name.length, name⟩]
  | .opening tag => [⟨offset + 1, offset + 1 + tag.name.length, tag.name⟩]

/-- The names of the attributes in the part. -/
def sites (part : LinePart) (offset : Nat) : List AttributeSite :=
  match part with
  | .data _ | .closing _ _ => []
  | .opening tag =>
    (namesFrom (offset + (1 + tag.name.length)) tag.attributes).map fun found =>
      ⟨tag.name, found.value, found.start, found.stop⟩

end LinePart

def lineText (row : List LinePart) : Text := row.flatMap LinePart.text

/-- What the parts of a row hold, each at its place, when the row begins at `offset`. -/
def placedIn {α : Type} (inPart : LinePart → Nat → List α) (offset : Nat) :
    List LinePart → List α
  | [] => []
  | part :: row => inPart part offset ++ placedIn inPart (offset + part.text.length) row

/-! ### What stands inside a tag -/

namespace LineTag

variable (tag : LineTag)

theorem mem_ending {c : Char} (h : c ∈ tag.ending) : isNameChar c = false ∧ c ≠ '='
    ∧ c ≠ '<' ∧ c ≠ '>' := by
  rw [ending, List.mem_append] at h
  rcases h with h | h
  · have hblank := tag.space.blank c h
    refine ⟨Markup.isNameChar_of_isBlank hblank, ?_, ?_, ?_⟩ <;> rintro rfl <;>
      exact absurd hblank (by decide)
  · obtain rfl : c = '/' := by
      cases hvoid : tag.void <;> simp_all
    decide

/-- Between the name of a tag and its `>` stands neither end of a tag. -/
theorem mem_inside {c : Char} (h : c ∈ tag.inside) : c ≠ '<' ∧ c ≠ '>' := by
  rw [inside, List.mem_append, List.mem_flatMap] at h
  rcases h with ⟨attr, hattr, h⟩ | h
  · apply SpacedAttribute.ne_of_mem_text _ h
    obtain ⟨hlt, hgt⟩ := tag.unmarked attr hattr
    intro d hd
    constructor <;> rintro rfl <;> contradiction
  · exact (tag.mem_ending h).2.2

/-- Behind the name of a tag no other tag begins. -/
theorem lt_not_mem_rest : '<' ∉ tag.inside ++ ['>'] := by
  intro hmem
  rcases List.mem_append.mp hmem with hmem | hmem
  · exact (tag.mem_inside hmem).1 rfl
  · exact absurd hmem (by decide)

/-- Blank space, a slash or a `>` ends the name of a tag. -/
theorem endsName_inside (rest : Text) : EndsName (tag.inside ++ '>' :: rest) := by
  intro c hc
  rw [inside, List.append_assoc] at hc
  cases hattrs : tag.attributes with
  | cons attr more =>
      rw [hattrs, List.flatMap_cons, SpacedAttribute.text, List.append_assoc,
        List.append_assoc] at hc
      exact attr.endsName_lead _ c hc
  | nil =>
      rw [hattrs, List.flatMap_nil, List.nil_append] at hc
      cases hending : tag.ending with
      | nil =>
          rw [hending] at hc
          obtain rfl : '>' = c := by simpa using hc
          decide
      | cons d more =>
          rw [hending] at hc
          obtain rfl : d = c := by simpa using hc
          exact (tag.mem_ending (by simp [hending])).1

theorem length_text : tag.text.length = 1 + tag.name.length + tag.inside.length + 1 := by
  simp only [text, List.length_cons, List.length_append, List.length_nil]
  omega

end LineTag

/-! ## Names of elements -/

/-- The name in what was read of a tag. -/
def elementName (found : Occurrence (Text × Nat)) : Occurrence Text :=
  ⟨found.start + found.value.2, found.stop, found.value.1⟩

theorem readElementName_cons {c : Char} (hc : c ≠ '<') (rest : Text) :
    readElementName (c :: rest) = none := by
  unfold readElementName
  split
  · next heq => exact absurd (List.cons.inj heq).1 hc
  · rfl

theorem exists_of_readElementName {text name : Text} {before n : Nat}
    (h : readElementName text = some ((name, before), n)) :
    ∃ tail, text = '<' :: tail ∧ nameAt? (dropSlash tail) = some name
      ∧ before = 1 + (startsWithSlash tail).toNat ∧ n = before + name.length := by
  unfold readElementName at h
  split at h
  · next tail =>
      obtain ⟨found, hname, heq⟩ := Option.map_eq_some_iff.mp h
      obtain ⟨hvalue, rfl⟩ := Prod.mk.inj heq
      obtain ⟨rfl, rfl⟩ := Prod.mk.inj hvalue
      exact ⟨tail, rfl, hname, rfl, rfl⟩
  · exact absurd h (by simp)

theorem readElementName_fits : Reader.Fits readElementName := by
  rintro text ⟨name, before⟩ n h
  obtain ⟨tail, rfl, hname, rfl, rfl⟩ := exists_of_readElementName h
  have hsplit := congrArg List.length (Markup.split_of_nameAt?_eq_some hname).1
  have hslash := congrArg List.length (Markup.slash_append_dropSlash tail)
  rw [List.length_append] at hsplit hslash
  rw [List.length_cons]
  cases hstarts : startsWithSlash tail with
  | false =>
      simp only [hstarts, Bool.toNat_false] at hslash ⊢
      simp only [Bool.false_eq_true, if_false, List.length_nil] at hslash
      omega
  | true =>
      simp only [hstarts, if_true, List.length_singleton] at hslash
      simp only [Bool.toNat_true]
      omega

/-- The names of elements keep apart: a `<` stands before each of them. -/
theorem elementNames_pairwise (line : Text) :
    ((occurrences readElementName 0 line).map elementName).Pairwise
      fun first second => first.stop < second.start := by
  rw [List.pairwise_map]
  apply (Text.occurrences_pairwise readElementName_fits 0 line).imp_of_mem
  rintro first ⟨start, stop, name, before⟩ - hsecond hle
  obtain ⟨-, tail, n, -, hread, -, -⟩ :=
    Text.exists_split_of_mem_occurrences readElementName_fits hsecond
  obtain ⟨rest, -, -, hbefore, -⟩ := exists_of_readElementName hread
  simp only [elementName] at hle ⊢
  omega

/-- The name of an opening tag is read as a whole. -/
theorem readElementName_opening {name rest : Text} (h : IsName name) (hrest : EndsName rest) :
    readElementName ('<' :: (name ++ rest)) = some ((name, 1), 1 + name.length) := by
  obtain ⟨c, tail, hsplit, hc⟩ := h.head_ne_slash rest
  obtain ⟨hdrop, hstart⟩ := Markup.dropSlash_of_ne tail hc
  rw [← hsplit] at hdrop hstart
  rw [readElementName, hdrop, hstart, Markup.nameAt?_append h hrest]
  rfl

theorem readElementName_closing {name rest : Text} (h : IsName name) (hrest : EndsName rest) :
    readElementName ('<' :: '/' :: (name ++ rest)) = some ((name, 2), 2 + name.length) := by
  rw [readElementName, dropSlash, Markup.nameAt?_append h hrest]
  rfl

theorem endsName_gt (rest : Text) : EndsName ('>' :: rest) := by
  intro c hc
  obtain rfl : '>' = c := by simpa using hc
  decide

/-- What holds no `<` is passed over. -/
theorem occurrences_readElementName_skip {piece : Text} (h : '<' ∉ piece) (offset : Nat)
    (rest : Text) :
    occurrences readElementName offset (piece ++ rest)
      = occurrences readElementName (offset + piece.length) rest := by
  apply Text.occurrences_skip_of_forall
  intro c hc tail
  apply readElementName_cons
  rintro rfl
  exact h hc

/-- A name that is read in front of a piece without `<` is the only one up to the end of the
piece. -/
theorem occurrences_readElementName_hit {head body name : Text} {before : Nat} (hne : head ≠ [])
    (hbody : '<' ∉ body) (rest : Text)
    (hread : readElementName (head ++ (body ++ rest)) = some ((name, before), head.length))
    (offset : Nat) :
    (occurrences readElementName offset (head ++ (body ++ rest))).map elementName
      = ⟨offset + before, offset + head.length, name⟩
        :: (occurrences readElementName (offset + (head.length + body.length)) rest).map
            elementName := by
  rw [Text.occurrences_hit _ _ hne hread, occurrences_readElementName_skip hbody, List.map_cons,
    Nat.add_assoc]
  rfl

/-- One part holds its own name, and nothing of it depends on what follows. -/
theorem occurrences_readElementName_part (part : LinePart) (offset : Nat) (rest : Text) :
    (occurrences readElementName offset (part.text ++ rest)).map elementName
      = part.elements offset
        ++ (occurrences readElementName (offset + part.text.length) rest).map elementName := by
  cases part with
  | data run => exact congrArg _ (occurrences_readElementName_skip run.unmarked offset rest)
  | closing name isName =>
      have htext : (LinePart.closing name isName).text = ('<' :: '/' :: name) ++ ['>'] := rfl
      have hread := readElementName_closing isName (endsName_gt rest)
      rw [Nat.add_comm 2] at hread
      rw [htext, List.append_assoc, List.length_append,
        occurrences_readElementName_hit (List.cons_ne_nil _ _) (by decide) rest hread]
      simp only [LinePart.elements, List.length_cons, List.singleton_append]
      rw [Nat.add_assoc offset 2, Nat.add_comm 2]
  | opening tag =>
      have htext : (LinePart.opening tag).text = ('<' :: tag.name) ++ (tag.inside ++ ['>']) := rfl
      have hread := readElementName_opening tag.isName (tag.endsName_inside rest)
      rw [Nat.add_comm 1] at hread
      rw [htext, List.append_assoc, List.length_append,
        occurrences_readElementName_hit (List.cons_ne_nil _ _) tag.lt_not_mem_rest rest
          (by simpa using hread)]
      simp only [LinePart.elements, List.length_cons, List.singleton_append]
      rw [Nat.add_assoc offset 1, Nat.add_comm 1]

/-- **The names of tags** are read off a row one after the other. -/
theorem occurrences_readElementName_lineText (row : List LinePart) (offset : Nat) :
    (occurrences readElementName offset (lineText row)).map elementName
      = placedIn LinePart.elements offset row := by
  induction row generalizing offset with
  | nil => simp [lineText, placedIn]
  | cons part row ih =>
      rw [lineText, List.flatMap_cons, occurrences_readElementName_part, placedIn]
      exact congrArg _ (ih _)

theorem elementAt?_lineText (row : List LinePart) (character : Int) (found : Occurrence Text) :
    elementAt? (lineText row) character = some found
      ↔ found ∈ placedIn LinePart.elements 0 row
        ∧ Touches found.start found.stop character := by
  rw [← occurrences_readElementName_lineText, ← find?_isTouched (elementNames_pairwise _)]
  rfl

/-! ## Names of attributes -/

/-- Where every tag is finished and no other has been opened since, no attribute is touched: those
of the last tag end before its `>`. -/
theorem attributeAt?_settled {before rest : Text} (h : Settled before) {character : Int}
    (hcursor : before.length ≤ character.toNat)
    (hnone : occurrences readOpening before.length
      (rest.take (character.toNat - before.length)) = []) :
    attributeAt? (before ++ rest) character = none := by
  rw [Option.eq_none_iff_forall_not_mem]
  intro site hsite
  obtain ⟨owner, hlast, -, hmem, htouches⟩ := attributeAt?_eq_some_iff.mp hsite
  rw [List.take_append, List.take_of_length_le hcursor, Markup.openings_append h, hnone,
    List.append_nil] at hlast
  obtain ⟨front, more, rfl, hname, -, hstop⟩ :=
    exists_split_of_mem_openings (List.mem_of_getLast? hlast)
  obtain ⟨between, blanks, after, hdrop, hgt, hsiteName, -, hstart, hend⟩ :=
    exists_split_of_mem_attributesFrom hmem
  have hclosed : '>' ∈ more := by
    have hmem := h _ (List.suffix_append front _)
    rcases List.mem_append.mp hmem with hmem | hmem
    · exact absurd hmem (hname.not_mem (by decide))
    · exact hmem
  have hbehind : between ++ site.name ++ (blanks ++ '=' :: after) = more ++ rest := by
    rw [List.append_assoc, ← hdrop, hstop, List.append_assoc, List.cons_append, List.append_assoc,
      ← List.drop_drop, List.drop_left, Nat.add_comm 1, List.drop_succ_cons, List.drop_left]
  -- the `>` is not passed, so the attribute ends before it
  have hshort : (between ++ site.name).length < more.length := by
    by_contra hlong
    obtain ⟨inner, hinner⟩ := List.prefix_of_prefix_length_le
      (List.prefix_append more rest) ⟨_, hbehind⟩ (Nat.le_of_not_lt hlong)
    have hpassed : '>' ∈ between ++ site.name := by
      rw [← hinner]
      exact List.mem_append_left _ hclosed
    rcases List.mem_append.mp hpassed with hpassed | hpassed
    · exact hgt hpassed
    · exact hsiteName.not_mem (by decide) hpassed
  simp only [List.length_append, List.length_cons] at hshort hcursor
  simp only at hstart hend
  unfold Touches at htouches
  omega

namespace LineTag

variable (tag : LineTag)

/-- A tag that the cursor has entered is opened with as much of its name as stands before the
cursor. -/
theorem occurrences_readOpening_take {j : Nat} (hj : 0 < j) (offset : Nat) :
    occurrences readOpening offset (tag.text.take (j + 1))
      = [⟨offset, offset + (1 + (tag.name.take j).length), tag.name.take j⟩] := by
  generalize htail : (tag.inside ++ ['>']).take (j - tag.name.length) = tail
  have htake : tag.text.take (j + 1) = ('<' :: tag.name.take j) ++ tail := by
    rw [text, List.take_succ_cons, List.take_append, htail, List.cons_append]
  have hname : nameAt? (tag.name.take j ++ tail) = some (tag.name.take j) := by
    apply Markup.nameAt?_append (tag.isName.take hj)
    rw [← htail]
    exact (tag.endsName_inside []).take _
  have hread : readOpening (('<' :: tag.name.take j) ++ tail)
      = some (tag.name.take j, ('<' :: tag.name.take j).length) := by
    rw [Markup.readOpening_eq_some_iff]
    exact ⟨_, rfl, hname, Nat.add_comm _ _⟩
  have hlt : '<' ∉ tail := by
    rw [← htail]
    exact fun hmem => tag.lt_not_mem_rest (List.mem_of_mem_take hmem)
  rw [htake, Text.occurrences_hit _ _ (List.cons_ne_nil _ _) hread,
    Markup.occurrences_readOpening_eq_nil hlt, List.length_cons, Nat.add_comm 1]

/-- The attributes that are looked for are all of the tag's, wherever the cursor cuts its name. -/
theorem attributesFrom_text (before rest : Text) (j : Nat) :
    attributesFrom (before ++ (tag.text ++ rest)) (before.length + (1 + (tag.name.take j).length))
      = namesFrom (before.length + (1 + tag.name.length)) tag.attributes := by
  have hdrop : (before ++ (tag.text ++ rest)).drop
        (before.length + (1 + (tag.name.take j).length))
      = tag.name.drop j ++ tag.inside ++ '>' :: rest := by
    have htext : tag.text ++ rest
        = '<' :: (tag.name.take j ++ (tag.name.drop j ++ tag.inside ++ '>' :: rest)) := by
      rw [List.append_assoc, ← List.append_assoc (tag.name.take j), List.take_append_drop]
      simp [text]
    rw [htext, ← List.drop_drop, List.drop_left, Nat.add_comm 1, List.drop_succ_cons,
      List.drop_left]
  have hgt : '>' ∉ tag.name.drop j ++ tag.inside := by
    intro hmem
    rcases List.mem_append.mp hmem with hmem | hmem
    · exact tag.isName.not_mem (by decide) (List.mem_of_mem_drop hmem)
    · exact (tag.mem_inside hmem).2 rfl
  have hword : ∀ c ∈ tag.name.drop j, isNameChar c = true := by
    intro c hc
    exact tag.isName.isNameChar_of_mem (List.mem_of_mem_drop hc)
  have hending : ∀ c ∈ tag.ending, isNameChar c = false ∧ c ≠ '=' := by
    intro c hc
    obtain ⟨hname, heq, -⟩ := tag.mem_ending hc
    exact ⟨hname, heq⟩
  rw [attributesFrom_eq, hdrop, Text.takeWhile_ne_append hgt, inside,
    Markup.occurrences_readSlot_tag hword hending]
  congr 1
  rw [List.length_take, List.length_drop]
  omega

end LineTag

namespace LinePart

theorem mem_sites_opening {tag : LineTag} {offset : Nat} {site : AttributeSite} :
    site ∈ (LinePart.opening tag).sites offset
      ↔ site.owner = tag.name
        ∧ ⟨site.start, site.stop, site.name⟩ ∈ namesFrom (offset + (1 + tag.name.length))
            tag.attributes := by
  obtain ⟨owner, name, start, stop⟩ := site
  show _ ∈ List.map _ _ ↔ _
  rw [List.mem_map]
  constructor
  · rintro ⟨found, hfound, heq⟩
    obtain ⟨rfl, rfl, rfl, rfl⟩ := AttributeSite.mk.inj heq
    exact ⟨rfl, hfound⟩
  · rintro ⟨rfl, hfound⟩
    exact ⟨_, hfound, rfl⟩

/-- The attributes of a tag lie between its name and its `>`. -/
theorem mem_sites_opening_bounds {tag : LineTag} {offset : Nat} {site : AttributeSite}
    (h : site ∈ (LinePart.opening tag).sites offset) :
    offset + (1 + tag.name.length) < site.start ∧ site.stop < offset + tag.text.length := by
  obtain ⟨hstart, hstop⟩ := Markup.mem_namesFrom_bounds (mem_sites_opening.mp h).2
  have hlength := tag.length_text
  rw [LineTag.inside, List.length_append] at hlength
  dsimp only at hstart hstop
  omega

theorem mem_sites_bounds {part : LinePart} {offset : Nat} {site : AttributeSite}
    (h : site ∈ part.sites offset) :
    offset < site.start ∧ site.stop < offset + part.text.length := by
  cases part with
  | data run => exact absurd h List.not_mem_nil
  | closing name isName => exact absurd h List.not_mem_nil
  | opening tag =>
      obtain ⟨hstart, hstop⟩ := mem_sites_opening_bounds h
      exact ⟨by omega, hstop⟩

end LinePart

theorem lt_of_mem_placedIn_sites {row : List LinePart} {offset : Nat} {site : AttributeSite}
    (h : site ∈ placedIn LinePart.sites offset row) : offset < site.start := by
  induction row generalizing offset with
  | nil => exact absurd h List.not_mem_nil
  | cons part row ih =>
      rcases List.mem_append.mp h with h | h
      · exact (LinePart.mem_sites_bounds h).1
      · have hrow := ih h
        omega

/-- A name can be touched only when the cursor stands behind the name of its tag. -/
theorem lt_of_touches {tag : LineTag} {offset : Nat} {site : AttributeSite} {character : Int}
    (hsite : site ∈ (LinePart.opening tag).sites offset)
    (htouches : Touches site.start site.stop character) :
    offset + (1 + tag.name.length) < character.toNat := by
  obtain ⟨hstart, -⟩ := LinePart.mem_sites_opening_bounds hsite
  unfold Touches at htouches
  omega

/-- The cursor is in a tag and has passed at least one character of its name. -/
theorem attributeAt?_entered (tag : LineTag) {before : Text} (h : Settled before) (rest : Text)
    {character : Int} {j : Nat} (hcursor : character.toNat = before.length + (j + 1))
    (hpos : 0 < j) (hinside : j + 1 < tag.text.length) (site : AttributeSite) :
    attributeAt? (before ++ (tag.text ++ rest)) character = some site
      ↔ site ∈ (LinePart.opening tag).sites before.length
        ∧ Touches site.start site.stop character := by
  rw [attributeAt?_eq_some_iff, hcursor, List.take_length_add_append,
    List.take_append_of_le_length (Nat.le_of_lt hinside), Markup.openings_append h,
    tag.occurrences_readOpening_take hpos, List.getLast?_concat]
  -- where a name is touched, the whole name of the tag has been passed
  have hwhole : ∀ found ∈ (LinePart.opening tag).sites before.length,
      Touches found.start found.stop character → tag.name.take j = tag.name := by
    intro found hfound htouches
    have hbehind := lt_of_touches hfound htouches
    exact List.take_of_length_le (by omega)
  constructor
  · rintro ⟨owner, howner, hvalue, hmem, htouches⟩
    obtain rfl := Option.some.inj howner
    rw [tag.attributesFrom_text] at hmem
    have hname := hwhole ⟨tag.name, site.name, site.start, site.stop⟩
      (LinePart.mem_sites_opening.mpr ⟨rfl, hmem⟩) htouches
    exact ⟨LinePart.mem_sites_opening.mpr ⟨hvalue.symm.trans hname, hmem⟩, htouches⟩
  · rintro ⟨hmem, htouches⟩
    obtain ⟨howner, hnames⟩ := LinePart.mem_sites_opening.mp hmem
    refine ⟨_, rfl, (hwhole site hmem htouches).trans howner.symm, ?_, htouches⟩
    rwa [tag.attributesFrom_text]

/-- The attributes of an opening tag are touched at their names and nowhere else. -/
theorem attributeAt?_opening (tag : LineTag) {before : Text} (h : Settled before) (rest : Text)
    {character : Int} (hcursor : before.length ≤ character.toNat)
    (hinside : character.toNat < before.length + tag.text.length) (site : AttributeSite) :
    attributeAt? (before ++ (tag.text ++ rest)) character = some site
      ↔ site ∈ (LinePart.opening tag).sites before.length
        ∧ Touches site.start site.stop character := by
  obtain ⟨i, hi⟩ := Nat.exists_eq_add_of_le hcursor
  by_cases hentered : 2 ≤ i
  · obtain ⟨j, rfl⟩ : ∃ j, i = j + 1 := ⟨i - 1, by omega⟩
    exact attributeAt?_entered tag h rest hi (by omega) (by omega) site
  · have htake : (tag.text ++ rest).take i = tag.text.take i :=
      List.take_append_of_le_length (by omega)
    have hnone : occurrences readOpening before.length (tag.text.take i) = [] := by
      obtain rfl | rfl : i = 0 ∨ i = 1 := by omega
      · exact Text.occurrences_nil _
      · exact Markup.occurrences_readOpening_cons rfl List.not_mem_nil _
    rw [attributeAt?_settled h hcursor (by rwa [hi, Nat.add_sub_cancel_left, htake])]
    constructor
    · intro hsite
      exact absurd hsite (by simp)
    · rintro ⟨hmem, htouches⟩
      have hbehind := lt_of_touches hmem htouches
      omega

/-- **One part**: a cursor in it touches the attributes of this part, if the line up to it ends
outside of tags. -/
theorem attributeAt?_part (part : LinePart) {before : Text} (h : Settled before) (rest : Text)
    {character : Int} (hcursor : before.length ≤ character.toNat)
    (hinside : character.toNat < before.length + part.text.length) (site : AttributeSite) :
    attributeAt? (before ++ (part.text ++ rest)) character = some site
      ↔ site ∈ part.sites before.length ∧ Touches site.start site.stop character := by
  generalize hi : character.toNat - before.length = i
  have htake : (part.text ++ rest).take i = part.text.take i :=
    List.take_append_of_le_length (by omega)
  cases part with
  | data run =>
      have hlt : '<' ∉ run.chars.take i := fun hmem => run.unmarked (List.mem_of_mem_take hmem)
      have hnone := Markup.occurrences_readOpening_eq_nil hlt before.length
      rw [attributeAt?_settled h hcursor (by rw [hi, htake]; exact hnone)]
      simp [LinePart.sites]
  | closing name isName =>
      have hnone : occurrences readOpening before.length
          ((LinePart.closing name isName).text.take i) = [] := by
        cases i with
        | zero => exact Text.occurrences_nil _
        | succ j =>
            apply Markup.occurrences_readOpening_cons
            · cases j <;> rfl
            · intro hmem
              have hlt : '<' ∉ name := isName.not_mem (by decide)
              simpa [hlt] using List.mem_of_mem_take hmem
      rw [attributeAt?_settled h hcursor (by rw [hi, htake]; exact hnone)]
      simp [LinePart.sites]
  | opening tag => exact attributeAt?_opening tag h rest hcursor hinside site

theorem unterminatedTag?_part (part : LinePart) {before : Text}
    (h : unterminatedTag? before = none) : unterminatedTag? (before ++ part.text) = none := by
  cases part with
  | data run => exact Cursor.unterminatedTag?_append_text h run.unmarked
  | closing name isName =>
      have htext : before ++ (LinePart.closing name isName).text
          = before ++ ('<' :: '/' :: name) ++ ['>'] := by
        simp [LinePart.text]
      rw [htext]
      exact Cursor.unterminatedTag?_append_gt _
  | opening tag =>
      have htext : before ++ (LinePart.opening tag).text
          = before ++ ('<' :: (tag.name ++ tag.inside)) ++ ['>'] := by
        simp [LinePart.text, LineTag.text]
      rw [htext]
      exact Cursor.unterminatedTag?_append_gt _

/-- **The names of attributes** along a row. -/
theorem attributeAt?_append_lineText (row : List LinePart) {before : Text}
    (h : unterminatedTag? before = none) {character : Int}
    (hcursor : before.length ≤ character.toNat) (site : AttributeSite) :
    attributeAt? (before ++ lineText row) character = some site
      ↔ site ∈ placedIn LinePart.sites before.length row
        ∧ Touches site.start site.stop character := by
  induction row generalizing before with
  | nil =>
      have hnone : attributeAt? (before ++ []) character = none :=
        attributeAt?_settled (.of_unterminatedTag? h) hcursor (by simp)
      rw [lineText, List.flatMap_nil, hnone]
      simp [placedIn]
  | cons part row ih =>
      rw [lineText, List.flatMap_cons, placedIn, List.mem_append, or_and_right]
      by_cases hinside : character.toNat < before.length + part.text.length
      · rw [attributeAt?_part part (.of_unterminatedTag? h) _ hcursor hinside]
        constructor
        · exact .inl
        · rintro (hpart | ⟨hmem, htouches⟩)
          · exact hpart
          · have hlater := lt_of_mem_placedIn_sites hmem
            unfold Touches at htouches
            omega
      · have hrow := ih (unterminatedTag?_part part h)
          (by rw [List.length_append]; omega)
        rw [List.append_assoc, List.length_append] at hrow
        rw [lineText] at hrow
        rw [hrow]
        constructor
        · exact .inr
        · rintro (⟨hmem, htouches⟩ | hlater)
          · obtain ⟨-, hearlier⟩ := LinePart.mem_sites_bounds hmem
            unfold Touches at htouches
            omega
          · exact hlater

theorem attributeAt?_lineText (row : List LinePart) (character : Int) (site : AttributeSite) :
    attributeAt? (lineText row) character = some site
      ↔ site ∈ placedIn LinePart.sites 0 row
        ∧ Touches site.start site.stop character :=
  @attributeAt?_append_lineText row [] rfl character (Nat.zero_le _) site

/-! ## What is told about the names -/

section

variable {schema : Schema} {line : Text} {character : Int} {told : Occurrence String}

theorem exists_of_elementHover? (h : elementHover? schema line character = some told) :
    ∃ found doc, elementAt? line character = some found
      ∧ schema.documentationOf? found.value = some doc
      ∧ told = ⟨found.start, found.stop, elementMarkdown schema found.value doc⟩ := by
  obtain ⟨found, hfound, h⟩ := Option.bind_eq_some_iff.mp h
  obtain ⟨doc, hdoc, h⟩ := Option.bind_eq_some_iff.mp h
  exact ⟨found, doc, hfound, hdoc, (Option.some.inj h).symm⟩

theorem exists_of_attributeHover? (h : attributeHover? schema line character = some told) :
    ∃ site doc description, attributeAt? line character = some site
      ∧ schema.documentationOf? site.owner = some doc ∧ doc.attr? site.name = some description
      ∧ told = ⟨site.start, site.stop, attributeMarkdown site description⟩ := by
  obtain ⟨site, hsite, h⟩ := Option.bind_eq_some_iff.mp h
  obtain ⟨doc, hdoc, h⟩ := Option.bind_eq_some_iff.mp h
  obtain ⟨description, hdescription, h⟩ := Option.bind_eq_some_iff.mp h
  split at h
  · exact absurd h (by simp)
  · exact ⟨site, doc, description, hsite, hdoc, hdescription, (Option.some.inj h).symm⟩

theorem eq_of_bounded {quantity : Document.Quantity} {value passed : Int}
    (h : quantity.bounded value = .ok passed) : passed = value := by
  unfold Document.Quantity.bounded at h
  split at h
  · exact (Except.ok.inj h).symm
  · exact absurd h (by simp)

/-- A range that lies within its bounds passes as it is. -/
theorem range_eq_of_bounded {range passed : Range} (h : range.bounded = .ok passed) :
    passed = range := by
  have hposition : ∀ {position passed : Document.Position}, position.bounded = .ok passed →
      passed = position := by
    intro position passed h
    obtain ⟨line, hline, h⟩ := exists_of_bind_eq_ok h
    obtain ⟨character, hcharacter, h⟩ := exists_of_bind_eq_ok h
    obtain rfl := eq_of_bounded hline
    obtain rfl := eq_of_bounded hcharacter
    exact (Except.ok.inj h).symm
  obtain ⟨start, hstart, h⟩ := exists_of_bind_eq_ok h
  obtain ⟨stop, hstop, h⟩ := exists_of_bind_eq_ok h
  obtain rfl := hposition hstart
  obtain rfl := hposition hstop
  exact (Except.ok.inj h).symm

theorem exists_of_hover {index : Int} {result : Hover}
    (h : hover schema line index character = .ok (some result)) :
    ∃ told, (elementHover? schema line character = some told
        ∨ attributeHover? schema line character = some told)
      ∧ result = ⟨told.value, Range.onLine index told.start told.stop⟩ := by
  unfold hover at h
  simp only at h
  split at h
  · exact absurd (Except.ok.inj h) (by simp)
  · next told htold =>
      obtain ⟨range, hrange, h⟩ := exists_of_bind_eq_ok h
      obtain rfl := range_eq_of_bounded hrange
      refine ⟨told, ?_, (Option.some.inj (Except.ok.inj h)).symm⟩
      rcases Option.or_eq_some_iff.mp htold with helement | ⟨-, hattribute⟩
      · exact .inl helement
      · exact .inr hattribute

end

/-- **Names under the cursor.** On a well-formed line the cursor touches the name of a tag exactly
where such a name stands, and the name of an attribute exactly where an opening tag has it: not
inside a value, whatever it looks like, nor in character data, in a closing tag or behind the end of
the line. What is told about the cursor is told about such a name and gives its span on the line. -/
theorem names_touched (row : List LinePart) (character : Int) :
    (∀ found, elementAt? (lineText row) character = some found
      ↔ found ∈ placedIn LinePart.elements 0 row ∧ Touches found.start found.stop character)
    ∧ (∀ site, attributeAt? (lineText row) character = some site
      ↔ site ∈ placedIn LinePart.sites 0 row ∧ Touches site.start site.stop character)
    ∧ ∀ schema index result, hover schema (lineText row) index character = .ok (some result) →
      (∃ found ∈ placedIn LinePart.elements 0 row, Touches found.start found.stop character
        ∧ result.range = Range.onLine index found.start found.stop
        ∧ ∃ doc, schema.documentationOf? found.value = some doc
          ∧ result.markdown = elementMarkdown schema found.value doc)
      ∨ (∃ site ∈ placedIn LinePart.sites 0 row, Touches site.start site.stop character
        ∧ result.range = Range.onLine index site.start site.stop
        ∧ ∃ doc description, schema.documentationOf? site.owner = some doc
          ∧ doc.attr? site.name = some description
          ∧ result.markdown = attributeMarkdown site description) := by
  refine ⟨elementAt?_lineText row character, attributeAt?_lineText row character, ?_⟩
  intro schema index result h
  obtain ⟨told, helement | hattribute, rfl⟩ := exists_of_hover h
  · obtain ⟨found, doc, hfound, hdoc, rfl⟩ := exists_of_elementHover? helement
    obtain ⟨hmem, htouches⟩ := (elementAt?_lineText row character found).mp hfound
    exact .inl ⟨found, hmem, htouches, rfl, doc, hdoc, rfl⟩
  · obtain ⟨site, doc, description, hsite, hdoc, hdescription, rfl⟩ :=
      exists_of_attributeHover? hattribute
    obtain ⟨hmem, htouches⟩ := (attributeAt?_lineText row character site).mp hsite
    exact .inr ⟨site, hmem, htouches, rfl, doc, description, hdoc, hdescription, rfl⟩

/-- A line with assignments in character data and inside a value. -/
def sampleRow : List LinePart :=
  [.data ⟨"a=1>".toList, by decide⟩, .closing "page".toList (by decide),
    .opening
      { name := "memo".toList
        attributes := [⟨.plain "key".toList '\'' "c=\"d\"".toList rfl, oneSpace, noSpace⟩]
        space := noSpace
        void := true
        isName := by decide
        unmarked := List.forall_mem_singleton.mpr (by decide) },
    .data ⟨" e='f'".toList, by decide⟩]

/-- Memos with something to tell about their keys. -/
def notedSchema : Schema :=
  { listSchema with
    documentation := [("memo".toList, ⟨"A memo.", "", [("key".toList, "Its name.")]⟩)] }

/-- What is told behind the second character of `key`. -/
def keyNote : Hover := ⟨"**key** (memo)\n\nIts name.", Range.onLine 5 17 20⟩

theorem names_touched_sampleRow :
    attributeAt? (lineText sampleRow) 19 = some ⟨"memo".toList, "key".toList, 17, 20⟩
      ∧ hover notedSchema (lineText sampleRow) 5 19 = .ok (some keyNote)
      ∧ ∃ start stop : Nat, Touches start stop 19 ∧ keyNote.range = Range.onLine 5 start stop := by
  obtain ⟨-, hattribute, htold⟩ := names_touched sampleRow 19
  have hhover : hover notedSchema (lineText sampleRow) 5 19 = .ok (some keyNote) := by
    decide +kernel
  refine ⟨(hattribute _).mpr (by decide), hhover, ?_⟩
  rcases htold _ _ _ hhover with ⟨found, -, htouches, hrange, -⟩ | ⟨site, -, htouches, hrange, -⟩
  · exact ⟨found.start, found.stop, htouches, hrange⟩
  · exact ⟨site.start, site.stop, htouches, hrange⟩

end TagLens.Assist
