import TagLens.Assist.Hover
import TagLens.Proofs.Markup.Slot

/-!
# The attribute name under the cursor

The owner of an attribute is looked for in the line up to the cursor, and the attribute itself in
the whole line, from the end of the owner's name on. Both are taken from the line as it is, however
malformed (`attributeAt?_stands`): the name stands where it is said to stand, an equals sign follows
it, and an opening with the owner's name stands before it, with no `>` in between.

The owner's name is the whole name behind its `<`, but for one case. Where the name of a tag is
itself in front of an equals sign and the cursor stands inside it, the cursor cuts the name in two,
and the first half passes for the owner of the second.
-/

namespace TagLens.Assist

open Markup (IsName EndsName nameAt? openings readOpening readSlot slotName)
open Text (Occurrence isBlank occurrences)

/-! ## At most one name is touched -/

/-- The cursor stands in front of a span, in it or right behind it. -/
def Touches (start stop : Nat) (character : Int) : Prop :=
  (start : Int) ≤ character ∧ character ≤ stop

instance (start stop : Nat) (character : Int) : Decidable (Touches start stop character) :=
  inferInstanceAs (Decidable (_ ∧ _))

/-- The test that picks the name under the cursor. -/
def isTouched (character : Int) (name : Occurrence Text) : Bool :=
  (name.start : Int) ≤ character && character ≤ name.stop

theorem isTouched_iff {character : Int} {name : Occurrence Text} :
    isTouched character name = true ↔ Touches name.start name.stop character := by
  simp [isTouched, Touches]

/-- Of names that keep apart at most one is touched, so the first one is the only one. -/
theorem find?_isTouched {names : List (Occurrence Text)}
    (h : names.Pairwise fun first second => first.stop < second.start) {character : Int}
    {found : Occurrence Text} :
    names.find? (isTouched character) = some found
      ↔ found ∈ names ∧ Touches found.start found.stop character := by
  induction names with
  | nil => simp
  | cons name names ih =>
      obtain ⟨hname, hnames⟩ := List.pairwise_cons.mp h
      by_cases htouched : isTouched character name = true
      · rw [List.find?_cons_of_pos htouched, Option.some.injEq, List.mem_cons]
        rw [isTouched_iff] at htouched
        constructor
        · rintro rfl
          exact ⟨.inl rfl, htouched⟩
        · rintro ⟨rfl | hmem, htouches⟩
          · rfl
          · have hapart := hname found hmem
            unfold Touches at htouched htouches
            omega
      · rw [List.find?_cons_of_neg htouched, ih hnames, List.mem_cons]
        rw [isTouched_iff] at htouched
        constructor
        · rintro ⟨hmem, htouches⟩
          exact ⟨.inr hmem, htouches⟩
        · rintro ⟨rfl | hmem, htouches⟩
          · exact absurd htouches htouched
          · exact ⟨hmem, htouches⟩

theorem attributesFrom_eq (line : Text) (offset : Nat) :
    attributesFrom line offset
      = (occurrences readSlot offset ((line.drop offset).takeWhile (· != '>'))).map slotName := rfl

/-- The names of attributes keep apart: at least an equals sign stands between two of them. -/
theorem attributesFrom_pairwise (line : Text) (offset : Nat) :
    (attributesFrom line offset).Pairwise fun first second => first.stop < second.start := by
  rw [attributesFrom_eq, List.pairwise_map]
  apply (Text.occurrences_pairwise Markup.readSlot_fits _ _).imp_of_mem
  intro first second hfirst _ hle
  obtain ⟨before, tail, n, -, hread, -, hstop⟩ :=
    Text.exists_split_of_mem_occurrences Markup.readSlot_fits hfirst
  have hlt := Markup.length_lt_of_readSlot hread
  simp only [slotName]
  omega

/-- **What is found**: a name that the cursor touches among the attributes of the last opening
before the cursor. -/
theorem attributeAt?_eq_some_iff {line : Text} {character : Int} {site : AttributeSite} :
    attributeAt? line character = some site
      ↔ ∃ owner, (openings (line.take character.toNat)).getLast? = some owner
        ∧ owner.value = site.owner
        ∧ ⟨site.start, site.stop, site.name⟩ ∈ attributesFrom line owner.stop
        ∧ Touches site.start site.stop character := by
  rw [attributeAt?, openings]
  cases hlast : (occurrences readOpening 0 (line.take character.toNat)).getLast? with
  | none => simp
  | some owner =>
      have hfind := @find?_isTouched _ (attributesFrom_pairwise line owner.stop) character
      show Option.map _ ((attributesFrom line owner.stop).find? (isTouched character)) = _ ↔ _
      rw [Option.map_eq_some_iff]
      constructor
      · rintro ⟨found, hfound, rfl⟩
        obtain ⟨hmem, htouches⟩ := hfind.mp hfound
        exact ⟨owner, rfl, rfl, hmem, htouches⟩
      · rintro ⟨other, hother, hvalue, hmem, htouches⟩
        obtain rfl := Option.some.inj hother
        refine ⟨_, hfind.mpr ⟨hmem, htouches⟩, ?_⟩
        rw [hvalue]

/-! ## Where the names stand -/

/-- An opening stands in the text with its `<`, its name and something that ends the name. -/
theorem exists_split_of_mem_openings {text : Text} {owner : Occurrence Text}
    (h : owner ∈ openings text) :
    ∃ before more, text = before ++ '<' :: (owner.value ++ more) ∧ IsName owner.value
      ∧ EndsName more ∧ owner.stop = before.length + (1 + owner.value.length) := by
  obtain ⟨before, whole, n, htext, hread, hstart, hstop⟩ :=
    Text.exists_split_of_mem_occurrences Markup.readOpening_fits h
  obtain ⟨tail, rfl, hname, rfl⟩ := Markup.readOpening_eq_some_iff.mp hread
  obtain ⟨hsplit, hisName, hends⟩ := Markup.split_of_nameAt?_eq_some hname
  refine ⟨before, tail.drop owner.value.length, ?_, hisName, hends, ?_⟩
  · rw [htext, ← hsplit]
  · rw [hstop, hstart, Nat.zero_add]

/-- An attribute stands behind the offset, with no `>` before it and an equals sign behind it. -/
theorem exists_split_of_mem_attributesFrom {line : Text} {offset : Nat} {found : Occurrence Text}
    (h : found ∈ attributesFrom line offset) :
    ∃ between blanks after, line.drop offset
        = between ++ (found.value ++ (blanks ++ '=' :: after))
      ∧ '>' ∉ between ∧ IsName found.value ∧ (∀ c ∈ blanks, isBlank c = true)
      ∧ found.start = offset + between.length
      ∧ found.stop = found.start + found.value.length := by
  rw [attributesFrom_eq, List.mem_map] at h
  obtain ⟨slot, hslot, rfl⟩ := h
  obtain ⟨between, tail, n, hwindow, hread, hstart, -⟩ :=
    Text.exists_split_of_mem_occurrences Markup.readSlot_fits hslot
  obtain ⟨m, hassigned, -, -⟩ := Markup.exists_of_readSlot_eq_some hread
  obtain ⟨blanks, rest, rfl, hname, hblanks, -⟩ :=
    Markup.exists_of_readAssignment_eq_some hassigned
  refine ⟨between, blanks, rest ++ (line.drop offset).dropWhile (· != '>'), ?_, ?_, hname, hblanks,
    hstart, rfl⟩
  · calc line.drop offset
        = (line.drop offset).takeWhile (· != '>') ++ (line.drop offset).dropWhile (· != '>') :=
          List.takeWhile_append_dropWhile.symm
      _ = _ := by
          rw [hwindow]
          simp [slotName]
  · intro hmem
    have hinside : '>' ∈ (line.drop offset).takeWhile (· != '>') := by
      rw [hwindow]
      exact List.mem_append_left _ hmem
    exact absurd (List.mem_takeWhile_imp hinside) (by decide)

/-! ## The line around the cursor -/

/-- How an attribute name and its owner lie in a line: `before` the owner's `<`, `between` the two
names, and `more` from the owner's name up to the cursor. -/
structure Placement (line : Text) (character : Int) (site : AttributeSite) where
  before : Text
  more : Text
  between : Text
  blanks : Text
  after : Text
  cut : line.take character.toNat = before ++ '<' :: (site.owner ++ more)
  behind : more ++ line.drop character.toNat
    = between ++ (site.name ++ (blanks ++ '=' :: after))
  isName_owner : IsName site.owner
  isName_name : IsName site.name
  ends : EndsName more
  unclosed : '>' ∉ between
  blank : ∀ c ∈ blanks, isBlank c = true
  start_eq : site.start = before.length + (1 + site.owner.length) + between.length
  stop_eq : site.stop = site.start + site.name.length

theorem exists_placement {line : Text} {character : Int} {site : AttributeSite}
    (h : attributeAt? line character = some site) :
    Nonempty (Placement line character site) := by
  obtain ⟨owner, hlast, hvalue, hmem, -⟩ := attributeAt?_eq_some_iff.mp h
  obtain ⟨before, more, hcut, howner, hends, hownerStop⟩ :=
    exists_split_of_mem_openings (List.mem_of_getLast? hlast)
  obtain ⟨between, blanks, after, hdrop, hgt, hname, hblanks, hstart, hstop⟩ :=
    exists_split_of_mem_attributesFrom hmem
  rw [hvalue] at hcut howner hownerStop
  rw [hownerStop] at hdrop hstart
  have hbehind : line.drop (before.length + (1 + site.owner.length))
      = more ++ line.drop character.toNat := by
    have hcursor := List.take_append_drop character.toNat line
    rw [hcut, List.append_assoc, List.cons_append, List.append_assoc] at hcursor
    nth_rewrite 1 [← hcursor]
    rw [← List.drop_drop, List.drop_left, Nat.add_comm 1, List.drop_succ_cons, List.drop_left]
  exact ⟨before, more, between, blanks, after, hcut, hbehind.symm.trans hdrop, howner, hname, hends,
    hgt, hblanks, hstart, hstop⟩

namespace Placement

variable {line : Text} {character : Int} {site : AttributeSite}
  (placement : Placement line character site)

/-- The line as a whole. -/
theorem line_eq :
    line = placement.before ++ '<' :: (site.owner
      ++ (placement.between ++ (site.name ++ (placement.blanks ++ '=' :: placement.after)))) := by
  have hcursor := List.take_append_drop character.toNat line
  rw [placement.cut, List.append_assoc, List.cons_append, List.append_assoc,
    placement.behind] at hcursor
  exact hcursor.symm

include placement in
theorem drop_take : (line.take site.stop).drop site.start = site.name := by
  obtain ⟨front, rest, hline, hstart⟩ : ∃ front rest,
      line = front ++ (site.name ++ rest) ∧ site.start = front.length := by
    refine ⟨placement.before ++ '<' :: (site.owner ++ placement.between),
      placement.blanks ++ '=' :: placement.after, ?_, ?_⟩
    · exact placement.line_eq.trans (by simp)
    · rw [placement.start_eq]
      simp only [List.length_append, List.length_cons]
      omega
  rw [placement.stop_eq, hstart, hline, ← List.append_assoc, ← List.length_append, List.take_left,
    List.drop_left]

/-- How much of the line stands before the cursor. -/
theorem length_cut :
    min character.toNat line.length
      = placement.before.length + (1 + site.owner.length) + placement.more.length := by
  have hlength := congrArg List.length placement.cut
  simp only [List.length_take, List.length_append, List.length_cons] at hlength
  omega

/-- A name that was not ended before the cursor goes on behind it with the attribute's name: the
attribute begins behind the owner, and no later than at the cursor. -/
theorem cursor_of_unended (htouches : Touches site.start site.stop character)
    (hmore : placement.more = []) : placement.between = [] ∧ character = site.start := by
  have hbehind := placement.behind
  have hlength := placement.length_cut
  have hstart := placement.start_eq
  rw [hmore] at hbehind hlength
  have hinside : character.toNat < line.length := by
    by_contra hbeyond
    rw [List.drop_eq_nil_of_le (by omega)] at hbehind
    simp at hbehind
  unfold Touches at htouches
  rw [List.length_nil] at hlength
  constructor
  · apply List.eq_nil_of_length_eq_zero
    omega
  · omega

/-- The owner is the whole name behind its `<`, or the first half of a name that the cursor cuts. -/
theorem nameAt?_cases (htouches : Touches site.start site.stop character) :
    nameAt? (line.drop (placement.before.length + 1)) = some site.owner
      ∨ (nameAt? (line.drop (placement.before.length + 1)) = some (site.owner ++ site.name)
        ∧ placement.between = [] ∧ character = site.start) := by
  have hdrop : line.drop (placement.before.length + 1)
      = site.owner ++ (placement.between
        ++ (site.name ++ (placement.blanks ++ '=' :: placement.after))) := by
    refine (congrArg (List.drop (placement.before.length + 1)) placement.line_eq).trans ?_
    rw [← List.drop_drop, List.drop_left, List.drop_succ_cons, List.drop_zero]
  rw [hdrop]
  cases hmore : placement.more with
  | cons c more =>
      left
      rw [← placement.behind]
      apply Markup.nameAt?_append placement.isName_owner
      intro d hd
      apply placement.ends d
      rw [hmore] at hd ⊢
      exact hd
  | nil =>
      obtain ⟨hbetween, hcursor⟩ := placement.cursor_of_unended htouches hmore
      right
      refine ⟨?_, hbetween, hcursor⟩
      rw [hbetween, List.nil_append, ← List.append_assoc]
      apply Markup.nameAt?_append
      · exact placement.isName_owner.append
          fun c hc => placement.isName_name.isNameChar_of_mem hc
      · exact Markup.endsName_blanks placement.blank placement.after

end Placement

/-- **Attribute names stand in the line.** Whatever the line is, the name that is found is touched
by the cursor and stands where it is said to stand; blank space at most and an equals sign follow
it. Before it and before the cursor stands a `<` with the name of the owner, and no `>` comes
between. The owner's name is the whole name behind the `<`, or the cursor stands right behind it
inside the name of a tag: then the whole name is that of the owner and that of the attribute
together. -/
theorem attributeAt?_stands (line : Text) (character : Int) (site : AttributeSite)
    (h : attributeAt? line character = some site) :
    Touches site.start site.stop character
      ∧ (line.take site.stop).drop site.start = site.name
      ∧ site.stop = site.start + site.name.length ∧ IsName site.name
      ∧ ∃ before between blanks after,
        line = before
            ++ '<' :: (site.owner ++ (between ++ (site.name ++ (blanks ++ '=' :: after))))
          ∧ site.start = before.length + (1 + site.owner.length) + between.length
          ∧ (before.length : Int) < character
          ∧ '>' ∉ '<' :: (site.owner ++ between) ∧ (∀ c ∈ blanks, isBlank c = true)
          ∧ IsName site.owner
          ∧ (nameAt? (line.drop (before.length + 1)) = some site.owner
            ∨ (nameAt? (line.drop (before.length + 1)) = some (site.owner ++ site.name)
              ∧ between = [] ∧ character = site.start)) := by
  obtain ⟨placement⟩ := exists_placement h
  obtain ⟨-, -, -, -, htouches⟩ := attributeAt?_eq_some_iff.mp h
  refine ⟨htouches, placement.drop_take, placement.stop_eq, placement.isName_name, placement.before,
    placement.between, placement.blanks, placement.after, placement.line_eq, placement.start_eq,
    ?_, ?_, placement.blank, placement.isName_owner, placement.nameAt?_cases htouches⟩
  · have hlength := placement.length_cut
    omega
  · have hnamed : '>' ∉ site.owner := placement.isName_owner.not_mem (by decide)
    simp [hnamed, placement.unclosed]

/-- A line with a stray `>`, a tag that is left unfinished, another one with a value that is left
unfinished, and what looks like a third inside it. -/
def brokenLine : Text := "p> <b c=<d e:f  = '<g h=1".toList

theorem attributeAt?_stands_brokenLine :
    attributeAt? brokenLine 13 = some ⟨['d'], "e:f".toList, 11, 14⟩
      ∧ (brokenLine.take 14).drop 11 = "e:f".toList
      ∧ nameAt? (brokenLine.drop 9) = some ['d'] := by
  have hfound : attributeAt? brokenLine 13 = some ⟨['d'], "e:f".toList, 11, 14⟩ := by
    decide +kernel
  obtain ⟨-, hslice, -⟩ := attributeAt?_stands brokenLine 13 _ hfound
  exact ⟨hfound, hslice, by decide⟩

/-- A tag whose name is in front of an equals sign. -/
def assignedTag : Text := "<foo=\"1\">".toList

/-- Behind the first character of the name this character is taken for the owner, although no `<` of
the line has it for its name. -/
theorem attributeAt?_assignedTag :
    attributeAt? assignedTag 2 = some ⟨['f'], "oo".toList, 2, 4⟩
      ∧ ¬ ∃ tail, '<' :: tail <:+ assignedTag ∧ nameAt? tail = some ['f'] := by
  refine ⟨by decide +kernel, ?_⟩
  rw [← Markup.mentions_iff (by decide)]
  decide

end TagLens.Assist
