import Mathlib.Data.List.Sort
import TagLens.Proofs.Text.Search

/-!
# What a search finds, said without the search

`occurrences` walks through a text and tries its reader wherever no find is under way. The result
can be told without the walk: it is a row of finds in the order of the text, none reaching into the
next, each of them read where it begins, such that wherever the reader could read something a find
begins or is under way (`Finds`). There is only one such row (`occurrences_eq_iff`).
-/

namespace TagLens.Text

variable {α : Type} {read : Reader α} {text : Text}

/-- The reader reads `found` at the place where it begins. -/
def ReadAt (read : Reader α) (text : Text) (found : Occurrence α) : Prop :=
  ∃ before tail n, text = before ++ tail ∧ read tail = some (found.value, n)
    ∧ found.start = before.length ∧ found.stop = found.start + n

/-- At each place at most one thing can be read. -/
theorem ReadAt.unique {first second : Occurrence α} (hfirst : ReadAt read text first)
    (hsecond : ReadAt read text second) (hstart : first.start = second.start) : first = second := by
  obtain ⟨before, tail, n, htext, hread, hbefore, hstop⟩ := hfirst
  obtain ⟨before', tail', n', htext', hread', hbefore', hstop'⟩ := hsecond
  have hlength : before.length = before'.length := by rw [← hbefore, hstart, hbefore']
  obtain ⟨rfl, rfl⟩ := List.append_inj (htext.symm.trans htext') hlength
  obtain ⟨hvalue, rfl⟩ := Prod.mk.inj (Option.some.inj (hread.symm.trans hread'))
  have hend : first.stop = second.stop := by rw [hstop, hstart, hstop']
  cases first
  cases second
  rw [Occurrence.mk.injEq]
  exact ⟨hstart, hend, hvalue⟩

/-- A row of finds as a search from left to right makes them. -/
structure Finds (read : Reader α) (text : Text) (row : List (Occurrence α)) : Prop where
  ordered : row.Pairwise fun first second => first.stop ≤ second.start
  readAt : ∀ found ∈ row, ReadAt read text found
  covers : ∀ before tail value n, text = before ++ tail → read tail = some (value, n) →
    ∃ found ∈ row, found.start ≤ before.length ∧ before.length < found.stop

theorem finds_occurrences (hfit : Reader.Fits read) (text : Text) :
    Finds read text (occurrences read 0 text) := by
  refine ⟨occurrences_pairwise hfit 0 text, ?_, ?_⟩
  · intro found hfound
    obtain ⟨before, tail, n, htext, hread, hstart, hstop⟩ :=
      exists_split_of_mem_occurrences hfit hfound
    rw [Nat.zero_add] at hstart
    exact ⟨before, tail, n, htext, hread, hstart, hstop⟩
  · intro before tail value n htext hread
    have hcovered := exists_mem_occurrences_of_read hfit htext hread 0
    rwa [Nat.zero_add] at hcovered

section

variable (hfit : Reader.Fits read) {row other : List (Occurrence α)}

include hfit

theorem ReadAt.start_lt_stop {found : Occurrence α} (h : ReadAt read text found) :
    found.start < found.stop := by
  obtain ⟨-, tail, n, -, hread, -, hstop⟩ := h
  have hpos := (hfit _ _ _ hread).1
  omega

/-- Of two finds in a row the one that begins first has ended when the other begins. -/
theorem Finds.stop_le_start (h : Finds read text row) {first second : Occurrence α}
    (hfirst : first ∈ row) (hsecond : second ∈ row) (hlt : first.start < second.start) :
    first.stop ≤ second.start := by
  obtain ⟨i, hi, rfl⟩ := List.getElem_of_mem hfirst
  obtain ⟨j, hj, rfl⟩ := List.getElem_of_mem hsecond
  rcases Nat.lt_trichotomy i j with hij | rfl | hji
  · exact List.pairwise_iff_getElem.mp h.ordered i j hi hj hij
  · exact absurd hlt (Nat.lt_irrefl _)
  · have hback := List.pairwise_iff_getElem.mp h.ordered j i hj hi hji
    have hlength := (h.readAt _ hsecond).start_lt_stop hfit
    omega

theorem Finds.start_ordered (h : Finds read text row) :
    row.Pairwise fun first second => first.start < second.start := by
  apply h.ordered.imp_of_mem
  intro first second hfirst _ hle
  exact Nat.lt_of_lt_of_le ((h.readAt first hfirst).start_lt_stop hfit) hle

/-- Two rows hold the same finds. The induction is on the place where the find begins: the other
row has a find under way there, and if this had begun before, both rows would hold it. -/
theorem Finds.mem_of_mem (hrow : Finds read text row) (hother : Finds read text other)
    {found : Occurrence α} (hfound : found ∈ row) : found ∈ other := by
  induction hstart : found.start using Nat.strong_induction_on
    generalizing found row other with
  | _ start ih =>
      obtain ⟨before, tail, n, htext, hread, hbefore, -⟩ := hrow.readAt found hfound
      obtain ⟨under, hunder, hle, hlt⟩ := hother.covers before tail found.value n htext hread
      rw [← hbefore] at hle hlt
      rcases Nat.lt_or_eq_of_le hle with hearlier | hsame
      · have hboth : under ∈ row := ih under.start (hstart ▸ hearlier) hother hrow hunder rfl
        have hended := hrow.stop_le_start hfit hboth hfound hearlier
        omega
      · have heq : under = found :=
          (hother.readAt under hunder).unique (hrow.readAt found hfound) hsame
        exact heq ▸ hunder

theorem Finds.unique (hrow : Finds read text row) (hother : Finds read text other) :
    row = other := by
  have hirrefl : Std.Irrefl fun first second : Occurrence α => first.start < second.start :=
    ⟨fun _ => Nat.lt_irrefl _⟩
  have hantisymm : Std.Antisymm fun first second : Occurrence α => first.start < second.start :=
    ⟨fun _ _ hlt hgt => absurd hlt (Nat.lt_asymm hgt)⟩
  apply (hrow.start_ordered hfit).eq_of_mem_iff (hother.start_ordered hfit)
  intro found
  exact ⟨hrow.mem_of_mem hfit hother, hother.mem_of_mem hfit hrow⟩

/-- **The result of a search**: the only row of finds as a search from left to right makes them. -/
theorem occurrences_eq_iff : occurrences read 0 text = row ↔ Finds read text row := by
  constructor
  · rintro rfl
    exact finds_occurrences hfit text
  · intro h
    exact (finds_occurrences hfit text).unique hfit h

end

end TagLens.Text
