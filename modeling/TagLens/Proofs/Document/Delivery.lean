import TagLens.Document.Buffer

/-!
# Batches that arrive out of order

Batches of edits may be delivered late, twice or in any order. What makes this harmless is one
invariant: the version of a buffer is the greatest version it has ever been offered, whether
the batch was accepted or not (`version_run_lt_iff`). A batch is then accepted exactly when its
version is a new record, and a batch that is not accepted leaves no trace: not in the text, not in
the version and not in the table of lines, in whatever state that was.
-/

namespace TagLens.Document

/-- Edits that are delivered together, with the version they lead to. -/
structure Batch where
  changes : List Change
  version : Int
  deriving DecidableEq, Repr

namespace Buffer

def deliver (buffer : Buffer) (batch : Batch) : Buffer :=
  (buffer.edit batch.changes batch.version).2

/-- The answer to a delivery: has the batch been applied? -/
def accepts (buffer : Buffer) (batch : Batch) : Bool :=
  (buffer.edit batch.changes batch.version).1

def run (buffer : Buffer) (batches : List Batch) : Buffer := batches.foldl deliver buffer

/-- The batches that are accepted when all are delivered, in order. -/
def accepted (buffer : Buffer) : List Batch → List Batch
  | [] => []
  | batch :: rest =>
    if buffer.accepts batch then batch :: (buffer.deliver batch).accepted rest
    else (buffer.deliver batch).accepted rest

variable (buffer : Buffer)

/-! ## One delivery -/

theorem uri_applyAll (changes : List Change) : (buffer.applyAll changes).uri = buffer.uri := by
  induction changes generalizing buffer with
  | nil => rfl
  | cons change rest ih =>
      obtain ⟨replacement, _ | range⟩ := change <;> exact ih _

theorem edit_of_lt {buffer : Buffer} {version : Int} (h : buffer.version < version)
    (changes : List Change) :
    buffer.edit changes version = (true, { buffer.applyAll changes with version }) := by
  have hfresh : ¬ buffer.isStale version = true := by
    rw [isStale, decide_eq_true_eq]
    exact Int.not_le.mpr h
  rw [edit, if_neg hfresh]

theorem edit_of_le {buffer : Buffer} {version : Int} (h : version ≤ buffer.version)
    (changes : List Change) : buffer.edit changes version = (false, buffer) := by
  have hstale : buffer.isStale version = true := by
    rw [isStale, decide_eq_true_eq]
    exact h
  rw [edit, if_pos hstale]

theorem edit_fst_iff (changes : List Change) (version : Int) :
    (buffer.edit changes version).1 = true ↔ buffer.version < version := by
  by_cases h : buffer.version < version
  · simp [edit_of_lt h, h]
  · simp [edit_of_le (Int.not_lt.mp h), h]

theorem accepts_iff (batch : Batch) :
    buffer.accepts batch = true ↔ buffer.version < batch.version :=
  buffer.edit_fst_iff batch.changes batch.version

theorem deliver_of_rejected {buffer : Buffer} {batch : Batch} (h : buffer.accepts batch = false) :
    buffer.deliver batch = buffer := by
  have hle : batch.version ≤ buffer.version := by
    rw [← Int.not_lt, ← buffer.accepts_iff batch, h]
    simp
  rw [deliver, edit_of_le hle]

theorem uri_edit (changes : List Change) (version : Int) :
    (buffer.edit changes version).2.uri = buffer.uri := by
  by_cases h : buffer.version < version
  · rw [edit_of_lt h]
    exact buffer.uri_applyAll changes
  · rw [edit_of_le (Int.not_lt.mp h)]

/-- The version never goes back: it is the greater of what it was and what was offered. -/
theorem version_deliver (batch : Batch) :
    (buffer.deliver batch).version = max buffer.version batch.version := by
  by_cases h : buffer.version < batch.version
  · rw [deliver, edit_of_lt h]
    exact (Int.max_eq_right (Int.le_of_lt h)).symm
  · have hle := Int.not_lt.mp h
    rw [deliver, edit_of_le hle, Int.max_eq_left hle]

/-! ## Runs of deliveries -/

theorem run_cons (batch : Batch) (rest : List Batch) :
    buffer.run (batch :: rest) = (buffer.deliver batch).run rest := rfl

theorem run_append (front back : List Batch) :
    buffer.run (front ++ back) = (buffer.run front).run back :=
  List.foldl_append

/-- **The version is the greatest ever offered**: something is beyond it exactly when it is
beyond the first version and beyond that of every batch, accepted or not. -/
theorem version_run_lt_iff (batches : List Batch) (version : Int) :
    (buffer.run batches).version < version
      ↔ buffer.version < version ∧ ∀ batch ∈ batches, batch.version < version := by
  induction batches generalizing buffer with
  | nil => simp [run]
  | cons batch rest ih =>
      rw [run_cons, ih, version_deliver, Int.max_lt, List.forall_mem_cons, and_assoc]

/-- Running the accepted batches alone leads to the same buffer. -/
theorem run_accepted (batches : List Batch) :
    buffer.run (buffer.accepted batches) = buffer.run batches := by
  induction batches generalizing buffer with
  | nil => rfl
  | cons batch rest ih =>
      rw [accepted, run_cons]
      split
      · rw [run_cons, ih]
      · next h =>
          -- a rejected batch is missing from the accepted ones and left no trace
          rw [deliver_of_rejected (by simpa using h)]
          exact ih buffer

theorem deliver_again {batches : List Batch} {batch : Batch} (h : batch ∈ batches) :
    (buffer.run batches).deliver batch = buffer.run batches := by
  apply deliver_of_rejected
  rw [← Bool.not_eq_true, accepts_iff, version_run_lt_iff]
  rintro ⟨-, hall⟩
  exact Int.lt_irrefl _ (hall batch h)

/-- **Late and repeated deliveries are harmless.** After any deliveries `before`, a batch is
accepted exactly when its version goes beyond the first version and beyond that of every
earlier batch, accepted or not; the buffer is the one that the accepted batches alone lead to;
a rejected batch changes nothing; and neither does delivering an earlier batch once more,
whatever comes later. -/
theorem run_late_deliveries (before later : List Batch) (batch : Batch) :
    ((buffer.run before).accepts batch = true
        ↔ buffer.version < batch.version ∧ ∀ earlier ∈ before, earlier.version < batch.version)
      ∧ buffer.run before = buffer.run (buffer.accepted before)
      ∧ ((buffer.run before).accepts batch = false
          → (buffer.run before).deliver batch = buffer.run before)
      ∧ ∀ earlier ∈ before, (buffer.run before).deliver earlier = buffer.run before
          ∧ buffer.run (before ++ earlier :: later) = buffer.run (before ++ later) := by
  refine ⟨?_, (buffer.run_accepted before).symm, deliver_of_rejected, ?_⟩
  · rw [accepts_iff, version_run_lt_iff]
  · intro earlier hearlier
    have hagain := buffer.deliver_again hearlier
    refine ⟨hagain, ?_⟩
    rw [run_append, run_append, run_cons, hagain]

/-- Of three batches, one late and one repeated, only the first is accepted. -/
example :
    (Buffer.new "u" [] 1).accepted
        [⟨[⟨['a'], none⟩], 3⟩, ⟨[⟨['b'], none⟩], 2⟩, ⟨[⟨['a'], none⟩], 3⟩]
      = [⟨[⟨['a'], none⟩], 3⟩] := by
  decide

end Buffer
end TagLens.Document
