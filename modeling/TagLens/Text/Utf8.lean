import TagLens.Text.Basic

/-!
# UTF-8

Bytes are read piece by piece. A piece is either a character or a fault: a byte that begins
no character, a character broken off by a byte that does not continue it, or a character
broken off by the end of the bytes. A fault covers the longest run of bytes that could still
have begun a character. `decode` reports the first fault, `decodeLossy` puts the replacement
character in the place of each.
-/

namespace TagLens.Text.Utf8

/-- Why bytes are not the encoding of a character. -/
inductive Cause where
  | invalidStart
  | invalidContinuation
  | unexpectedEnd
  deriving DecidableEq, Repr

/-- What a cause is called. -/
def Cause.message : Cause → String
  | .invalidStart => "invalid start byte"
  | .invalidContinuation => "invalid continuation byte"
  | .unexpectedEnd => "unexpected end of data"

/-- Bytes that encode nothing: where they stand, how many they are, the first of them, and
what is wrong. -/
structure Fault where
  position : Nat
  length : Nat
  byte : UInt8
  cause : Cause
  deriving DecidableEq, Repr

/-- The fault in words. -/
def Fault.message (fault : Fault) : String :=
  let place :=
    if fault.length == 1 then
      let digits := Nat.toDigits 16 fault.byte.toNat
      let padded := List.replicate (2 - digits.length) '0' ++ digits
      "byte 0x" ++ String.ofList padded ++ " in position " ++ toString fault.position
    else
      "bytes in position " ++ toString fault.position ++ "-"
        ++ toString (fault.position + fault.length - 1)
  "'utf-8' codec can't decode " ++ place ++ ": " ++ fault.cause.message

/-- What a first byte announces: the number of bytes that follow, the range in which the
next of them must lie, and the leading bits of the code point. -/
structure Lead where
  following : Nat
  lowest : Nat
  highest : Nat
  bits : Nat

/-- The first bytes of longer encodings. The narrower ranges keep out overlong forms,
surrogates, and what lies beyond the last code point. -/
def lead? (b : Nat) : Option Lead :=
  if 0xc2 ≤ b ∧ b ≤ 0xdf then some ⟨1, 0x80, 0xbf, b - 0xc0⟩
  else if b = 0xe0 then some ⟨2, 0xa0, 0xbf, 0⟩
  else if b = 0xed then some ⟨2, 0x80, 0x9f, 0xd⟩
  else if 0xe1 ≤ b ∧ b ≤ 0xef then some ⟨2, 0x80, 0xbf, b - 0xe0⟩
  else if b = 0xf0 then some ⟨3, 0x90, 0xbf, 0⟩
  else if 0xf1 ≤ b ∧ b ≤ 0xf3 then some ⟨3, 0x80, 0xbf, b - 0xf0⟩
  else if b = 0xf4 then some ⟨3, 0x80, 0x8f, 4⟩
  else none

/-- Take the bytes that follow a first byte: the code point they complete, or what stopped
them, and the number of bytes taken so far. -/
def takeFollowing (lowest highest bits taken : Nat) : Nat → List UInt8 → Except Cause Nat × Nat
  | 0, _ => (.ok bits, taken)
  | _ + 1, [] => (.error .unexpectedEnd, taken)
  | n + 1, b :: rest =>
    if lowest ≤ b.toNat ∧ b.toNat ≤ highest then
      takeFollowing 0x80 0xbf (64 * bits + (b.toNat - 0x80)) (taken + 1) n rest
    else (.error .invalidContinuation, taken)

/-- The piece at the head of some bytes, and how many bytes it takes. -/
def readPiece (b : UInt8) (rest : List UInt8) : Except Cause Char × Nat :=
  if b.toNat < 0x80 then (.ok (Char.ofNat b.toNat), 1)
  else
    match lead? b.toNat with
    | none => (.error .invalidStart, 1)
    | some lead =>
      match takeFollowing lead.lowest lead.highest lead.bits 1 lead.following rest with
      | (.ok n, taken) => (.ok (Char.ofNat n), taken)
      | (.error cause, taken) => (.error cause, taken)

/-- All pieces of some bytes, in order; `position` is the position of the first byte. -/
def pieces (position : Nat) (bytes : List UInt8) : List (Except Fault Char) :=
  match bytes with
  | [] => []
  | b :: rest =>
    let piece := readPiece b rest
    let head : Except Fault Char :=
      match piece.1 with
      | .ok c => .ok c
      | .error cause => .error ⟨position, piece.2, b, cause⟩
    head :: pieces (position + piece.2) (rest.drop (piece.2 - 1))
termination_by bytes.length
decreasing_by simp only [List.length_drop, List.length_cons]; omega

/-- The text that the bytes encode, or the first fault. -/
def decode (bytes : List UInt8) : Except Fault Text := (pieces 0 bytes).mapM id

/-- The text with the replacement character in the place of each fault. -/
def decodeLossy (bytes : List UInt8) : Text :=
  (pieces 0 bytes).map fun
    | .ok c => c
    | .error _ => Char.ofNat 0xfffd

/-- The bytes of a text. -/
def encode (text : Text) : List UInt8 := text.flatMap String.utf8EncodeChar

theorem pieces_ascii {text : Text} (h : ∀ c ∈ text, c.toNat < 128) (position : Nat) :
    pieces position (encode text) = text.map .ok := by
  induction text generalizing position with
  | nil =>
      rw [encode, List.flatMap_nil, pieces]
      rfl
  | cons c text ih =>
      obtain ⟨hc, htext⟩ := List.forall_mem_cons.mp h
      have hbyte : (UInt8.ofNat c.toNat).toNat = c.toNat := by
        rw [UInt8.toNat_ofNat']
        omega
      have hencode : encode (c :: text) = UInt8.ofNat c.toNat :: encode text := by
        rw [encode, List.flatMap_cons, String.utf8EncodeChar]
        exact congrArg (· ++ _) (if_pos (Nat.le_of_lt_succ hc))
      have hread : readPiece (UInt8.ofNat c.toNat) (encode text) = (.ok c, 1) := by
        rw [readPiece, hbyte, if_pos hc, Char.ofNat_toNat]
      rw [hencode, pieces, hread]
      simp only [Nat.sub_self, List.drop_zero, List.map_cons]
      rw [ih htext]

/-- Text of ASCII characters is read as it is written. -/
theorem decode_encode_of_ascii {text : Text} (h : text.all (·.toNat < 128) = true) :
    decode (encode text) = .ok text := by
  have hascii : ∀ c ∈ text, c.toNat < 128 := by simpa using h
  rw [decode, pieces_ascii hascii]
  clear h hascii
  induction text with
  | nil => rfl
  | cons c text ih =>
      rw [List.map_cons, List.mapM_cons, ih]
      rfl

end TagLens.Text.Utf8
