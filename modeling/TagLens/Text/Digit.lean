import TagLens.Text.Blank

/-!
# Digits

Decimal digits of every script have the values zero to nine, and each script's digits stand in
a row, so a table of the zeros is enough. `parseInteger?` reads an integer written with them.
Hexadecimal digits are ASCII only.
-/

namespace TagLens.Text

/-- The digit zero of every script that has decimal digits (Unicode 14). -/
def digitZeros : List Nat :=
  [ 0x30, 0x660, 0x6f0, 0x7c0, 0x966, 0x9e6, 0xa66, 0xae6, 0xb66, 0xbe6, 0xc66, 0xce6, 0xd66,
    0xde6, 0xe50, 0xed0, 0xf20, 0x1040, 0x1090, 0x17e0, 0x1810, 0x1946, 0x19d0, 0x1a80, 0x1a90,
    0x1b50, 0x1bb0, 0x1c40, 0x1c50, 0xa620, 0xa8d0, 0xa900, 0xa9d0, 0xa9f0, 0xaa50, 0xabf0,
    0xff10, 0x104a0, 0x10d30, 0x11066, 0x110f0, 0x11136, 0x111d0, 0x112f0, 0x11450, 0x114d0,
    0x11650, 0x116c0, 0x11730, 0x118e0, 0x11950, 0x11c50, 0x11d50, 0x11da0, 0x16a60, 0x16ac0,
    0x16b50, 0x1d7ce, 0x1d7d8, 0x1d7e2, 0x1d7ec, 0x1d7f6, 0x1e140, 0x1e2f0, 0x1e950, 0x1fbf0]

/-- The value of a decimal digit. -/
def digitValue? (c : Char) : Option Nat :=
  (digitZeros.find? fun least => least ≤ c.toNat && c.toNat < least + 10).map (c.toNat - ·)

/-- The value of a hexadecimal digit. -/
def hexValue? (c : Char) : Option Nat :=
  if '0' ≤ c ∧ c ≤ '9' then some (c.toNat - '0'.toNat)
  else if 'a' ≤ c ∧ c ≤ 'f' then some (c.toNat - 'a'.toNat + 10)
  else if 'A' ≤ c ∧ c ≤ 'F' then some (c.toNat - 'A'.toNat + 10)
  else none

/-- Is the character a decimal digit of some script? -/
def isDecimalDigit (c : Char) : Bool := (digitValue? c).isSome

/-- The values of a run of digits in which single underscores may stand between two digits. -/
def digitRun? : Text → Option (List Nat)
  | [] => none
  | [c] => (digitValue? c).map ([·])
  | c :: '_' :: rest =>
    match digitValue? c, digitRun? rest with
    | some d, some ds => some (d :: ds)
    | _, _ => none
  | c :: rest =>
    match digitValue? c, digitRun? rest with
    | some d, some ds => some (d :: ds)
    | _, _ => none

/-- The number with the given decimal digits, most significant first. -/
def ofDigits (digits : List Nat) : Nat := digits.foldl (fun n d => 10 * n + d) 0

/-- Decimal digits of an integer are read and written up to this many. -/
def maxIntegerDigits : Nat := 4300

/-- An integer with too many decimal digits. -/
inductive Overlong where
  /-- It was to be read, and has this many digits. -/
  | reading (digits : Nat)
  /-- It was to be written. -/
  | writing
  deriving DecidableEq, Repr

/-- The fault in words. -/
def Overlong.message (overlong : Overlong) : String :=
  let count := match overlong with
    | .reading digits => ": value has " ++ toString digits ++ " digits"
    | .writing => ""
  "Exceeds the limit (" ++ toString maxIntegerDigits ++ " digits) for integer string conversion"
    ++ count ++ "; use sys.set_int_max_str_digits() to increase the limit"

/-- Can the integer be written with decimal digits? -/
def isWritable (n : Int) : Bool := n.natAbs < Nat.pow 10 maxIntegerDigits

/-- Read an integer: blank space around it, an optional sign, and a run of digits. -/
def parseInteger? (text : Text) : Option Int :=
  let magnitude? (t : Text) : Option Nat :=
    match digitRun? t with
    | some ds => if ds.length ≤ maxIntegerDigits then some (ofDigits ds) else none
    | none => none
  match trimBy isBlankAroundNumber text with
  | '-' :: t => (magnitude? t).map fun n => -(n : Int)
  | '+' :: t => (magnitude? t).map Int.ofNat
  | t => (magnitude? t).map Int.ofNat

example : parseInteger? " -1_0 ".toList = some (-10) := by decide +kernel
example : parseInteger? "1__0".toList = none := by decide +kernel

end TagLens.Text
