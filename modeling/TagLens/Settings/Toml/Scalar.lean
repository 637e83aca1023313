import TagLens.Settings.Value
import TagLens.Settings.Toml.Basic

/-!
# Configuration files: numbers and moments

Integers in four bases, decimal numbers with a fraction or an exponent, the special numbers,
and dates and times. A moment that is written like one but does not exist, such as the
thirtieth of February, is a fault, and so is a decimal integer with too many digits.
-/

namespace TagLens.Settings.Toml

open Text (hexValue?)

/-! ### Numbers -/

/-- How many characters a run of digits takes, where single underscores may stand between two
digits. -/
def digitsLength (isDigit : Char → Bool) : Text → Nat
  | [] => 0
  | [c] => if isDigit c then 1 else 0
  | c :: d :: rest =>
    if !isDigit c then 0
    else if d == '_' then
      match rest with
      | e :: _ => if isDigit e then 2 + digitsLength isDigit rest else 1
      | [] => 1
    else 1 + digitsLength isDigit (d :: rest)

/-- The number that hexadecimal digits (and with them all smaller digits) stand for. -/
def ofDigits (base : Nat) (digits : Text) : Nat :=
  digits.foldl (fun n c => match hexValue? c with
    | some d => base * n + d
    | none => n) 0

/-- A whole number in base two, eight or sixteen, after its leading zero. -/
def readBased? : Text → Option (Nat × Text)
  | mark :: rest =>
    let based (base : Nat) (isDigit : Char → Bool) : Option (Nat × Text) :=
      let n := digitsLength isDigit rest
      if n == 0 then none else some (ofDigits base (rest.take n), rest.drop n)
    if mark == 'x' then based 16 fun c => (hexValue? c).isSome
    else if mark == 'b' then based 2 fun c => c == '0' || c == '1'
    else if mark == 'o' then based 8 fun c => '0' ≤ c && c ≤ '7'
    else none
  | [] => none

/-- How many characters the whole part of a decimal number takes; a leading zero stands
alone. -/
def wholeLength : Text → Nat
  | '0' :: _ => 1
  | text => digitsLength Char.isDigit text

/-- How many characters the decimal places take, their point included. -/
def placesLength : Text → Nat
  | '.' :: rest =>
    let n := digitsLength Char.isDigit rest
    if n == 0 then 0 else n + 1
  | _ => 0

/-- How many characters the exponent takes, its mark included. -/
def exponentLength : Text → Nat
  | mark :: rest =>
    if mark == 'e' || mark == 'E' then
      let sign := match rest with
        | c :: _ => if c == '+' || c == '-' then 1 else 0
        | [] => 0
      let n := digitsLength Char.isDigit (rest.drop sign)
      if n == 0 then 0 else n + sign + 1
    else 0
  | [] => 0

/-- Is the sign of a number a minus? -/
def isNegative : Text → Bool
  | '-' :: _ => true
  | _ => false

/-- Drop the sign of a number. -/
def dropSign : Text → Text
  | '-' :: rest => rest
  | '+' :: rest => rest
  | text => text

/-- A decimal number: a whole number unless it has places or an exponent. -/
def readDecimal? (text : Text) : Option (Except Fault (Value × Text)) :=
  let negative := isNegative text
  let unsigned := dropSign text
  let whole := wholeLength unsigned
  if whole == 0 then none
  else
    let afterWhole := unsigned.drop whole
    let places := placesLength afterWhole
    let afterPlaces := afterWhole.drop places
    let exponent := exponentLength afterPlaces
    let rest := afterPlaces.drop exponent
    let wholeDigits := (unsigned.take whole).filter Char.isDigit
    if places == 0 && exponent == 0 then
      let n : Int := ofDigits 10 wholeDigits
      some <|
        if Text.maxIntegerDigits < wholeDigits.length then
          .error (.overlongInteger (.reading wholeDigits.length))
        else .ok (.integer (if negative then -n else n), rest)
    else
      let placeDigits := (afterWhole.take places).filter Char.isDigit
      let exponentText := (afterPlaces.take exponent).drop 1
      let power : Int := ofDigits 10 exponentText
      let power := if isNegative exponentText then -power else power
      some (.ok (.real (.ofDecimal negative (ofDigits 10 (wholeDigits ++ placeDigits))
        (power - placeDigits.length)), rest))

/-- A number of any kind. -/
def readNumber? (text : Text) : Option (Except Fault (Value × Text)) :=
  let based : Option (Except Fault (Value × Text)) := match text with
    | '0' :: rest => (readBased? rest).map fun found => .ok (.integer found.1, found.2)
    | _ => none
  based.or (readDecimal? text)

/-- Infinity and the undefined number, with an optional sign. -/
def readSpecial? (text : Text) : Option (Value × Text) :=
  let unsigned := dropSign text
  if "inf".toList.isPrefixOf unsigned then
    some (.real (.infinite (isNegative text)), unsigned.drop 3)
  else if "nan".toList.isPrefixOf unsigned then some (.real .nan, unsigned.drop 3)
  else none

/-- The number that the first `width` characters give, if they are digits. -/
def readFixed? (width : Nat) (text : Text) : Option (Nat × Text) :=
  let digits := text.take width
  if digits.length == width && digits.all Char.isDigit then
    some (ofDigits 10 digits, text.drop width)
  else none

/-- Drop one expected character. -/
def expect? (c : Char) : Text → Option Text
  | d :: rest => if c == d then some rest else none
  | [] => none

/-- A number of two digits within bounds. -/
def readBounded? (least greatest : Nat) (text : Text) : Option (Nat × Text) := do
  let (n, rest) ← readFixed? 2 text
  if least ≤ n && n ≤ greatest then some (n, rest) else none

/-- A fraction of a second in microseconds; further digits are dropped. -/
def readFraction (text : Text) : Nat × Text :=
  match text with
  | '.' :: rest =>
    let digits := rest.takeWhile Char.isDigit
    if digits.isEmpty then (0, text)
    else
      let kept := digits.take 6
      (ofDigits 10 (kept ++ List.replicate (6 - kept.length) '0'), rest.drop digits.length)
  | _ => (0, text)

/-- A time of day. -/
def readTime? (text : Text) : Option (TimeOfDay × Text) := do
  let (hour, rest) ← readBounded? 0 23 text
  let (minute, rest) ← readBounded? 0 59 (← expect? ':' rest)
  let (second, rest) ← readBounded? 0 59 (← expect? ':' rest)
  let (microsecond, rest) := readFraction rest
  some (⟨hour, minute, second, microsecond⟩, rest)

/-- A calendar date; whether the day exists is not looked at. -/
def readDate? (text : Text) : Option (Date × Text) := do
  let (year, rest) ← readFixed? 4 text
  let (month, rest) ← readBounded? 1 12 (← expect? '-' rest)
  let (day, rest) ← readBounded? 1 31 (← expect? '-' rest)
  some (⟨year, month, day⟩, rest)

/-- A distance from universal time in minutes. -/
def readOffset? (text : Text) : Option (Int × Text) :=
  match text with
  | [] => none
  | c :: rest =>
    if c == 'Z' || c == 'z' then some (0, rest)
    else if c == '+' || c == '-' then do
      let (hour, rest) ← readBounded? 0 23 rest
      let (minute, rest) ← readBounded? 0 59 (← expect? ':' rest)
      let minutes : Int := 60 * hour + minute
      some (if c == '-' then -minutes else minutes, rest)
    else none

/-- A date, perhaps with a time of day and a distance from universal time. -/
def readDateTime? (text : Text) : Option (Date × Option (TimeOfDay × Option Int) × Text) := do
  let (date, rest) ← readDate? text
  let time? : Option (TimeOfDay × Text) :=
    match rest with
    | c :: after => if c == 'T' || c == 't' || c == ' ' then readTime? after else none
    | [] => none
  match time? with
  | none => some (date, none, rest)
  | some (time, after) =>
    match readOffset? after with
    | some (offset, final) => some (date, some (time, some offset), final)
    | none => some (date, some (time, none), after)

/-- A date or time, if there is one at the head of the text. -/
def readMoment? (text : Text) : Option (Except Fault (Value × Text)) :=
  match readDateTime? text with
  | some (date, time?, rest) =>
    some <|
      if !date.isValid then .error .invalidMoment
      else
        match time? with
        | none => .ok (.moment (.date date), rest)
        | some (time, offset) => .ok (.moment (.dateTime date time offset), rest)
  | none => (readTime? text).map fun (time, rest) => .ok (.moment (.time time), rest)

end TagLens.Settings.Toml
