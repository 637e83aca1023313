import TagLens.Text.Digit
import TagLens.Text.Utf8
import TagLens.Text.LowerCase
import TagLens.Text.Quoted
import TagLens.Location.Path

/-!
# Resource identifiers

The part of URI handling that the library needs: the file-system path that a URI names, and
the URI of a file. A URI is split into scheme, authority and path; parameters, query and
fragment are dropped, and the parts are percent-decoded. Only the authority can make a URI
malformed. Nothing depends on this particular `reading` of URIs; it is one that can be used.
-/

namespace TagLens.Location

namespace Uri

open Text (hexValue?)

/-! ### Percent coding -/

/-- The bytes that an ASCII text stands for; a percent sign without two hexadecimal digits
stands for itself. -/
def escapedBytes : Text → List UInt8
  | [] => []
  | '%' :: a :: b :: rest =>
    match hexValue? a, hexValue? b with
    | some x, some y => UInt8.ofNat (16 * x + y) :: escapedBytes rest
    | _, _ => '%'.toNat.toUInt8 :: escapedBytes (a :: b :: rest)
  | c :: rest => c.toNat.toUInt8 :: escapedBytes rest

/-- Is the character ASCII? -/
def isAscii (c : Char) : Bool := c.toNat < 0x80

/-- Percent-decode a text. The runs of ASCII characters are decoded one by one; what lies
between them stays as it is. -/
def decode (text : Text) : Text :=
  match text with
  | [] => []
  | c :: rest =>
    if isAscii c then
      Text.Utf8.decodeLossy (escapedBytes (c :: rest.takeWhile isAscii))
        ++ decode (rest.dropWhile isAscii)
    else c :: decode rest
termination_by text.length
decreasing_by
  · have := Text.length_dropWhile_le isAscii rest
    simp only [List.length_cons]
    omega
  · simp

/-- A byte that stands for itself in a file URI. -/
def isUnreserved (b : UInt8) : Bool :=
  let c := Char.ofNat b.toNat
  b.toNat < 0x80 && (c.isAlphanum || c == '_' || c == '.' || c == '-' || c == '~' || c == '/')

/-- A byte as it is written in a file URI. -/
def encodeByte (b : UInt8) : Text :=
  if isUnreserved b then [Char.ofNat b.toNat]
  else
    let digits := (Nat.toDigits 16 b.toNat).map Char.toUpper
    '%' :: (List.replicate (2 - digits.length) '0' ++ digits)

/-- The URI of a file. -/
def ofPath (path : Path) : String :=
  "file://" ++ String.ofList ((Text.Utf8.encode path.render.toList).flatMap encodeByte)

/-! ### Splitting -/

/-- The text before and after the first character that satisfies `p`; nothing stands after it
if there is none. -/
def cutAt (p : Char → Bool) (text : Text) : Text × Text :=
  (text.takeWhile fun c => !p c, (text.dropWhile fun c => !p c).drop 1)

/-- May the character stand in a scheme? -/
def isSchemeChar (c : Char) : Bool := c.isAlphanum || c == '+' || c == '-' || c == '.'

/-- The scheme in lower case, and the rest. Without a well-formed scheme it is empty. -/
def splitScheme (text : Text) : Text × Text :=
  let (scheme, rest) := cutAt (· == ':') text
  let wellFormed := List.elem ':' text && scheme.all isSchemeChar &&
    (match scheme with
      | c :: _ => c.isAlpha
      | [] => false)
  if wellFormed then (scheme.map Char.toLower, rest) else ([], text)

/-- The authority after two slashes, and the rest. -/
def splitAuthority : Text → Text × Text
  | '/' :: '/' :: rest =>
    let ends (c : Char) : Bool := c == '/' || c == '?' || c == '#'
    (rest.takeWhile fun c => !ends c, rest.dropWhile fun c => !ends c)
  | text => ([], text)

/-- Schemes whose last path segment may carry parameters after a semicolon. -/
def schemesWithParameters : List String :=
  ["", "ftp", "hdl", "prospero", "http", "imap", "https", "shttp", "rtsp", "rtspu", "sip", "sips",
    "mms", "sftp", "tel"]

/-- Drop the parameters of the last path segment. -/
def dropParameters (path : Text) : Text :=
  let reversed := path.reverse
  let segment := (reversed.takeWhile (· != '/')).reverse
  (reversed.dropWhile (· != '/')).reverse ++ segment.takeWhile (· != ';')

/-! ### Authorities -/

/-- Characters whose compatibility form holds a delimiter of a URI. -/
def hidesDelimiter : List Nat :=
  [0x2047, 0x2048, 0x2049, 0x2100, 0x2101, 0x2105, 0x2106, 0x2a74, 0xfe13, 0xfe16, 0xfe55,
    0xfe56, 0xfe5f, 0xfe6b, 0xff03, 0xff0f, 0xff1a, 0xff1f, 0xff20]

/-- A decimal number from 0 to 255 without a leading zero. -/
def isOctet (text : Text) : Bool :=
  !text.isEmpty && text.length ≤ 3 && text.all Char.isDigit
    && (text.length == 1 || text.head? != some '0')
    && text.foldl (fun n c => 10 * n + (c.toNat - '0'.toNat)) 0 ≤ 255

/-- Four octets with dots between them. -/
def isIPv4 (text : Text) : Bool :=
  let parts := Text.split '.' text
  parts.length == 4 && parts.all isOctet

/-- One to four hexadecimal digits. -/
def isHextet (text : Text) : Bool :=
  !text.isEmpty && text.length ≤ 4 && text.all fun c => (hexValue? c).isSome

/-- The groups of an address with a trailing dotted part counted as two groups. -/
def addressGroups? (text : Text) : Option (List Text) :=
  let parts := Text.split ':' text
  match parts.getLast? with
  | some final =>
    if List.elem '.' final then
      if isIPv4 final then some (parts.dropLast ++ [['0'], ['0']]) else none
    else some parts
  | none => none

/-- Eight groups of hexadecimal digits, where one run of zero groups may be left out. A zone
may follow a percent sign. -/
def isIPv6 (text : Text) : Bool :=
  let (address, zone) := cutAt (· == '%') text
  let zoneOk := !List.elem '%' text || (!zone.isEmpty && !List.elem '%' zone)
  zoneOk && 2 ≤ address.count ':' &&
    match addressGroups? address with
    | none => false
    | some groups =>
      let inner := (groups.drop 1).dropLast
      let gaps := inner.countP (·.isEmpty)
      let leads := groups.head? == some []
      let trails := groups.getLast? == some []
      let filled := groups.filter fun group => !group.isEmpty
      filled.all isHextet && groups.length ≤ 9 &&
        if gaps == 0 then
          groups.length == 8 && !leads && !trails
        else
          gaps == 1 && (!leads || groups[1]? == some []) &&
            (!trails || groups[groups.length - 2]? == some []) &&
            filled.length ≤ 7

/-- A versioned address: the letter `v`, hexadecimal digits, a dot and anything on one line. -/
def isVersionedAddress : Text → Bool
  | 'v' :: rest =>
    let (version, address) := cutAt (· == '.') rest
    List.elem '.' rest && !version.isEmpty && version.all (fun c => (hexValue? c).isSome)
      && !address.isEmpty && !List.elem '\n' address
  | _ => false

/-- What can be wrong with an authority. -/
inductive AuthorityFault where
  /-- Brackets that do not stand around the whole host. -/
  | strayBracket
  | badVersionedAddress
  | bracketedIPv4
  | notAddress (host : Text)
  /-- A character whose compatibility form holds a delimiter. -/
  | hiddenDelimiter (authority : Text)
  deriving DecidableEq, Repr

/-- The fault in words. -/
def AuthorityFault.message : AuthorityFault → String
  | .strayBracket => "Invalid IPv6 URL"
  | .badVersionedAddress => "IPvFuture address is invalid"
  | .bracketedIPv4 => "An IPv4 address cannot be in brackets"
  | .notAddress host =>
    Text.quotedString (String.ofList host) ++ " does not appear to be an IPv4 or IPv6 address"
  | .hiddenDelimiter authority =>
    "netloc '" ++ String.ofList authority
      ++ "' contains invalid characters under NFKC normalization"

/-- What is wrong with a host that has to be an address. -/
def addressFault? (host : Text) : Option AuthorityFault :=
  if host.head? == some 'v' then
    if isVersionedAddress host then none else some .badVersionedAddress
  else if isIPv4 host then some .bracketedIPv4
  else if isIPv6 host then none
  else some (.notAddress host)

/-- What stands behind the last at sign. -/
def afterUser (authority : Text) : Text :=
  (authority.reverse.takeWhile (· != '@')).reverse

/-- What is wrong with an authority that holds brackets of both kinds. They have to stand around
the host, which has to be an address; only a port may follow them. Brackets in front of an at
sign are no excuse for a host that is no address. -/
def bracketFault? (authority : Text) : Option AuthorityFault :=
  let place := afterUser authority
  if List.elem '[' place then
    let (before, bracketed) := cutAt (· == '[') place
    let (host, port) := cutAt (· == ']') bracketed
    if !before.isEmpty || !(port.isEmpty || port.head? == some ':') then some .strayBracket
    else addressFault? host
  else addressFault? (cutAt (· == ':') place).1

/-- What is wrong with an authority. Its brackets have to come in a pair around a proper
address, and no character may hide a delimiter. -/
def authorityFault? (authority : Text) : Option AuthorityFault :=
  let opens := List.elem '[' authority
  let closes := List.elem ']' authority
  let bracketed : Option AuthorityFault :=
    if opens != closes then some .strayBracket
    else if opens then bracketFault? authority
    else none
  let hidden : Option AuthorityFault :=
    if authority.any fun c => hidesDelimiter.elem c.toNat then some (.hiddenDelimiter authority)
    else none
  bracketed.or hidden

/-! ### The path that a URI names -/

/-- A drive letter after a slash. -/
def driveLetter? : Text → Option Text
  | '/' :: c :: ':' :: rest => if c.isAlpha then some (c.toLower :: ':' :: rest) else none
  | _ => none

/-- Characters dropped in front of a URI: the space and everything before it. -/
def isLeading (c : Char) : Bool := c.toNat ≤ 0x20

/-- Characters dropped everywhere in a URI. -/
def isRemoved (c : Char) : Bool := c == '\t' || c == '\r' || c == '\n'

/-- The text of the path that a URI names, unless the authority is malformed. -/
def pathText (uri : String) : Except AuthorityFault String :=
  let text := (uri.toList.dropWhile isLeading).filter fun c => !isRemoved c
  let (scheme, afterScheme) := splitScheme text
  let (authority, rest) := splitAuthority afterScheme
  match authorityFault? authority with
  | some fault => .error fault
  | none =>
    let raw := rest.takeWhile fun c => c != '#' && c != '?'
    let hasParameters := schemesWithParameters.elem (String.ofList scheme)
    let path := decode (if hasParameters then dropParameters raw else raw)
    let authority := decode authority
    if !authority.isEmpty && !path.isEmpty && scheme == "file".toList then
      .ok ("//" ++ String.ofList (authority ++ path))
    else
      .ok (String.ofList ((driveLetter? path).getD path))

/-- The reading of URIs as file-system paths. -/
def reading : UriReading := fun uri => (pathText uri).mapError (·.message)

end Uri
end TagLens.Location
