import SlideDeck.Text.Blank
import SlideDeck.Text.Case
import SlideDeck.Text.Lines
import SlideDeck.Url.Percent
import SlideDeck.Url.Punycode

/-!
Addresses of links and images: their parts, the normal form in which they are stored (host names
of other scripts in Punycode, all else percent-encoded), the form in which they are shown, and
the schemes that are refused.
-/

namespace SlideDeck.Url

/-- The parts of an address. A missing part and an empty one are written alike. -/
structure Address where
  scheme : List Char := []
  slashes : Bool := false
  user : List Char := []
  host : List Char := []
  port : List Char := []
  rest : List Char := []

/-- Letters that may stand in a scheme, the case variants of ASCII letters included. -/
def isSchemeChar (c : Char) : Bool :=
  c.isAlphanum || c == '.' || c == '+' || c == '-' || c == 'İ' || c == 'ı' || c == 'ſ' ||
    c == '\u212a'

/-- Splits off a scheme with its colon. -/
def splitScheme (s : List Char) : List Char × List Char :=
  match s.takeWhile isSchemeChar, s.dropWhile isSchemeChar with
  | c :: cs, ':' :: rest => (c :: cs ++ [':'], rest)
  | _, _ => ([], s)

/-- The schemes whose host, if any, follows two slashes. -/
def slashedSchemes : List (List Char) :=
  ["http:", "https:", "ftp:", "gopher:", "file:"].map String.toList

def endsHost (c : Char) : Bool := c == '/' || c == '?' || c == '#'

/-- Characters that cannot stand in a host name. -/
def notInHost (c : Char) : Bool :=
  "%/?;#'\x7b\x7d|\\^\x60<>\" \r\n\t".toList.contains c

/-- Splits off what stands before the last `@` that is not behind the end of the host. -/
def splitUser (s : List Char) : List Char × List Char :=
  let authority := s.takeWhile fun c => !endsHost c
  let tail := authority.reverse.takeWhile (· ≠ '@')
  if tail.length = authority.length then ([], s)
  else
    let user := authority.take (authority.length - tail.length - 1)
    (user, s.drop (user.length + 1))

/-- Splits off a port at the end of a host; a colon alone is dropped. -/
def splitPort (s : List Char) : List Char × List Char :=
  let digits := (s.reverse.takeWhile Char.isDigit).reverse
  match s.reverse.drop digits.length with
  | ':' :: host => (host.reverse, digits)
  | _ => (s, [])

def isHostChar (c : Char) : Bool := c == '+' || c == '-' || c == '_' || c.isAlphanum

/-- Whether a label is well formed, characters of other scripts counting as letters. -/
def isHostLabel (s : List Char) : Bool :=
  s.length ≤ 63 && s.all fun c => isHostChar c || 127 < c.toNat

/-- Splits the labels of a host at the first one that is malformed: the part of it that is well
formed and plain stays, and the rest belongs to the path. -/
def cutHost : List (List Char) → List (List Char) × Option (List (List Char))
  | [] => ([], none)
  | label :: labels =>
    if isHostLabel label then
      let (kept, cut) := cutHost labels
      (label :: kept, cut)
    else
      let n := ((label.take 63).takeWhile isHostChar).length
      ([label.take n], some (label.drop n :: labels))

/-- Reads the host with its port; the result ends with the text behind them. -/
def splitHost (s : List Char) : List Char × List Char × List Char :=
  let raw := s.takeWhile fun c => !notInHost c
  let raw := if raw.getLast? = some ':' then raw.dropLast else raw
  let rest := s.drop raw.length
  let (host, port) := splitPort raw
  let bracketed := host.head? = some '[' && host.getLast? = some ']'
  if bracketed then (if host.length ≤ 255 then (host.drop 1).dropLast else [], port, rest)
  else
    let (kept, cut) := cutHost (Text.splitOn '.' host)
    let rest := match cut with
      | some labels => Text.joinWith ['.'] labels ++ rest
      | none => rest
    let host := Text.joinWith ['.'] kept
    (if host.length ≤ 255 then host else [], port, rest)

namespace Address

def parse (s : List Char) : Address :=
  let (scheme, rest) := splitScheme (Text.trim s)
  let hostless := scheme == "javascript:".toList
  let startsSlashed := rest.take 2 == ['/', '/']
  let slashes := startsSlashed && !hostless
  let rest := if slashes then rest.drop 2 else rest
  if !hostless && (startsSlashed || (!scheme.isEmpty && !slashedSchemes.contains scheme)) then
    let (user, rest) := splitUser rest
    let (host, port, rest) := splitHost rest
    { scheme, slashes, user, host, port, rest }
  else { scheme, slashes, rest }

def format (a : Address) : List Char :=
  a.scheme ++ (if a.slashes then ['/', '/'] else []) ++
    (if a.user.isEmpty then [] else a.user ++ ['@']) ++
    (if a.host.contains ':' then '[' :: a.host ++ [']'] else a.host) ++
    (if a.port.isEmpty then [] else ':' :: a.port) ++ a.rest

/-- Whether the host is a name of the domain name system. -/
def hasDomain (a : Address) : Bool :=
  !a.host.isEmpty && (a.scheme.isEmpty ||
    (["http:", "https:", "mailto:"].map String.toList).contains a.scheme)

/-- Applies a function to the labels of a host name, which end at a full stop of any script. -/
def mapLabels (f : List Char → Option (List Char)) (host : List Char) : Option (List Char) := do
  let (user, domain) := match Text.splitOn '@' host with
    | user :: domain :: _ => (user ++ ['@'], domain)
    | _ => ([], host)
  let stop c := if c = '\u3002' || c = '\uff0e' || c = '\uff61' then '.' else c
  let labels ← (Text.splitOn '.' (domain.map stop)).mapM f
  return user ++ Text.joinWith ['.'] labels

def asciiLabel (s : List Char) : List Char :=
  if s.any fun c => 126 < c.toNat then "xn--".toList ++ Punycode.encode s else s

def shownLabel (s : List Char) : Option (List Char) :=
  if s.take 4 == "xn--".toList then Punycode.decode? (Text.lower (s.drop 4)) else some s

end Address

/-- The form in which an address is stored. -/
def normalize (s : String) : String :=
  let a := Address.parse s.toList
  let host := if a.hasDomain then
    (Address.mapLabels (fun l => some (Address.asciiLabel l)) a.host).getD a.host else a.host
  String.ofList (encode { a with host }.format)

/-- The form in which an address is shown. -/
def shown (s : String) : String :=
  let a := Address.parse s.toList
  let host := if a.hasDomain then (Address.mapLabels Address.shownLabel a.host).getD a.host
    else a.host
  String.ofList (decode { a with host }.format)

/-- The image types whose data may stand in an address. -/
def imageTypes : List (List Char) := ["gif;", "png;", "jpeg;", "webp;"].map String.toList

/-- Refuses the schemes that run scripts or reach into the file system, and data that is no
picture. -/
def isAllowed (s : String) : Bool :=
  let s := Text.lower (Text.trim s.toList)
  let starts (t : String) := t.toList.isPrefixOf s
  if starts "data:" then
    starts "data:image/" && imageTypes.any fun t => t.isPrefixOf (s.drop 11)
  else !(starts "vbscript:" || starts "javascript:" || starts "file:")

end SlideDeck.Url
