import SlideDeck.Markdown.HtmlTag

/-!
What stands at a place of an inline text: a run of plain characters, a line end, an escape, a code
span, a link, an image, an address in angle brackets, raw HTML, or a character reference. The
marks of emphasis are no constructs: they pair up only when the whole text has been read.
-/

namespace SlideDeck.Markdown

/-- A link or image keeps the range of its label. -/
inductive Construct where
  | plain (s : List Char)
  | lineEnd
  | hardBreak
  | escaped (s : String)
  | code (s : String)
  | link (target : Target) (first last : Nat)
  | image (target : Target) (first last : Nat)
  | autolink (target : Target) (shown : String)
  | html (s : String)

/-- What reading an inline text has found out so far: where the construct at a place ends, where a
run of backticks of a given length was last seen, and whether all such runs have been seen. -/
structure Memo where
  ends : Array (Option Nat)
  tickRuns : List (Nat × Nat)
  ticksSeen : Bool

namespace Memo

def start (size : Nat) : Memo := ⟨Array.replicate size none, [], false⟩

def end? (m : Memo) (pos : Nat) : Option Nat := (m.ends[pos]?).join

def setEnd (m : Memo) (pos stop : Nat) : Memo :=
  { m with ends := m.ends.setIfInBounds pos (some stop) }

def setTickRun (m : Memo) (length pos : Nat) : Memo :=
  { m with tickRuns := (length, pos) :: m.tickRuns.filter (·.1 ≠ length) }

end Memo

/-- An inline text with the definitions that its links may refer to. -/
structure Source where
  chars : Array Char
  definitions : Definitions

namespace Source

def slice (src : Source) (first last : Nat) : List Char := (src.chars.extract first last).toList

def is (src : Source) (pos : Nat) (c : Char) : Bool := src.chars[pos]? == some c

/-- The first place from `pos` on, and below `limit`, whose character fails the test. -/
def scanWhile (src : Source) (p : Char → Bool) (limit pos : Nat) : Nat :=
  if pos < limit then
    if (src.chars[pos]?).any p then src.scanWhile p limit (pos + 1) else pos
  else pos
termination_by limit - pos

def skipBlanks (src : Source) (limit pos : Nat) : Nat :=
  src.scanWhile (fun c => isTabOrSpace c || c == '\n') limit pos

/-- Looks for a run of exactly `length` backticks from `pos` on. Runs of other lengths are kept in
the memo, with where they start. -/
def closingTicks (src : Source) (limit length : Nat) (m : Memo) (pos : Nat) :
    Memo × Option (Nat × Nat) :=
  if src.chars.size ≤ pos then ({ m with ticksSeen := true }, none)
  else if src.is pos '\x60' then
    let stop := src.scanWhile (· == '\x60') limit (pos + 1)
    if stop - pos = length then (m, some (pos, stop))
    else if pos < stop then src.closingTicks limit length (m.setTickRun (stop - pos) pos) stop
    else (m, none)
  else src.closingTicks limit length m (pos + 1)
termination_by src.chars.size - pos

/-- The text of a code span: line ends become spaces, and one space at both ends is dropped unless
there is nothing else. -/
def codeText (s : List Char) : List Char :=
  let s := s.map fun c => if c = '\n' then ' ' else c
  if s.head? = some ' ' && s.getLast? = some ' ' && s.any fun c => !Text.isBlank c then
    (s.drop 1).dropLast
  else s

/-- A code span, or the backticks themselves if nothing closes it. -/
def codeSpan (src : Source) (limit : Nat) (m : Memo) (pos : Nat) : Memo × Construct × Nat :=
  let stop := src.scanWhile (· == '\x60') limit (pos + 1)
  let ticks := Construct.plain (src.slice pos stop)
  if m.ticksSeen && (m.tickRuns.lookup (stop - pos)).getD 0 ≤ pos then (m, ticks, stop)
  else match src.closingTicks limit (stop - pos) m stop with
    | (m, some (first, last)) => (m, .code (String.ofList (codeText (src.slice stop first))), last)
    | (m, none) => (m, ticks, stop)

/-- What follows the label of a link: no text at all behind an opening parenthesis, something that
is no destination with title, or a target and its end. -/
inductive Tail where
  | missing
  | unclosed (pos : Nat)
  | closed (target : Target) (stop : Nat)

/-- Reads the parenthesis behind a label; a destination that is not allowed is not read. -/
def tail (src : Source) (limit pos : Nat) : Tail :=
  let pos := src.skipBlanks limit (pos + 1)
  if limit ≤ pos then .missing
  else
    let (target, pos) := match destination? (src.slice pos limit) with
      | none => (⟨"", ""⟩, pos)
      | some (destination, n) =>
        let href := Url.normalize (String.ofList destination)
        if !Url.isAllowed href then (⟨"", ""⟩, pos)
        else
          let apart := src.skipBlanks limit (pos + n)
          match if apart = pos + n then none else title? (src.slice apart limit) with
          | some (title, k) => (⟨href, title⟩, src.skipBlanks limit (apart + k))
          | none => ((⟨href, ""⟩ : Target), apart)
    if pos < limit && src.is pos ')' then .closed target (pos + 1) else .unclosed pos

/-- Finds the closing bracket of the label that starts behind `pos`. -/
abbrev LabelReader := Memo → (pos : Nat) → (nesting : Bool) → Memo × Option Nat

/-- The definition that a link refers to, by the label that may stand at `pos` or else by its own,
and where the link ends. -/
def referred (src : Source) (label : LabelReader) (limit : Nat) (m : Memo)
    (first last pos : Nat) : Memo × Option (Target × Nat) :=
  if src.definitions.isEmpty then (m, none)
  else
    let (m, second, stop) :=
      if pos < limit && src.is pos '[' then
        match label m pos true with
        | (m, some e) => (m, src.slice (pos + 1) e, e + 1)
        | (m, none) => (m, [], last + 1)
      else (m, [], last + 1)
    let key := if second.isEmpty then src.slice first last else second
    (m, (src.definitions.find? key).map (·, stop))

def link (src : Source) (label : LabelReader) (limit : Nat) (m : Memo) (pos : Nat) :
    Memo × Option (Construct × Nat) :=
  match label m pos false with
  | (m, none) => (m, none)
  | (m, some last) =>
    let built := fun (t : Target × Nat) => (Construct.link t.1 (pos + 1) last, t.2)
    let byReference := fun p =>
      let (m, t) := src.referred label limit m (pos + 1) last p
      (m, t.map built)
    if last + 1 < limit && src.is (last + 1) '(' then
      match src.tail limit (last + 1) with
      | .missing => (m, none)
      | .closed target stop => (m, some (built (target, stop)))
      | .unclosed p => byReference (p + 1)
    else byReference (last + 1)

def image (src : Source) (label : LabelReader) (limit : Nat) (m : Memo) (pos : Nat) :
    Memo × Option (Construct × Nat) :=
  if pos + 1 < limit && !src.is (pos + 1) '[' then (m, none)
  else match label m (pos + 1) true with
    | (m, none) => (m, none)
    | (m, some last) =>
      let built := fun (t : Target × Nat) => (Construct.image t.1 (pos + 2) last, t.2)
      if last + 1 < limit && src.is (last + 1) '(' then
        match src.tail limit (last + 1) with
        | .closed target stop => (m, some (built (target, stop)))
        | _ => (m, none)
      else
        let (m, t) := src.referred label limit m (pos + 2) last (last + 1)
        (m, t.map built)

def isUri (s : List Char) : Bool :=
  let scheme := s.takeWhile (· ≠ ':')
  match scheme, s.drop scheme.length with
  | c :: cs, ':' :: rest =>
    c.isAlpha && 1 ≤ cs.length && cs.length ≤ 31 &&
      cs.all (fun c => c.isAlphanum || c == '+' || c == '.' || c == '-') &&
      rest.all fun c => 32 < c.toNat && c != '<' && c != '>'
  | _, _ => false

def isMailbox (s : List Char) : Bool :=
  let user := s.takeWhile (· ≠ '@')
  match s.drop user.length with
  | '@' :: domain =>
    !user.isEmpty && (user.all fun c =>
      c.isAlphanum || ".!#$%&'*+/=?^_\x60\x7b|\x7d~-".toList.contains c) &&
    (Text.splitOn '.' domain).all fun label =>
      label.length ≤ 63 && (label.all fun c => c.isAlphanum || c == '-') &&
        label.head?.any (·.isAlphanum) && label.getLast?.any (·.isAlphanum)
  | _ => false

/-- An address between angle brackets; one line end before the closing bracket does not count. -/
def autolink? (src : Source) (limit pos : Nat) : Option (Construct × Nat) :=
  let stop := src.scanWhile (fun c => c != '<' && c != '>') limit (pos + 1)
  if stop < limit && src.is stop '>' then
    let inner := src.slice (pos + 1) stop
    let address := if inner.getLast? = some '\n' then inner.dropLast else inner
    let shown := String.ofList inner
    let href? := if isUri address then some (Url.normalize shown)
      else if isMailbox address then some (Url.normalize ("mailto:" ++ shown)) else none
    href?.bind fun href =>
      if Url.isAllowed href then some (.autolink ⟨href, ""⟩ (Url.shown shown), stop + 1) else none
  else none

def html? (src : Source) (limit pos : Nat) : Option (Construct × Nat) :=
  if limit ≤ pos + 2 then none
  else
    let text := src.slice pos src.chars.size
    (Html.tag? text).map fun n => (.html (String.ofList (text.take n)), pos + n)

/-- Characters at which something other than plain text may start. -/
def isSpecial (c : Char) : Bool :=
  c == '\n' || "!#$%&*+-:<=>@[\\]^_\x60\x7b\x7d~".toList.contains c

/-- The construct at a place, and where it ends. -/
def construct? (src : Source) (label : LabelReader) (limit : Nat) (m : Memo) (pos : Nat) :
    Memo × Option (Construct × Nat) :=
  match src.chars[pos]? with
  | none => (m, none)
  | some c =>
    if !isSpecial c then
      let stop := src.scanWhile (!isSpecial ·) limit (pos + 1)
      (m, some (.plain (src.slice pos stop), stop))
    else match c with
      | '\n' => (m, some (.lineEnd, src.scanWhile isTabOrSpace limit (pos + 1)))
      | '\\' =>
        if limit ≤ pos + 1 then (m, none)
        else match src.chars[pos + 1]? with
          | none => (m, none)
          | some '\n' => (m, some (.hardBreak, src.scanWhile isTabOrSpace limit (pos + 2)))
          | some e =>
            let shown := if Text.isAsciiMark e then [e] else ['\\', e]
            (m, some (.escaped (String.ofList shown), pos + 2))
      | '\x60' =>
        let (m, found, stop) := src.codeSpan limit m pos
        (m, some (found, stop))
      | '[' => src.link label limit m pos
      | '!' => src.image label limit m pos
      | '<' => (m, (src.autolink? limit pos).or (src.html? limit pos))
      | '&' =>
        if limit ≤ pos + 1 then (m, none)
        else
          let found := reference? (src.slice (pos + 1) (pos + 35))
          (m, found.map fun (s, n) => (.escaped s, pos + 1 + n))
      | _ => (m, none)

end Source

end SlideDeck.Markdown
