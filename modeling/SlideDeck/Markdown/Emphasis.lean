import SlideDeck.Markdown.Inline
import SlideDeck.Markdown.Flanking

/-!
Emphasis, strong emphasis and strikethrough. A scan of the source leaves a row of pieces, among
them single marks; `pairMarks` finds the partner of each mark, and `Piece.resolve` nests what
stands between partners. Marks without a partner stay in the text.
-/

namespace SlideDeck.Markdown

/-- A mark that may open or close a span. A strikethrough mark is a pair of tildes and has run
length zero, which frees it from the rule about multiples of three. -/
structure Mark where
  symbol : Char
  run : Nat
  opens : Bool
  closes : Bool
deriving DecidableEq, Repr, Inhabited

inductive Piece where
  | text (s : String)
  | mark (m : Mark)
  | node (n : Inline)

def Mark.shown (m : Mark) : String :=
  if m.symbol = '~' then "~~" else String.ofList [m.symbol]

/-- A mark with its place in the row of pieces and, once it is an opener with a closer, the place
of that closer in the list of marks. -/
structure Delimiter where
  mark : Mark
  place : Nat
  closer : Option Nat
deriving Repr, Inhabited

/-- Two runs of marks that can both open and close may not pair if their lengths add up to a
multiple of three, unless both are such multiples. -/
def lengthsClash (opener closer : Mark) : Bool :=
  (opener.closes || closer.opens) && (opener.run + closer.run) % 3 == 0 &&
    (opener.run % 3 != 0 || closer.run % 3 != 0)

/-- The state of the search for partners. `jumps` tells how many marks before a given one can be
passed over. `floors` keeps, for each kind of closer, the place below which no opener was found. -/
structure Pairing where
  marks : Array Delimiter
  jumps : Array Nat
  header : Nat
  lastPlace : Option Nat
  floors : List ((Char × Nat) × Nat)

namespace Pairing

/-- Searches backwards for an opener; `k` is one more than the place looked at. -/
def findOpener (p : Pairing) (closer : Mark) (floor : Nat) : Nat → Option Nat
  | 0 => none
  | k + 1 =>
    if k + 1 ≤ floor then none
    else
      let o := p.marks[k]!
      if o.mark.symbol == closer.symbol && o.mark.opens && o.closer.isNone &&
          !lengthsClash o.mark closer then some k
      else p.findOpener closer floor (k - p.jumps[k]!)
termination_by k => k
decreasing_by omega

def floorKey (m : Mark) : Char × Nat := (m.symbol, (if m.opens then 3 else 0) + m.run % 3)

/-- Treats the mark at place `i` as a closer. -/
def step (p : Pairing) (i : Nat) : Pairing :=
  let closer := p.marks[i]!
  let sameRun := p.marks[p.header]!.mark.symbol == closer.mark.symbol &&
    p.lastPlace.any fun q => q + 1 == closer.place
  let p := { p with
    jumps := p.jumps.push 0
    header := if sameRun then p.header else i
    lastPlace := some closer.place }
  if !closer.mark.closes then p
  else
    let key := floorKey closer.mark
    let floor := (p.floors.lookup key).getD 0
    let top := p.header - p.jumps[p.header]!
    match p.findOpener closer.mark floor top with
    | some k =>
      let jump := if k > 0 && !p.marks[k - 1]!.mark.opens then p.jumps[k - 1]! + 1 else 0
      let opener := p.marks[k]!
      { p with
        jumps := (p.jumps.set! i (i - k + jump)).set! k jump
        marks := (p.marks.set! i { closer with mark := { closer.mark with opens := false } }).set! k
          { opener with mark := { opener.mark with closes := false }, closer := some i }
        lastPlace := none }
    | none => if top = 0 then p else { p with floors := (key, top) :: p.floors }

end Pairing

/-- Finds the partners of a list of marks. -/
def pairMarks (marks : Array Delimiter) : Array Delimiter :=
  ((List.range marks.size).foldl Pairing.step ⟨marks, #[], 0, none, []⟩).marks

inductive Span where
  | emphasis (mark : Char)
  | strong (mark : Char)
  | strike
deriving DecidableEq, Repr

def Span.node : Span → List Inline → Inline
  | .emphasis m => .emphasis m
  | .strong m => .strong m
  | .strike => .strike

/-- A row of pieces whose marks are settled: each is text or one end of a span. -/
inductive Settled where
  | text (s : String)
  | node (n : Inline)
  | opens (s : Span)
  | closes (s : Span)

namespace Settled

def isText (s : String) : Settled → Bool
  | .text t => t == s
  | _ => false

def isStrikeEnd : Settled → Bool
  | .closes .strike => true
  | _ => false

/-- The ends of the strikethrough spans, and the places of single tildes before a closing end. -/
def strikes (marks : Array Delimiter) (row : Array Settled) : Array Settled × List Nat :=
  marks.foldl (fun (row, lone) d =>
    match d.closer with
    | some j =>
      if d.mark.symbol = '~' then
        let last := marks[j]!.place
        let row := (row.set! d.place (.opens .strike)).set! last (.closes .strike)
        match row[last - 1]? with
        | some s => (row, if s.isText "~" then (last - 1) :: lone else lone)
        | none => (row, lone)
      else (row, lone)
    | none => (row, lone)) (row, [])

/-- Moves a single tilde behind the closing ends that follow it. -/
def moveLone (row : Array Settled) (i : Nat) : Array Settled :=
  let ends := ((row.toList.drop (i + 1)).takeWhile isStrikeEnd).length
  match row[i]?, row[i + ends]? with
  | some a, some b => (row.set! i b).set! (i + ends) a
  | _, _ => row

/-- The ends of the emphasis spans, from the last opener to the first. Two adjacent openers whose
closers are adjacent make strong emphasis; `skip` marks the outer one of such a pair as done. -/
def emphases (marks : Array Delimiter) (row : Array Settled) : Array Settled :=
  ((List.range marks.size).reverse.foldl (fun (row, skip) i =>
    let d := marks[i]!
    match d.closer with
    | some j =>
      if skip || d.mark.symbol = '~' then (row, false)
      else
        let outer := marks[i - 1]!
        let strong := i > 0 && outer.closer == some (j + 1) &&
          outer.mark.symbol == d.mark.symbol && outer.place + 1 == d.place &&
          marks[j + 1]!.place == marks[j]!.place + 1
        let span := if strong then Span.strong d.mark.symbol else Span.emphasis d.mark.symbol
        let row := (row.set! d.place (.opens span)).set! marks[j]!.place (.closes span)
        if strong then
          ((row.set! outer.place (.text "")).set! marks[j + 1]!.place (.text ""), true)
        else (row, false)
    | none => (row, false)) (row, false)).1

/-- Joins neighbouring texts. -/
def joinTexts : List Settled → List Settled
  | [] => []
  | .text s :: rest =>
    match joinTexts rest with
    | .text t :: rest => .text (s ++ t) :: rest
    | rest => .text s :: rest
  | x :: rest => x :: joinTexts rest

/-- Nests what stands between the two ends of a span. `done` holds the nodes at the current depth,
last first, and `outer` the depths around it. -/
def nest : List Settled → (done : List Inline) → (outer : List (List Inline)) → List Inline
  | [], done, [] => done.reverse
  | [], done, before :: outer => nest [] (done ++ before) outer
  | .text s :: rest, done, outer => nest rest (.text s :: done) outer
  | .node n :: rest, done, outer => nest rest (n :: done) outer
  | .opens _ :: rest, done, outer => nest rest [] (done :: outer)
  | .closes s :: rest, done, before :: outer => nest rest (s.node done.reverse :: before) outer
  | .closes _ :: rest, done, [] => nest rest done []

end Settled

namespace Piece

def settled : Piece → Settled
  | .text s => .text s
  | .mark m => .text m.shown
  | .node n => .node n

def delimiters (pieces : Array Piece) : Array Delimiter :=
  (pieces.toList.zipIdx.filterMap fun (p, i) =>
    match p with
    | .mark m => some ⟨m, i, none⟩
    | _ => none).toArray

/-- The nodes that a row of pieces stands for. -/
def resolve (pieces : Array Piece) : List Inline :=
  let marks := pairMarks (delimiters pieces)
  let (row, lone) := Settled.strikes marks (pieces.map settled)
  let row := Settled.emphases marks (lone.foldl Settled.moveLone row)
  Settled.nest (Settled.joinTexts row.toList) [] []

end Piece

end SlideDeck.Markdown
