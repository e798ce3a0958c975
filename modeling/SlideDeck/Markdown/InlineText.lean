import SlideDeck.Markdown.Construct
import SlideDeck.Markdown.Emphasis

/-!
Reading inline text. `inlines` gives the nodes of a text, whose links may refer to the definitions
of the document. Links nest at most 20 deep; what lies deeper is plain text.
-/

namespace SlideDeck.Markdown

namespace Source

/-- Finds the bracket that closes the label opened at `pos - 1`. `skip` passes over one construct.
Where links may not nest, a link inside ends the search. The first number bounds the number of
steps. -/
def labelEnd (src : Source) (limit : Nat) (skip : Memo → Nat → Memo × Nat) (nesting : Bool) :
    Nat → Memo → (pos level : Nat) → Memo × Option Nat
  | 0, m, _, _ => (m, none)
  | fuel + 1, m, pos, level =>
    if limit ≤ pos then (m, none)
    else if src.is pos ']' && level = 1 then (m, some pos)
    else
      let level := if src.is pos ']' then level - 1 else level
      let (m, next) := skip m pos
      if !src.is pos '[' then src.labelEnd limit skip nesting fuel m next level
      else if next = pos + 1 then src.labelEnd limit skip nesting fuel m next (level + 1)
      else if nesting then src.labelEnd limit skip nesting fuel m next level
      else (m, none)

/-- Passes over one construct. The first number is how deep links may still nest. -/
def skip (src : Source) (limit : Nat) : Nat → Memo → Nat → Memo × Nat
  | depth, m, pos =>
    match m.end? pos with
    | some stop => (m, stop)
    | none =>
      match depth with
      | 0 => (m.setEnd pos (limit + 1), limit + 1)
      | depth + 1 =>
        let label : LabelReader := fun m start nesting =>
          src.labelEnd limit (src.skip limit depth) nesting (limit - start) m (start + 1) 1
        let (m, found) := src.construct? label limit m pos
        let stop := match found with
          | some (_, stop) => stop
          | none => pos + 1
        (m.setEnd pos stop, stop)

end Source

/-- A row of pieces in the making; `pending` is the text since the last piece, last first. -/
structure Row where
  memo : Memo
  pending : List Char
  pieces : Array Piece

namespace Row

def flush (r : Row) : Row :=
  if r.pending.isEmpty then r
  else { r with pending := [], pieces := r.pieces.push (.text (String.ofList r.pending.reverse)) }

def push (r : Row) (p : Piece) : Row :=
  let r := r.flush
  { r with pieces := r.pieces.push p }

def write (r : Row) (s : List Char) : Row := { r with pending := s.reverse ++ r.pending }

/-- Two spaces before a line end make the break a hard one. -/
def endLine (r : Row) : Row :=
  match r.pending with
  | ' ' :: ' ' :: s => { r with pending := s.dropWhile (· == ' ') }.push (.node .hardBreak)
  | ' ' :: s => { r with pending := s }.push (.node .softBreak)
  | _ => r.push (.node .softBreak)

/-- Tildes mark in pairs; an odd one comes first as text. -/
def pushTildes (r : Row) (n : Nat) (f : Flanking) : Row :=
  let r := if n % 2 = 1 then r.push (.text "~") else r
  (List.replicate (n / 2) (Piece.mark ⟨'~', 0, f.opens, f.closes⟩)).foldl push r

end Row

namespace Source

/-- The flanking of the run of marks between `first` and `last`; the ends of the text count as
white space. -/
def flankingOf (src : Source) (limit first last : Nat) (splitsWords : Bool) : Flanking :=
  let before := if first = 0 then ' ' else src.chars.getD (first - 1) ' '
  let after := if last < limit then src.chars.getD last ' ' else ' '
  flanking splitsWords before after

/-- Reads pieces from `pos` on. `label` finds the end of a label, `inner` reads the text of a link
and `picture` that of an image. The first number bounds the number of steps. -/
def readRow (src : Source) (label : LabelReader) (limit : Nat)
    (inner : Memo → Nat → Nat → Memo × List Inline) (picture : List Char → List Inline) :
    Nat → Row → Nat → Row
  | 0, r, _ => r
  | fuel + 1, r, pos =>
    if limit ≤ pos then r
    else
      let c := src.chars.getD pos ' '
      let stop := src.scanWhile (· == c) limit (pos + 1)
      let next := src.readRow label limit inner picture fuel
      if c = '*' || c = '_' then
        let f := src.flankingOf limit pos stop (c = '*')
        let mark := Piece.mark ⟨c, stop - pos, f.opens, f.closes⟩
        next ((List.replicate (stop - pos) mark).foldl Row.push r) stop
      else if c = '~' && pos + 1 < stop then
        next (r.pushTildes (stop - pos) (src.flankingOf limit pos stop true)) stop
      else
        let (m, found) := src.construct? label limit r.memo pos
        let r := { r with memo := m }
        match found with
        | none => next (r.write [c]) (pos + 1)
        | some (.plain s, stop) => next (r.write s) stop
        | some (.lineEnd, stop) => next r.endLine stop
        | some (.hardBreak, stop) => next (r.push (.node .hardBreak)) stop
        | some (.escaped s, stop) => next (r.push (.node (.escaped s))) stop
        | some (.code s, stop) => next (r.push (.node (.code s))) stop
        | some (.html s, stop) => next (r.push (.node (.html s))) stop
        | some (.autolink t s, stop) => next (r.push (.node (.link t true [.text s]))) stop
        | some (.link t first last, stop) =>
          let (m, nodes) := inner r.memo first last
          next ({ r with memo := m }.push (.node (.link t false nodes))) stop
        | some (.image t first last, stop) =>
          let label := src.slice first last
          next (r.push (.node (.image t (String.ofList label) (picture label)))) stop

/-- The nodes between two places. The first number is how deep links may still nest. -/
def read (src : Source) (picture : List Char → List Inline) :
    Nat → Memo → (first last : Nat) → Memo × List Inline
  | 0, m, first, last =>
    (m, if first < last then [.text (String.ofList (src.slice first last))] else [])
  | depth + 1, m, first, last =>
    let label : LabelReader := fun m start nesting =>
      src.labelEnd last (src.skip last (depth + 1)) nesting (last - start) m (start + 1) 1
    let row := src.readRow label last (src.read picture depth) picture (last - first)
      ⟨m, [], #[]⟩ first
    (row.memo, Piece.resolve row.flush.pieces)

end Source

def maxNesting : Nat := 20

/-- The nodes of a text. The first number bounds how deep images nest. -/
def readNodes (definitions : Definitions) : Nat → List Char → List Inline
  | 0, _ => []
  | fuel + 1, s =>
    let src : Source := ⟨s.toArray, definitions⟩
    (src.read (readNodes definitions fuel) maxNesting (Memo.start (s.length + 1)) 0 s.length).2

/-- The nodes of a text, with neighbouring texts merged. -/
def inlines (definitions : Definitions) (s : String) : List Inline :=
  Inline.mergeList (readNodes definitions (s.length + 1) s.toList)

end SlideDeck.Markdown
