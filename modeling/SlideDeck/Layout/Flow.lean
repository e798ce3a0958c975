import SlideDeck.Deck.Slide
import SlideDeck.Decimal.Nearest
import SlideDeck.Layout.Geometry

/-!
The flow of elements down a column. Each element starts below the one before it; a column that is
full drops the rest. The first column break of a slide divides it into two columns.
-/

namespace SlideDeck.Layout

open Deck

inductive LayoutError where
  | sizeTooLarge
  | columnBreak
deriving DecidableEq, Repr

def LayoutError.message : LayoutError → String
  | .sizeTooLarge => "int too large to convert to float"
  | .columnBreak => "Unplaceable element: ColumnBreak"

/-- The size that the author of a shape asks for. -/
structure Size (α : Type) where
  width : Option α
  height : Option α

/-- A positive number as a size in inches; anything else is no size. -/
def sizeOf? : Json.Value → Except LayoutError (Option Float)
  | .int i =>
    if 0 < i then
      match Decimal.ofInt? i with
      | some x => .ok (some x)
      | none => .error .sizeTooLarge
    else .ok none
  | .float x => .ok (if 0 < x then some x else none)
  | _ => .ok none

/-- The size under the first of several keys that holds one. -/
def sizeOption (o : Json.Object) : List String → Except LayoutError (Option Float)
  | [] => .ok none
  | key :: keys =>
    match o.get? key with
    | none => sizeOption o keys
    | some v =>
      match sizeOf? v with
      | .ok none => sizeOption o keys
      | r => r

def shapeSize (s : Shape) : Except LayoutError (Size Float) := do
  let height ← sizeOption s.options ["h", "height"]
  let width ← sizeOption s.options ["w", "width"]
  return ⟨width, height⟩

/-- The size of an element in its column, and how far the next one starts below it. -/
structure Extent (α : Type) where
  width : α
  height : α
  advance : α

structure Placed (α : Type) where
  element : Element
  box : Box α
  column : Int

variable {α : Type} [Add α] [Sub α] [Mul α] [NatCast α] [OfScientific α]
  [LT α] [DecidableLT α] [LE α] [DecidableLE α]

/-- The extent of an element. A text block takes no more than the space that is left. -/
def extent (sizes : Shape → Except LayoutError (Size α)) (w remaining : α) :
    Element → Except LayoutError (Extent α)
  | .textBlock runs =>
    let wanted : α := (lineCount runs : α) * lineHeight
    let h := if wanted < remaining then wanted else remaining
    .ok ⟨w, h, h + textSpacing⟩
  | .picture _ => .ok ⟨w, pictureHeight, pictureHeight + pictureSpacing⟩
  | .table t =>
    let h := tableHeadHeight + tableRowHeight * (t.rows.length : α)
    .ok ⟨w, h, h⟩
  | .shape s => do
    let size ← sizes s
    let h := size.height.getD shapeHeight
    return ⟨size.width.getD w, h, h + shapeSpacing⟩
  | .columnBreak => .error .columnBreak

def remaining (y : α) : α := slideHeight - y - bottomMargin

/-- Places elements from `y` on down. -/
def flow (sizes : Shape → Except LayoutError (Size α)) (c : Column α) :
    List Element → (y : α) → Except LayoutError (List (Placed α))
  | [], _ => .ok []
  | e :: es, y =>
    if remaining y ≤ minRemaining then .ok []
    else do
      let size ← extent sizes c.width (remaining y) e
      let rest ← flow sizes c es (y + size.advance)
      return ⟨e, ⟨c.x, y, size.width, size.height⟩, c.number⟩ :: rest

def isBreak : Element → Bool
  | .columnBreak => true
  | _ => false

/-- The elements of the columns of a slide; breaks after the first do not count. -/
def splitColumns (es : List Element) : List Element × Option (List Element) :=
  match es.dropWhile (!isBreak ·) with
  | [] => (es, none)
  | _ :: rest => (es.takeWhile (!isBreak ·), some (rest.filter (!isBreak ·)))

structure PlacedSlide (α : Type) where
  title : String
  notes : Option String
  elements : List (Placed α)

def placeSlide (sizes : Shape → Except LayoutError (Size α)) (s : Slide) :
    Except LayoutError (PlacedSlide α) :=
  match splitColumns s.elements with
  | (es, none) => do
    let placed ← flow sizes singleColumn es contentTop
    return ⟨s.title, s.notes, placed⟩
  | (left, some right) => do
    let placedLeft ← flow sizes leftColumn left contentTop
    let placedRight ← flow sizes rightColumn right contentTop
    return ⟨s.title, s.notes, placedLeft ++ placedRight⟩

instance natCastFloat : NatCast Float := ⟨Float.ofNat⟩

/-- Places the elements of every slide of a deck. -/
def placeDeck (slides : List Slide) : Except LayoutError (List (PlacedSlide Float)) :=
  slides.mapM (placeSlide shapeSize)

end SlideDeck.Layout
