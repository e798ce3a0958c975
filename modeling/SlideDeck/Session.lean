import SlideDeck.Deck.Workshop
import SlideDeck.Layout.Flow

/-!
A session keeps one builder and the deck of its last build, which is edited and laid out step by
step. A step that fails leaves the deck as it was.
-/

namespace SlideDeck

open Deck Layout

/-- The deck is told by the places of its slides. -/
structure Session where
  workshop : Workshop := {}
  deck : List Nat := []
deriving Inhabited

/-- Slides are counted from zero, and from the end by negative numbers. -/
inductive Step where
  | build (passages : List Passage)
  | buildText (text : String)
  | append (slide : Int) (e : Element)
  | setNotes (slide : Int) (notes : Option String)
  | layout
  | slides

inductive Reply where
  | slides (slides : List Slide)
  | slide (s : Slide)
  | size (elements : Nat)
  | placed (slides : List (PlacedSlide Float))

inductive StepError where
  | longNumber (n : LongNumber)
  | layout (e : LayoutError)
  | noSlide
deriving DecidableEq, Repr

def StepError.message : StepError → String
  | .longNumber n => n.message
  | .layout e => e.message
  | .noSlide => "list index out of range"

/-- The place of a slide in a deck of a given size. -/
def slidePosition? (size : Nat) (slide : Int) : Option Nat :=
  let i := if slide < 0 then slide + size else slide
  if 0 ≤ i && i < size then some i.toNat else none

namespace Session

def slides (s : Session) : List Slide := s.workshop.slidesAt s.deck

/-- The diagnostics are those of the last build, whether or not it succeeded. -/
def diagnostics (s : Session) : List String := s.workshop.diagnostics

def build (s : Session) (ps : List Passage) : Except StepError Reply × Session :=
  match s.workshop.build ps with
  | (.ok deck, workshop) =>
    let s : Session := ⟨workshop, deck⟩
    (.ok (.slides s.slides), s)
  | (.error n, workshop) => (.error (.longNumber n), { s with workshop })

/-- Changes one slide of the deck. -/
def edit (s : Session) (slide : Int) (change : Slide → Slide) (reply : Slide → Reply) :
    Except StepError Reply × Session :=
  let place? := (slidePosition? s.deck.length slide).bind (s.deck[·]?)
  match place?.bind fun place => s.workshop.slides[place]?.map fun x => (place, x) with
  | some (place, x) =>
    (.ok (reply (change x)), { s with workshop := s.workshop.change place change })
  | none => (.error .noSlide, s)

def step (s : Session) : Step → Except StepError Reply × Session
  | .build ps => s.build ps
  | .buildText text => s.build (passages text)
  | .append slide e =>
    s.edit slide (fun x => { x with elements := x.elements ++ [e] }) (.size ·.elements.length)
  | .setNotes slide notes => s.edit slide (fun x => { x with notes }) .slide
  | .layout => ((placeDeck s.slides).mapError .layout |>.map .placed, s)
  | .slides => (.ok (.slides s.slides), s)

/-- The replies to a list of steps, each with the diagnostics after it. -/
def run (s : Session) : List Step → List (Except StepError Reply × List String)
  | [] => []
  | t :: ts =>
    let (reply, s) := s.step t
    (reply, s.diagnostics) :: s.run ts

end Session

end SlideDeck
