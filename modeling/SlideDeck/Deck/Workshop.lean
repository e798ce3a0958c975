import SlideDeck.Deck.Builder

/-!
A builder that is used again and again. What it makes are things that callers hold on to: slides,
and lists of diagnostics, each at a place of its own where every change to it is seen. Each build
starts a list and new slides; the builder itself holds on to the list of its last build.
-/

namespace SlideDeck.Deck

/-- A builder with all that was made and told so far. Its diagnostics are the list at the place
`kept`. -/
structure Workshop where
  slides : List Slide := []
  lists : List (List String) := [[]]
  kept : Nat := 0
  notices : List Notice := []
deriving Inhabited

namespace Workshop

def diagnostics (w : Workshop) : List String := w.lists[w.kept]?.getD []

/-- The slides at places, as they are now. -/
def slidesAt (w : Workshop) (places : List Nat) : List Slide := places.filterMap (w.slides[·]?)

def openSlide (w : Workshop) (title : String) : Workshop :=
  { w with slides := w.slides ++ [{ title }] }

def change (w : Workshop) (place : Nat) (f : Slide → Slide) : Workshop :=
  { w with slides := w.slides.modify place f }

def startList (w : Workshop) : Workshop :=
  { w with lists := w.lists ++ [[]], kept := w.lists.length }

def report (w : Workshop) (message : String) : Workshop :=
  { w with
    lists := w.lists.modify w.kept (· ++ [message])
    notices := w.notices ++ [.badShape message] }

def add (w : Workshop) (place : Nat) (c : Contribution) : Workshop :=
  c.diagnostics.foldl report (w.change place (·.add c))

/-- Builds on, with finished slides at the places `done` and an open one at `current`. Where the
build stops, all that was made and told before stays. -/
def buildOn (w : Workshop) (done : List Nat) :
    Option Nat → List Passage → Except LongNumber (List Nat) × Workshop
  | current, [] => (.ok (done ++ current.toList), w)
  | current, .heading 1 title :: ps =>
    (w.openSlide title).buildOn (done ++ current.toList) (some w.slides.length) ps
  | none, _ :: ps => w.buildOn done none ps
  | some place, p :: ps =>
    match contribution p with
    | .error n => (.error n, w)
    | .ok c => (w.add place c).buildOn done (some place) ps

/-- The places of the slides built from passages, which are the caller's from then on. -/
def build (w : Workshop) (ps : List Passage) : Except LongNumber (List Nat) × Workshop :=
  w.startList.buildOn [] none ps

end Workshop

end SlideDeck.Deck
