import SlideDeck.Deck.Builder
import SlideDeck.Drawing.Presentation

/-!
From Markdown to a presentation: the text is built into slides, these are placed, and what is
placed is drawn.
-/

namespace SlideDeck

open Deck Layout Drawing

inductive PlanError where
  | longNumber (n : LongNumber)
  | layout (e : LayoutError)
deriving DecidableEq, Repr

def PlanError.message : PlanError → String
  | .longNumber n => n.message
  | .layout e => e.message

inductive ConversionError where
  | plan (e : PlanError)
  | draw (e : DrawError)
deriving DecidableEq, Repr

def ConversionError.message : ConversionError → String
  | .plan e => e.message
  | .draw e => e.message

def placeSlides (slides : List Slide) : Except PlanError (List (PlacedSlide Float)) :=
  (placeDeck slides).mapError .layout

/-- The placed slides of a Markdown text, with the notices of the build. -/
def planDeck (text : String) : Logged PlanError (List (PlacedSlide Float)) :=
  let built := parseMarkdown text
  ⟨built.notices, do placeSlides (← built.slides.mapError .longNumber)⟩

/-- Draws slides that are already built. -/
def drawSlideList (g : Gallery) (template : Option Package) (slides : List Slide) :
    Logged ConversionError Presentation := do
  let placed ← Logged.ofExcept ((placeSlides slides).mapError .plan)
  (drawDeck g template placed).mapError .draw

def convert (g : Gallery) (template : Option Package) (text : String) :
    Logged ConversionError Presentation := do
  let placed ← (planDeck text).mapError .plan
  (drawDeck g template placed).mapError .draw

end SlideDeck
