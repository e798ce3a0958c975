import SlideDeck.Drawing.Paragraph
import SlideDeck.Text.Case

/-!
Templates: the page size and the slide layouts that a presentation starts from. A layout is chosen
by name; an exact match goes before a partial one.
-/

namespace SlideDeck.Drawing

inductive PlaceholderKind where
  | title
  | centeredTitle
  | subtitle
  | content
  | body
  | picture
  | chart
  | table
  | clipArt
  | diagram
  | media
  | slideImage
  | header
deriving DecidableEq, Repr, Inhabited

def PlaceholderKind.isTitle : PlaceholderKind → Bool
  | .title | .centeredTitle => true
  | _ => false

/-- The placeholders of a layout are told apart by their indices. -/
structure Placeholder where
  kind : PlaceholderKind
  index : Nat
  box : Layout.Box Int
deriving Repr

structure SlideLayout where
  name : String
  placeholders : List Placeholder
deriving Repr

structure Template where
  width : Int
  height : Int
  layouts : List SlideLayout
deriving Repr

/-- Whether `p` occurs in a text. -/
def occursIn (p : List Char) : List Char → Bool
  | [] => p.isEmpty
  | c :: s => p.isPrefixOf (c :: s) || occursIn p s

/-- A layout's name as it is compared; a layout without a name has the empty one. -/
def comparedName (name : Option String) : List Char := Text.lower (name.getD "").toList

/-- The layout whose name is the earliest of the preferred names that some layout has; else the
first layout whose name contains any of them. -/
def preferredLayout? (preferred : List String) (names : List (Option String)) : Option Nat :=
  let exact := preferred.findSome? fun p =>
    names.findIdx? fun n => comparedName n == Text.lower p.toList
  exact.or (names.findIdx? fun n =>
    preferred.any fun p => occursIn (Text.lower p.toList) (comparedName n))

def preferredNames : List String := ["Blank", "Title Only"]

/-- The layout of all slides; the last one if no name is preferred. -/
def Template.layout (t : Template) : Except TemplateError SlideLayout :=
  let choice := (preferredLayout? preferredNames (t.layouts.map fun l => some l.name)).bind fun i =>
    t.layouts[i]?
  match choice.or t.layouts.getLast? with
  | some l => .ok l
  | none => .error .noLayout

/-- The layouts that a presentation has from the start. -/
def standardLayouts : List SlideLayout := [
  ⟨"Title Slide", [
    ⟨.centeredTitle, 0, ⟨685800, 2130425, 7772400, 1470025⟩⟩,
    ⟨.subtitle, 1, ⟨1371600, 3886200, 6400800, 1752600⟩⟩]⟩,
  ⟨"Title and Content", [
    ⟨.title, 0, ⟨457200, 274638, 8229600, 1143000⟩⟩,
    ⟨.content, 1, ⟨457200, 1600200, 8229600, 4525963⟩⟩]⟩,
  ⟨"Section Header", [
    ⟨.title, 0, ⟨722313, 4406900, 7772400, 1362075⟩⟩,
    ⟨.body, 1, ⟨722313, 2906713, 7772400, 1500187⟩⟩]⟩,
  ⟨"Two Content", [
    ⟨.title, 0, ⟨457200, 274638, 8229600, 1143000⟩⟩,
    ⟨.content, 1, ⟨457200, 1600200, 4038600, 4525963⟩⟩,
    ⟨.content, 2, ⟨4648200, 1600200, 4038600, 4525963⟩⟩]⟩,
  ⟨"Comparison", [
    ⟨.title, 0, ⟨457200, 274638, 8229600, 1143000⟩⟩,
    ⟨.body, 1, ⟨457200, 1535113, 4040188, 639762⟩⟩,
    ⟨.content, 2, ⟨457200, 2174875, 4040188, 3951288⟩⟩,
    ⟨.body, 3, ⟨4645025, 1535113, 4041775, 639762⟩⟩,
    ⟨.content, 4, ⟨4645025, 2174875, 4041775, 3951288⟩⟩]⟩,
  ⟨"Title Only", [⟨.title, 0, ⟨457200, 274638, 8229600, 1143000⟩⟩]⟩,
  ⟨"Blank", []⟩,
  ⟨"Content with Caption", [
    ⟨.title, 0, ⟨457200, 273050, 3008313, 1162050⟩⟩,
    ⟨.content, 1, ⟨3575050, 273050, 5111750, 5853113⟩⟩,
    ⟨.body, 2, ⟨457200, 1435100, 3008313, 4691063⟩⟩]⟩,
  ⟨"Picture with Caption", [
    ⟨.title, 0, ⟨1792288, 4800600, 5486400, 566738⟩⟩,
    ⟨.picture, 1, ⟨1792288, 612775, 5486400, 4114800⟩⟩,
    ⟨.body, 2, ⟨1792288, 5367338, 5486400, 804862⟩⟩]⟩,
  ⟨"Title and Vertical Text", [
    ⟨.title, 0, ⟨457200, 274638, 8229600, 1143000⟩⟩,
    ⟨.body, 1, ⟨457200, 1600200, 8229600, 4525963⟩⟩]⟩,
  ⟨"Vertical Title and Text", [
    ⟨.title, 0, ⟨6629400, 274638, 2057400, 5851525⟩⟩,
    ⟨.body, 1, ⟨457200, 274638, 6019800, 5851525⟩⟩]⟩]

/-- The presentation that templates are made from, with pages of ten by seven and a half inches. -/
def Template.standard : Template := ⟨9144000, 6858000, standardLayouts⟩

/-- Without a template, pages have the size of the canvas. -/
def Template.plain : Template := ⟨9144000, 5143500, standardLayouts⟩

end SlideDeck.Drawing
