import SlideDeck.Deck.Passage

/-!
Runs of text in one style. `resolve` flattens phrases into runs: a run has the style of every span
it sits in, and the innermost link.
-/

namespace SlideDeck.Deck

structure Hyperlink where
  url : String
  tooltip : String
deriving DecidableEq, Repr, Inhabited

structure Style where
  bold : Bool := false
  italic : Bool := false
  monospace : Bool := false
  hyperlink : Option Hyperlink := none
  isBullet : Bool := false
  breaksLine : Bool := false
deriving DecidableEq, Repr, Inhabited

structure Run where
  text : String
  style : Style := {}
deriving DecidableEq, Repr, Inhabited

/-- A link shows its title on hovering, or its address if it has none. -/
def Hyperlink.to (url : String) (title : Option String) : Hyperlink :=
  ⟨url, match title with
    | some t => if t.isEmpty then url else t
    | none => url⟩

mutual

/-- The runs of a phrase inside spans of a given style. Raw text keeps no style. -/
def resolve (style : Style) : Phrase → List Run
  | .bold inner => resolveAll { style with bold := true } inner
  | .italic inner => resolveAll { style with italic := true } inner
  | .code s => [⟨" " ++ s ++ " ", { style with monospace := true }⟩]
  | .link url title inner => resolveAll { style with hyperlink := some (.to url title) } inner
  | .text s => [⟨s, style⟩]
  | .wrapped _ inner => resolveAll style inner
  | .lineBreak => [⟨"\n", { style with breaksLine := true }⟩]
  | .raw s => if s.isEmpty then [] else [⟨s, {}⟩]

def resolveAll (style : Style) : List Phrase → List Run
  | [] => []
  | p :: ps => resolve style p ++ resolveAll style ps

end

/-- The text of runs, whatever their style. -/
def plainText (runs : List Run) : String := String.join (runs.map Run.text)

end SlideDeck.Deck
