/-!
What a slide deck is compiled from: passages of text one after the other, and inside them phrases,
which nest strictly.
-/

namespace SlideDeck.Deck

/-- A `wrapped` text stands for its inner phrases, which are a second reading of it. A `raw` text
has no form of its own on a slide. -/
inductive Phrase where
  | bold (inner : List Phrase)
  | italic (inner : List Phrase)
  | code (s : String)
  | link (url : String) (title : Option String) (inner : List Phrase)
  | text (s : String)
  | wrapped (s : String) (inner : List Phrase)
  | lineBreak
  | raw (s : String)
deriving Repr, Inhabited

/-- An item of a list; a task is done or not. -/
structure Item where
  text : String
  phrases : List Phrase
  isTask : Bool
  isDone : Bool
deriving Repr, Inhabited

inductive Passage where
  | heading (depth : Nat) (text : String)
  | paragraph (text : String) (phrases : List Phrase)
  | list (ordered : Bool) (items : List Item)
  | table (header : List String) (rows : List (List String))
  | rule
  | other (kind : String)
deriving Repr, Inhabited

end SlideDeck.Deck
