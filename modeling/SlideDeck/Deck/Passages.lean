import SlideDeck.Deck.Passage
import SlideDeck.Markdown.BlockText

/-!
The passages of a Markdown text. A quote is a paragraph whose text is its source with the quote
marks; a list item is one phrase that wraps its paragraphs, and may start with a task marker.
-/

namespace SlideDeck.Deck

open Markdown

mutual

/-- The phrase of a node. What has no form on a slide becomes its source. -/
def phrase : Inline → Phrase
  | .text s => .text s
  | .strong _ inner => .bold (phraseList inner)
  | .emphasis _ inner => .italic (phraseList inner)
  | .code s => .code s
  | .link t _ inner =>
    .link t.href (if t.title.isEmpty then none else some t.title) (phraseList inner)
  | .softBreak => .text " "
  | .hardBreak => .lineBreak
  | n => .raw n.source

def phraseList : List Inline → List Phrase
  | [] => []
  | n :: ns => phrase n :: phraseList ns

end

/-- Paragraphs one below the other. -/
def joinParagraphs : List (List Phrase) → List Phrase
  | [] => []
  | [p] => p
  | p :: ps => p ++ .lineBreak :: joinParagraphs ps

/-- The contents of the paragraphs that stand directly in a container. -/
def paragraphs (blocks : List Block) : List String :=
  blocks.filterMap fun
    | .paragraph content => some content
    | _ => none

/-- The task marker at the start of an item: whether the task is done, and the length of the
marker with the white space behind it. -/
def taskMarker? : List Char → Option (Bool × Nat)
  | '[' :: c :: ']' :: s =>
    let space := s.takeWhile Text.isBlank
    if (c = ' ' || c = 'x' || c = 'X') && !space.isEmpty then some (c != ' ', 3 + space.length)
    else none
  | _ => none

def item (d : Document) (blocks : List Block) : Item :=
  let contents := paragraphs blocks
  let text := String.intercalate "\n" contents
  match taskMarker? text.toList with
  | none =>
    ⟨text, [.wrapped text (joinParagraphs (contents.map fun c => phraseList (d.inlines c)))], false,
      false⟩
  | some (isDone, n) =>
    let cut (s : String) := String.ofList (s.toList.drop n)
    let parts := match contents with
      | [] => []
      | c :: cs => cut c :: cs
    ⟨cut text, [.wrapped (cut text) (joinParagraphs (parts.map fun c => phraseList (d.inlines c)))],
      true, isDone⟩

/-- The source lines from one up to another. -/
def sourceLines (source : String) (first last : Nat) : String :=
  let lines := ((Text.lines source.toList).take last).drop first
  String.ofList (Text.joinWith ['\n'] lines)

def passage (source : String) (d : Document) : Block → Passage
  | .heading depth content =>
    .heading depth (Text.trimmed (Inline.wordsList (d.inlines content)))
  | .paragraph content => .paragraph content (phraseList (d.inlines content))
  | .quote first last blocks =>
    .paragraph (sourceLines source first last)
      (joinParagraphs ((paragraphs blocks).map fun c => phraseList (d.inlines c)))
  | .list ordered items => .list ordered (items.map (item d))
  | .table header rows => .table header rows
  | .rule => .rule
  | .fence => .other "fence"
  | .indentedCode => .other "code_block"
  | .html => .other "html_block"

/-- The passages of a Markdown text. -/
def passages (source : String) : List Passage :=
  let d := Document.parse source
  d.blocks.map (passage source d)

end SlideDeck.Deck
