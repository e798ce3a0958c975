import SlideDeck.Markdown.LinkText

/-!
The block syntax of a document: headings, paragraphs, quotes, lists, tables, rules, and the blocks
whose content is not marked up. Inline content is kept as text, since the links in it may refer to
definitions that follow.
-/

namespace SlideDeck.Markdown

/-- A quote keeps the range of source lines, end excluded, that it was read from. -/
inductive Block where
  | heading (depth : Nat) (content : String)
  | paragraph (content : String)
  | quote (first last : Nat) (blocks : List Block)
  | list (ordered : Bool) (items : List (List Block))
  | table (header : List String) (rows : List (List String))
  | rule
  | fence
  | indentedCode
  | html
deriving Repr, Inhabited

structure Document where
  blocks : List Block
  definitions : Definitions
deriving Inhabited

end SlideDeck.Markdown
