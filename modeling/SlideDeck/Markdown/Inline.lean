/-!
The inline syntax of a paragraph, as a tree, and the two plain readings of it: the words that it
shows, and the source that it is rebuilt to where it has no form of its own on a slide.
-/

namespace SlideDeck.Markdown

/-- Where a link or image points, and the title that it carries (empty if none). -/
structure Target where
  href : String
  title : String
deriving DecidableEq, Repr, Inhabited

/-- An `escaped` text came from a backslash or a character reference and is not yet merged with
the text around it. -/
inductive Inline where
  | text (s : String)
  | escaped (s : String)
  | code (s : String)
  | html (s : String)
  | softBreak
  | hardBreak
  | emphasis (mark : Char) (inner : List Inline)
  | strong (mark : Char) (inner : List Inline)
  | strike (inner : List Inline)
  | link (target : Target) (auto : Bool) (inner : List Inline)
  | image (target : Target) (label : String) (inner : List Inline)
deriving Repr, Inhabited

namespace Inline

mutual

/-- The words that a node shows: a break reads as a space, markup and raw tags as nothing. -/
def words : Inline → String
  | .text s | .code s => s
  | .escaped _ | .html _ => ""
  | .softBreak | .hardBreak => " "
  | .emphasis _ inner | .strong _ inner | .strike inner | .link _ _ inner | .image _ _ inner =>
    wordsList inner

def wordsList : List Inline → String
  | [] => ""
  | n :: ns => words n ++ wordsList ns

end

mutual

/-- The source of a node as far as it is rebuilt: inner nodes between their marks, an image with
its address, a break as nothing. -/
def source : Inline → String
  | .text s | .escaped s | .code s | .html s => s
  | .softBreak | .hardBreak => ""
  | .image t label _ => "![" ++ label ++ "](" ++ t.href ++ ")"
  | .emphasis m inner => sourceBetween (String.ofList [m]) inner
  | .strong m inner => sourceBetween (String.ofList [m, m]) inner
  | .strike inner => sourceBetween "~~" inner
  | .link _ auto inner => sourceBetween (if auto then "autolink" else "") inner

def sourceList : List Inline → String
  | [] => ""
  | n :: ns => source n ++ sourceList ns

/-- Marks are not rebuilt around nothing. -/
def sourceBetween (mark : String) : List Inline → String
  | [] => ""
  | n :: ns => mark ++ (source n ++ sourceList ns) ++ mark

end

def consMerged : Inline → List Inline → List Inline
  | .text s, .text s' :: ns => .text (s ++ s') :: ns
  | n, ns => n :: ns

mutual

/-- A node with neighbouring texts merged, escaped ones included, at every depth. The inner nodes
of an image stay as they are. -/
def merge : Inline → Inline
  | .escaped s => .text s
  | .emphasis m inner => .emphasis m (mergeList inner)
  | .strong m inner => .strong m (mergeList inner)
  | .strike inner => .strike (mergeList inner)
  | .link t auto inner => .link t auto (mergeList inner)
  | n => n

def mergeList : List Inline → List Inline
  | [] => []
  | n :: ns => consMerged (merge n) (mergeList ns)

end

end Inline

end SlideDeck.Markdown
