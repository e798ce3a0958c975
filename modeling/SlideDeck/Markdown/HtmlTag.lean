import SlideDeck.Markdown.LinkText

/-!
Raw HTML. `tag?` recognises a tag, comment, instruction, declaration or character data at the
start of a text; `Html.Block` lists the seven ways in which a line can open a block of raw HTML,
each with its own end.
-/

namespace SlideDeck.Markdown

namespace Html

def isNameStart (c : Char) : Bool := c.isAlpha || c == '_' || c == ':'

def isNameChar (c : Char) : Bool := isNameStart c || c.isDigit || c == '.' || c == '-'

def isBareValueChar (c : Char) : Bool :=
  32 < c.toNat && !("\"'=<>\x60".toList.contains c)

/-- The text behind a closing mark, which must exist. -/
def behind? (close : Char) (s : List Char) : Option (List Char) :=
  match s.dropWhile (· ≠ close) with
  | [] => none
  | _ :: rest => some rest

/-- The text behind the first occurrence of a word. -/
def behindWord? (word : List Char) : List Char → Option (List Char)
  | [] => none
  | c :: s => if word.isPrefixOf (c :: s) then some ((c :: s).drop word.length)
    else behindWord? word s

def attributeValue? : List Char → Option (List Char)
  | '\'' :: s => behind? '\'' s
  | '"' :: s => behind? '"' s
  | c :: s => if isBareValueChar c then some (s.dropWhile isBareValueChar) else none
  | [] => none

/-- The text behind an attribute with the white space before it. -/
def attribute? (s : List Char) : Option (List Char) :=
  match s, s.dropWhile Text.isBlank with
  | b :: _, c :: r =>
    if Text.isBlank b && isNameStart c then
      let rest := r.dropWhile isNameChar
      match rest.dropWhile Text.isBlank with
      | '=' :: v => some ((attributeValue? (v.dropWhile Text.isBlank)).getD rest)
      | _ => some rest
    else none
  | _, _ => none

/-- The text behind all attributes; the first argument bounds their number. -/
def behindAttributes : Nat → List Char → List Char
  | 0, s => s
  | fuel + 1, s =>
    match attribute? s with
    | some rest => behindAttributes fuel rest
    | none => s

def isTagNameChar (c : Char) : Bool := c.isAlphanum || c == '-'

/-- The text behind an opening tag. -/
def behindOpening? : List Char → Option (List Char)
  | '<' :: c :: s =>
    if c.isAlpha then
      let s := s.dropWhile isTagNameChar
      match (behindAttributes s.length s).dropWhile Text.isBlank with
      | '/' :: '>' :: rest => some rest
      | '>' :: rest => some rest
      | _ => none
    else none
  | _ => none

/-- The text behind a closing tag. -/
def behindClosing? : List Char → Option (List Char)
  | '<' :: '/' :: c :: s =>
    if c.isAlpha then
      match (s.dropWhile isTagNameChar).dropWhile Text.isBlank with
      | '>' :: rest => some rest
      | _ => none
    else none
  | _ => none

/-- The text behind the end of a comment, which may not follow a further hyphen directly. -/
def behindComment? : List Char → Option (List Char)
  | '-' :: '-' :: '>' :: s => some s
  | '-' :: '-' :: _ :: s => behindComment? s
  | ['-', '-'] | ['-'] | [] => none
  | '-' :: _ :: s => behindComment? s
  | _ :: s => behindComment? s

/-- The text behind a comment, instruction, declaration or character data. -/
def behindOther? : List Char → Option (List Char)
  | '<' :: '!' :: '-' :: '-' :: '>' :: s => some s
  | '<' :: '!' :: '-' :: '-' :: '-' :: '>' :: s => some s
  | '<' :: '!' :: '-' :: '-' :: s => behindComment? s
  | '<' :: '?' :: s => behindWord? ['?', '>'] s
  | '<' :: '!' :: s =>
    if "[CDATA[".toList.isPrefixOf s then behindWord? [']', ']', '>'] (s.drop 7)
    else match s with
      | c :: s => if c.isAlpha then behind? '>' s else none
      | [] => none
  | _ => none

/-- The length of the raw HTML at the start of a text. -/
def tag? (s : List Char) : Option Nat :=
  ((behindOpening? s).or ((behindClosing? s).or (behindOther? s))).map fun rest =>
    s.length - rest.length

/-- The tags that open a block by name alone. -/
def blockNames : List (List Char) :=
  ["address", "article", "aside", "base", "basefont", "blockquote", "body", "caption", "center",
    "col", "colgroup", "dd", "details", "dialog", "dir", "div", "dl", "dt", "fieldset",
    "figcaption", "figure", "footer", "form", "frame", "frameset", "h1", "h2", "h3", "h4", "h5",
    "h6", "head", "header", "hr", "html", "iframe", "legend", "li", "link", "main", "menu",
    "menuitem", "nav", "noframes", "ol", "optgroup", "option", "p", "param", "search", "section",
    "summary", "table", "tbody", "td", "tfoot", "th", "thead", "title", "tr", "track",
    "ul"].map String.toList

/-- The tags whose content is not marked up. -/
def rawNames : List (List Char) := ["script", "pre", "style", "textarea"].map String.toList

def endsName (s : List Char) : Bool :=
  match s with
  | [] => true
  | c :: _ => c == '>' || Text.isBlank c

/-- Whether one of the names, in any letter case, stands at the start and is followed as asked. -/
def startsWithName (names : List (List Char)) (follows : List Char → Bool) (s : List Char) : Bool :=
  names.any fun name => (Text.afterWord? name s).any follows

inductive Block where
  | rawContent
  | comment
  | instruction
  | declaration
  | characterData
  | blockTag
  | anyTag
deriving DecidableEq, Repr

/-- The block that a line opens. -/
def Block.of? (line : List Char) : Option Block :=
  match line with
  | '<' :: s =>
    let name := if s.head? = some '/' then s.drop 1 else s
    if startsWithName rawNames endsName s then some .rawContent
    else if "!--".toList.isPrefixOf s then some .comment
    else if s.head? = some '?' then some .instruction
    else if s.head? = some '!' && (s.drop 1).head?.any Char.isUpper then some .declaration
    else if "![CDATA[".toList.isPrefixOf s then some .characterData
    else if startsWithName blockNames (fun r => endsName r || ['/', '>'].isPrefixOf r) name then
      some .blockTag
    else if ((behindOpening? line).or (behindClosing? line)).any (·.all Text.isBlank) then
      some .anyTag
    else none
  | _ => none

/-- Whether a block of this kind may end a paragraph. -/
def Block.interrupts (b : Block) : Bool := b != .anyTag

/-- Whether the closing tag of an element with raw content stands somewhere in a line. -/
def closesRaw : List Char → Bool
  | [] => false
  | '<' :: '/' :: s =>
    startsWithName rawNames (fun r => r.head? = some '>') s || closesRaw ('/' :: s)
  | _ :: s => closesRaw s

/-- Whether a line holds the end of a block. -/
def Block.endsIn (line : List Char) : Block → Bool
  | .rawContent => closesRaw line
  | .comment => (behindWord? "-->".toList line).isSome
  | .instruction => (behindWord? "?>".toList line).isSome
  | .declaration => line.contains '>'
  | .characterData => (behindWord? "]]>".toList line).isSome
  | .blockTag | .anyTag => line.isEmpty

end Html

end SlideDeck.Markdown
