import SlideDeck.Markdown.Block
import SlideDeck.Markdown.InlineText
import SlideDeck.Markdown.LinkDefinition
import SlideDeck.Markdown.TableRow

/-!
Reading block structure. `Document.parse` gives the blocks of a text and the link definitions in
it. Containers nest at most 20 deep, a list and each of its items counting one; what lies deeper
is left out.
-/

namespace SlideDeck.Markdown

/-- What reading a part of a document gives: its blocks, all definitions so far, and the line
behind it. -/
structure Reading where
  blocks : List Block
  definitions : Definitions
  next : Nat

/-- Reads the blocks of a container, from one line up to another. -/
abbrev ContainerReader := Region → Definitions → (i stop : Nat) → Reading

namespace Region

/-- The line behind an indented code block, which ends with its last line that is not empty. -/
def codeEnd (r : Region) (stop : Nat) : Nat → (i last : Nat) → Nat
  | 0, _, last => last
  | fuel + 1, i, last =>
    match r.line? i with
    | none => last
    | some l =>
      if stop ≤ i then last
      else if l.isEmpty then r.codeEnd stop fuel (i + 1) last
      else if r.isCode l then r.codeEnd stop fuel (i + 1) (i + 1)
      else last

/-- The line behind a fenced block, which may also end with its container. -/
def fenceEnd (r : Region) (f : FenceMark) (stop : Nat) : Nat → (i : Nat) → Nat
  | 0, i => i
  | fuel + 1, i =>
    match r.line? i with
    | none => i
    | some l =>
      if stop ≤ i || (!l.isEmpty && r.isOutdented l) then i
      else if !r.isCode l && f.closedBy l.body then i + 1
      else r.fenceEnd f stop fuel (i + 1)

/-- The line behind a block of raw HTML, from the line after its first on. -/
def htmlEnd (r : Region) (b : Html.Block) (stop : Nat) : Nat → (i : Nat) → Nat
  | 0, i => i
  | fuel + 1, i =>
    match r.line? i with
    | none => i
    | some l =>
      if stop ≤ i || r.isOutdented l then i
      else if b.endsIn l.body then (if l.isEmpty then i else i + 1)
      else r.htmlEnd b stop fuel (i + 1)

/-- Whether line `i` continues a paragraph, or a definition, that ends at `stop` at the latest. -/
def continues (r : Region) (i stop : Nat) (inParagraph : Bool) : Bool :=
  match r.line? i with
  | none => false
  | some l =>
    !l.isEmpty && (r.isCode l || l.indent < 0 || !r.endsParagraph i stop inParagraph)

/-- The line behind a paragraph, from the line after its first on. -/
def paragraphEnd (r : Region) (inParagraph : Bool) : Nat → (i : Nat) → Nat
  | 0, i => i
  | fuel + 1, i =>
    if r.continues i r.lines.size inParagraph then r.paragraphEnd inParagraph fuel (i + 1) else i

/-- The line that underlines a paragraph into a heading, and the depth of the heading. -/
def underline? (r : Region) (stop : Nat) : Nat → (i : Nat) → Option (Nat × Nat)
  | 0, _ => none
  | fuel + 1, i =>
    match r.line? i with
    | none => none
    | some l =>
      if stop ≤ i || l.isEmpty then none
      else if r.isCode l then r.underline? stop fuel (i + 1)
      else match if r.isOutdented l then none else underlineDepth? l.body with
        | some depth => some (i, depth)
        | none => if r.continues i stop true then r.underline? stop fuel (i + 1) else none

/-- The text of the lines from one up to another. -/
def textOf (r : Region) (first last : Nat) : String :=
  let lines := (r.lines.extract first last).toList.map (·.textFrom r.margin)
  String.ofList (Text.trimSpacing (Text.joinWith ['\n'] lines))

/-- The lines of a quote, without their marks, from line `i` on: those with a mark, and those that
continue a paragraph without one. The result tells whether another block cut the quote off. -/
def quoteLines (r : Region) (stop : Nat) :
    Nat → (i : Nat) → (lastEmpty : Bool) → List Line × Bool
  | 0, _, _ => ([], false)
  | fuel + 1, i, lastEmpty =>
    match r.line? i with
    | none => ([], false)
    | some l =>
      if stop ≤ i || l.isEmpty then ([], false)
      else match if r.isOutdented l then none else l.unquote? with
        | some inner =>
          let (ls, cut) := r.quoteLines stop fuel (i + 1) inner.isEmpty
          (inner :: ls, cut)
        | none =>
          if lastEmpty then ([], false)
          else if r.endsQuote l false then ([], true)
          else
            let (ls, cut) := r.quoteLines stop fuel (i + 1) false
            (l.lazily :: ls, cut)

/-- The lines with those from `i` on replaced. -/
def replace (r : Region) (i : Nat) (ls : List Line) : Array Line :=
  r.lines.extract 0 i ++ ls.toArray ++ r.lines.extract (i + ls.length) r.lines.size

/-- Reads a quote whose first line, without its mark, is given. -/
def quote (r : Region) (read : ContainerReader) (d : Definitions) (i stop : Nat) (first : Line) :
    Reading :=
  let (ls, cut) := r.quoteLines stop r.lines.size (i + 1) first.isEmpty
  let last := i + 1 + ls.length
  let lines := r.replace i (first :: ls)
  let inner := read { r with lines := if cut then lines.extract 0 last else lines, margin := 0 }
    d i last
  ⟨[.quote i inner.next inner.blocks], inner.definitions, inner.next⟩

/-- The first line of a list item without its marker, and the column where the content of the
item starts: behind the marker and the white space after it, or one column behind the marker if
the line has no content or is indented as code. -/
def itemLine (l : Line) (m : ListMarker) : Line × Int :=
  let marked := l.indent + m.width
  let behind := l.body.drop m.width
  let space := behind.takeWhile isTabOrSpace
  let body := behind.dropWhile isTabOrSpace
  let content := columnAfter l.origin marked space
  let gap := if body.isEmpty || 4 < content - marked then 1 else content - marked
  (⟨l.lead ++ l.body.take m.width ++ space, body, content, l.origin⟩, marked + gap)

/-- Reads the items of a list, the first of which has its marker on line `i`. -/
def items (r : Region) (read : ContainerReader) (stop : Nat) (m : ListMarker) :
    Nat → Definitions → (i : Nat) → List (List Block) × Definitions × Nat
  | 0, d, i => ([], d, i)
  | fuel + 1, d, i =>
    match r.line? i with
    | none => ([], d, i)
    | some l =>
      let (first, margin) := itemLine l m
      let inner : Reading :=
        if first.isEmpty && r.isEmpty (i + 1) then ⟨[], d, min (i + 2) stop⟩
        else read ⟨r.replace i [first], margin, some r.margin⟩ d i stop
      let next := inner.next
      let marker? := (r.line? next).bind fun l =>
        if stop ≤ next || r.isOutdented l || r.isCode l || r.endsList l then none
        else (listMarker? l.body).filter fun m' =>
          m'.isOrdered == m.isOrdered && m'.symbol == m.symbol
      match marker? with
      | none => ([inner.blocks], inner.definitions, next)
      | some m =>
        let (rest, d, next) := r.items read stop m fuel inner.definitions next
        (inner.blocks :: rest, d, next)

/-- The definition on line `i` and those that continue its paragraph. -/
def definition? (r : Region) (i : Nat) (l : Line) : Option LinkDefinition :=
  if l.body.head? = some '[' then
    let last := r.paragraphEnd false r.lines.size (i + 1)
    LinkDefinition.parse? ((r.lines.extract i last).toList.map Line.body)
  else none

/-- Reads the block that starts on line `i`. `quoted` reads the inside of a quote, `listed` that
of a list item. -/
def block (r : Region) (quoted listed : ContainerReader) (d : Definitions) (i stop : Nat)
    (l : Line) : Reading :=
  let size := r.lines.size
  match r.tableHeader? i stop with
  | some header =>
    let (rows, next) := r.tableRows header.length stop size (i + 2) 0
    ⟨[.table (header.map String.ofList) (rows.map (·.map String.ofList))], d, next⟩
  | none =>
    if r.isCode l then ⟨[.indentedCode], d, r.codeEnd stop size (i + 1) (i + 1)⟩
    else match fenceMark? l.body with
    | some f => ⟨[.fence], d, r.fenceEnd f stop size (i + 1)⟩
    | none =>
    match l.unquote? with
    | some first => r.quote quoted d i stop first
    | none =>
    if isRule l.body then ⟨[.rule], d, i + 1⟩
    else match r.marker? l false with
    | some m =>
      let (inner, d, next) := r.items listed stop m size d i
      ⟨[.list m.isOrdered inner], d, next⟩
    | none =>
    match r.definition? i l with
    | some found => ⟨[], d.insert found.key found.target, i + found.lineCount⟩
    | none =>
    match Html.Block.of? l.body with
    | some b =>
      ⟨[.html], d, if b.endsIn l.body then i + 1 else r.htmlEnd b stop size (i + 1)⟩
    | none =>
    match headingText? l.body with
    | some (depth, text) => ⟨[.heading depth (String.ofList text)], d, i + 1⟩
    | none =>
    match r.underline? stop size (i + 1) with
    | some (last, depth) => ⟨[.heading depth (r.textOf i last)], d, last + 1⟩
    | none =>
      let last := r.paragraphEnd true size (i + 1)
      ⟨[.paragraph (r.textOf i last)], d, last⟩

/-- Reads blocks one after the other, by a reader for single blocks or `none` where containers
nest too deep. The first number bounds the number of blocks. -/
def readBlocks (r : Region) (block? : Option (Definitions → (i : Nat) → Line → Reading))
    (stop : Nat) : Nat → Definitions → (i : Nat) → Reading
  | 0, d, i => ⟨[], d, i⟩
  | fuel + 1, d, i =>
    if stop ≤ i then ⟨[], d, i⟩
    else
      let i := r.skipEmpty i
      match r.line? i with
      | none => ⟨[], d, i⟩
      | some l =>
        if stop ≤ i || r.isOutdented l then ⟨[], d, i⟩
        else match block? with
          | none => ⟨[], d, stop⟩
          | some block =>
            let here := block d i l
            let next := if here.next < stop && r.isEmpty here.next then here.next + 1
              else here.next
            let rest := r.readBlocks block? stop fuel here.definitions next
            ⟨here.blocks ++ rest.blocks, rest.definitions, rest.next⟩

end Region

/-- Reads the inside of a container. The number is how deep containers may still nest. -/
def readContainer : Nat → ContainerReader
  | 0, r, d, i, stop => r.readBlocks none stop (r.lines.size + 1) d i
  | 1, r, d, i, stop =>
    r.readBlocks (some fun d i l => r.block (readContainer 0) (readContainer 0) d i stop l) stop
      (r.lines.size + 1) d i
  | depth + 2, r, d, i, stop =>
    r.readBlocks
      (some fun d i l => r.block (readContainer (depth + 1)) (readContainer depth) d i stop l) stop
      (r.lines.size + 1) d i

/-- The blocks of a text, and its definitions. -/
def Document.parse (s : String) : Document :=
  let lines := (linesOf (normalize s.toList)).toArray
  let reading := readContainer maxNesting ⟨lines, 0, none⟩ Definitions.empty 0 lines.size
  ⟨reading.blocks, reading.definitions⟩

/-- The nodes of a text of the document. -/
def Document.inlines (d : Document) (content : String) : List Inline :=
  Markdown.inlines d.definitions content

end SlideDeck.Markdown
