import SlideDeck.Drawing.Figure

/-!
What a file may hold, and what is made of it as a template.
-/

namespace SlideDeck.Drawing

/-- What a file holds: plain octets, an archive with members of given names, or an archive with a
presentation, which has the layouts and the page size of a template and slides of its own. -/
inductive Package where
  | octets (s : List UInt8)
  | archive (members : List String)
  | presentation (t : Template) (slides : List DrawnSlide)
deriving Inhabited

def contentTypes : String := "[Content_Types].xml"

/-- Opens what is given as a template; an empty file counts as none. -/
def openTemplate : Option Package → Except TemplateError Template
  | none | some (.octets []) => .ok .plain
  | some (.octets _) => .error .noArchive
  | some (.archive members) =>
    .error (if members.contains contentTypes then .noPresentation else .noContentTypes)
  | some (.presentation t _) => .ok t

/-- The slides that a template brings along. -/
def broughtSlides : Option Package → List DrawnSlide
  | some (.presentation _ slides) => slides
  | _ => []

end SlideDeck.Drawing
