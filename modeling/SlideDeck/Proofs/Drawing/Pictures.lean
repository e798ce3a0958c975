import SlideDeck.Proofs.Drawing.Insertion
import SlideDeck.Proofs.Drawing.TextBlock
import SlideDeck.Proofs.Text.Lines

/-!
What becomes of a picture. It is drawn if a picture that the reader knows stands where its address
points to, and skipped with one notice if not. What ends the drawing is an address that the files
cannot be asked for, or a reader that breaks off.
-/

namespace SlideDeck.Drawing

open Deck Layout Files

variable {g : Gallery}

/-- A placed picture has its place on the canvas. -/
theorem exists_box_of_picture {deck : List Slide} {slides : List (PlacedSlide Float)}
    (h : placeDeck deck = .ok slides) {s : PlacedSlide Float} (hs : s ∈ slides) {q : Placed Float}
    (hq : q ∈ s.elements) {pic : Picture} (he : q.element = .picture pic) :
    ∃ box, boxOfInches q.box = .ok box := by
  obtain ⟨w, y, size, hwidth, -, -, -, hext, hbox⟩ := exists_place_of_mem_placeDeck h hs hq
  have hheight : ofInches pictureHeight = .ok 2743200 := by decide
  rw [he] at hext
  cases hext
  exact hbox hwidth ⟨_, hheight⟩

theorem drawPicture_of_holds {p : Picture} {b : Box Float} {box : Box Int} {octets : List UInt8}
    (hbox : boxOfInches b = .ok box) (h : g.Holds p.href octets) :
    drawPicture g b p = ⟨[], .ok [.picture box octets]⟩ :=
  drawPicture_of_figure (pictureFigure_of_holds hbox h)

theorem drawPicture_of_breaks {p : Picture} {b : Box Float} {box : Box Int} {e : DrawError}
    (hbox : boxOfInches b = .ok box) (h : g.Breaks p.href e) :
    drawPicture g b p = ⟨[], .error e⟩ :=
  drawPicture_of_error (pictureFigure_of_breaks hbox h)

/-- Any other picture is skipped, with its notice. -/
theorem drawPicture_of_not_holds {p : Picture} {b : Box Float} {box : Box Int}
    (hbox : boxOfInches b = .ok box) (hb : ∀ e, ¬g.Breaks p.href e)
    (hh : ∀ octets, ¬g.Holds p.href octets) :
    ∃ fault, drawPicture g b p = ⟨[.skippedPicture p.href fault], .ok []⟩ := by
  rcases hf : pictureFigure g b p.href with e | fault | f
  · exact absurd ((pictureFigure_eq_error_iff hbox e).mp hf) (hb e)
  · exact ⟨fault, drawPicture_of_fault hf⟩
  · obtain ⟨_, octets, -, h, -⟩ := (pictureFigure_eq_picture_iff f).mp hf
    exact absurd h (hh octets)

/-- A deck with a picture at which the drawing ends is not drawn. -/
theorem drawDeck_of_breaks {slides : List (PlacedSlide Float)} {s : PlacedSlide Float}
    (hs : s ∈ slides) {q : Placed Float} (hq : q ∈ s.elements) {pic : Picture}
    (he : q.element = .picture pic) {box : Box Int} (hbox : boxOfInches q.box = .ok box)
    {e : DrawError} (h : g.Breaks pic.href e) (template : Option Package) (p : Presentation) :
    (drawDeck g template slides).result ≠ .ok p := by
  intro hp
  have hfigure := pictureFigure_of_breaks hbox h
  have hdrawn : q ∈ s.elements.filter (isDrawn g) := by
    refine List.mem_filter.mpr ⟨hq, ?_⟩
    simp [isDrawn, he, isBreak, skipNotice?, pictureFault?, hfigure]
  obtain ⟨⟨t, l, -, -, hshows⟩, -⟩ := drawDeck_ok (Logged.eq_of_result hp)
  obtain ⟨d, -, hd⟩ := exists_related_of_mem hshows hs
  obtain ⟨text, front, drawn, -, -, -, hdepicts⟩ := hd.figures
  obtain ⟨figure, -, hdepict⟩ := exists_related_of_mem hdepicts hdrawn
  obtain ⟨e, b, column⟩ := q
  obtain rfl : e = .picture pic := he
  cases hdepict with
  | picture hbox hholds => cases hfigure.symm.trans (pictureFigure_of_holds hbox hholds)

/-- A picture at which the drawing does not end leaves nothing but its figure or its notice. -/
theorem exists_drawElement_of_picture {q : Placed Float} {pic : Picture} {box : Box Int}
    (he : q.element = .picture pic) (hbox : boxOfInches q.box = .ok box)
    (h : ∀ e, ¬g.Breaks pic.href e) :
    ∃ ns extra, drawElement g q = ⟨ns, .ok extra⟩ ∧ extra.flatMap Figure.links = [] := by
  rw [drawElement, he]
  by_cases hh : ∃ octets, g.Holds pic.href octets
  · obtain ⟨octets, hoctets⟩ := hh
    exact ⟨[], [.picture box octets], drawPicture_of_holds hbox hoctets, rfl⟩
  · obtain ⟨fault, hfault⟩ := drawPicture_of_not_holds hbox h (not_exists.mp hh)
    exact ⟨_, [], hfault, rfl⟩

/-- A placed picture is drawn if a picture stands where its address points to and is skipped with
one notice if not, unless the drawing ends at it; and but for its own figure or notice the deck is
drawn, or fails to be drawn, as without it. The drawing ends where the files cannot be asked for the
address and where the reader breaks off, and then there is no deck. -/
theorem drawDeck_picture {deck : List Slide} {slides : List (PlacedSlide Float)}
    (hplaced : placeDeck deck = .ok slides) {before after : List (PlacedSlide Float)}
    {title : String} {notes : Option String} {es es' : List (Placed Float)} {q : Placed Float}
    (hslides : slides = before ++ ⟨title, notes, es ++ q :: es'⟩ :: after) {pic : Picture}
    (he : q.element = .picture pic) (g : Gallery) :
    ∃ box, boxOfInches q.box = .ok box ∧
      (∀ octets, g.Holds pic.href octets → drawElement g q = ⟨[], .ok [.picture box octets]⟩) ∧
      ((∀ e, ¬g.Breaks pic.href e) → (∀ octets, ¬g.Holds pic.href octets) →
        ∃ fault, drawElement g q = ⟨[.skippedPicture pic.href fault], .ok []⟩) ∧
      ((∀ e, ¬g.Breaks pic.href e) → ∃ ns extra, drawElement g q = ⟨ns, .ok extra⟩ ∧ ∀ template,
        Logged.Extends ns
          (fun p p' => p.width = p'.width ∧ p.height = p'.height ∧
            GainsAt extra before.length p.slides p'.slides)
          (drawDeck g template slides)
          (drawDeck g template (before ++ ⟨title, notes, es ++ es'⟩ :: after))) ∧
      ∀ e, g.Breaks pic.href e → drawElement g q = ⟨[], .error e⟩ ∧
        ∀ template p, (drawDeck g template slides).result ≠ .ok p := by
  have hs : ⟨title, notes, es ++ q :: es'⟩ ∈ slides := by
    rw [hslides]
    exact List.mem_append_right _ List.mem_cons_self
  have hq : q ∈ es ++ q :: es' := List.mem_append_right _ List.mem_cons_self
  obtain ⟨box, hbox⟩ := exists_box_of_picture hplaced hs hq he
  have hdraw : drawElement g q = drawPicture g q.box pic := by rw [drawElement, he]
  refine ⟨box, hbox, ?_, ?_, ?_, ?_⟩
  · intro octets hoctets
    exact hdraw.trans (drawPicture_of_holds hbox hoctets)
  · intro hb hh
    obtain ⟨fault, hfault⟩ := drawPicture_of_not_holds hbox hb hh
    exact ⟨fault, hdraw.trans hfault⟩
  · intro hb
    obtain ⟨ns, extra, hextra, hlinks⟩ := exists_drawElement_of_picture he hbox hb
    subst hslides
    exact ⟨ns, extra, hextra, fun template =>
      drawDeck_extends hextra hlinks template before after title notes es es'⟩
  · intro e hb
    exact ⟨hdraw.trans (drawPicture_of_breaks hbox hb), drawDeck_of_breaks hs hq he hbox hb⟩

/-- A slide with a picture that is there and one that is missing. -/
def twoPictures : List Slide :=
  [⟨"T", [.picture ⟨"a.gif", ""⟩, .picture ⟨"b.gif", ""⟩], none⟩]

def upperPicture : Placed Float := ⟨.picture ⟨"a.gif", ""⟩, ⟨0.5, 1.2, 9.0, 3.0⟩, 0⟩

def lowerPicture : Placed Float := ⟨.picture ⟨"b.gif", ""⟩, ⟨0.5, 4.4, 9.0, 3.0⟩, 0⟩

def placedPictures : List (PlacedSlide Float) := [⟨"T", none, [upperPicture, lowerPicture]⟩]

theorem placeDeck_twoPictures : placeDeck twoPictures = .ok placedPictures := rfl

theorem holds_smallPicture : smallGallery.Holds "a.gif" smallPicture := by
  refine ⟨?_, rfl, by decide +kernel⟩
  unfold IsLocal
  decide

theorem drawDeck_picture_twoPictures :
    placeDeck twoPictures = .ok placedPictures ∧
    (∃ box, drawElement smallGallery upperPicture = ⟨[], .ok [.picture box smallPicture]⟩) ∧
    ∃ fault,
      drawElement smallGallery lowerPicture = ⟨[.skippedPicture "b.gif" fault], .ok []⟩ ∧
      Logged.Extends [.skippedPicture "b.gif" fault]
        (fun p p' => p.width = p'.width ∧ p.height = p'.height ∧ GainsAt [] 0 p.slides p'.slides)
        (drawDeck smallGallery none placedPictures)
        (drawDeck smallGallery none [⟨"T", none, [upperPicture]⟩]) := by
  obtain ⟨box, hbox⟩ := exists_box_of_picture placeDeck_twoPictures List.mem_cons_self
    (List.mem_cons_of_mem upperPicture (List.mem_singleton_self lowerPicture)) rfl
  have hmissing : pictureFigure smallGallery lowerPicture.box "b.gif" = .ok (.error .notReadable) :=
    pictureFigure_of_none rfl
  have hnone (octets : List UInt8) : ¬smallGallery.Holds "b.gif" octets := by
    intro h
    cases hmissing.symm.trans (pictureFigure_of_holds hbox h)
  have haccepted (e : DrawError) : ¬smallGallery.Breaks "b.gif" e := by
    intro h
    cases hmissing.symm.trans (pictureFigure_of_breaks hbox h)
  have hupper :
      placedPictures = [] ++ ⟨"T", none, [] ++ upperPicture :: [lowerPicture]⟩ :: [] := rfl
  have hlower :
      placedPictures = [] ++ ⟨"T", none, [upperPicture] ++ lowerPicture :: []⟩ :: [] := rfl
  refine ⟨placeDeck_twoPictures, ?_, ?_⟩
  · obtain ⟨box, -, hdrawn, -⟩ := drawDeck_picture placeDeck_twoPictures hupper rfl smallGallery
    exact ⟨box, hdrawn smallPicture holds_smallPicture⟩
  · obtain ⟨box, -, -, hskipped, hrest, -⟩ :=
      drawDeck_picture placeDeck_twoPictures hlower rfl smallGallery
    obtain ⟨fault, hfault⟩ := hskipped haccepted hnone
    obtain ⟨ns, extra, hextra, hdeck⟩ := hrest haccepted
    obtain ⟨rfl, hnil⟩ := Logged.mk.inj (hextra.symm.trans hfault)
    obtain rfl := Except.ok.inj hnil
    exact ⟨fault, hfault, hdeck none⟩

/-- In a working directory that may be searched, a single name is rejected for its length, whatever
files there are. -/
theorem breaks_of_long (files : FileTree Package) (hread : files.mayRead ⟨.relative, []⟩)
    (reader : PictureReader) {name : List Char} (hslash : '/' ∉ name) (hcolon : ':' ∉ name)
    (hnull : '\x00' ∉ name) (hlong : maxComponent < (String.ofList name).utf8ByteSize) :
    ∃ e, (⟨files, none, reader⟩ : Gallery).Breaks (String.ofList name) e := by
  have hlist : (String.ofList name).toList = name := String.toList_ofList
  have hne : String.ofList name ≠ "" ∧ String.ofList name ≠ "." := by
    constructor <;> intro h <;> rw [h] at hlong <;> exact absurd hlong (by decide)
  have hslashes : name.takeWhile (· == '/') = [] := by
    cases name with
    | nil => rfl
    | cons c name =>
      exact List.takeWhile_cons_of_neg fun h => hslash (beq_iff_eq.mp h ▸ List.mem_cons_self)
  have hpath : (⟨files, none, reader⟩ : Gallery).path (String.ofList name) =
      ⟨.relative, [String.ofList name]⟩ := by
    rw [Gallery.path, Path.ofString, hlist, Text.splitOn_eq_self hslash, hslashes]
    simp [hne]
  have hlocal : IsLocal (String.ofList name) := by
    rw [IsLocal, hlist]
    exact ⟨fun h => hcolon (h.subset (by decide)), hnull⟩
  refine ⟨_, .rejected (k := .nameTooLong) hlocal ?_⟩
  rw [hpath]
  by_cases htext : maxPath < (⟨.relative, [String.ofList name]⟩ : Path).text.utf8ByteSize
  · exact .nameTooLong htext
  · have hparts : (⟨.relative, [String.ofList name]⟩ : Path).parts =
        [] ++ String.ofList name :: [] := rfl
    exact .barred (Nat.le_of_not_lt htext) hparts (FileTree.walk_nil _ _)
      (.nameTooLong hread hlong)

theorem placeDeck_picture (pic : Picture) :
    placeDeck [⟨"T", [.picture pic], none⟩] =
      .ok [⟨"T", none, [⟨.picture pic, ⟨0.5, 1.2, 9.0, 3.0⟩, 0⟩]⟩] := rfl

/-- A name that is too long for the files. -/
def longName : List Char := List.replicate 256 'a'

/-- One address can end the drawing of a whole deck. -/
theorem not_forall_drawElement_picture :
    ¬∀ g deck slides, placeDeck deck = .ok slides → ∀ s ∈ slides, ∀ q ∈ s.elements, ∀ pic,
      q.element = .picture pic → ∃ ns figures, drawElement g q = ⟨ns, .ok figures⟩ := by
  intro h
  have hslash : '/' ∉ longName := by decide
  obtain ⟨e, hbreaks⟩ := breaks_of_long {} rfl PictureFormat.verdict hslash (by decide) (by decide)
    (by decide +kernel)
  generalize String.ofList longName = name at hbreaks
  obtain ⟨ns, figures, hdrawn⟩ := h ⟨{}, none, PictureFormat.verdict⟩ _ _
    (placeDeck_picture ⟨name, ""⟩) _ List.mem_cons_self _ List.mem_cons_self _ rfl
  obtain ⟨box, hbox⟩ := exists_box_of_picture (placeDeck_picture ⟨name, ""⟩) List.mem_cons_self
    List.mem_cons_self rfl
  cases hdrawn.symm.trans (drawPicture_of_breaks hbox hbreaks)

end SlideDeck.Drawing
