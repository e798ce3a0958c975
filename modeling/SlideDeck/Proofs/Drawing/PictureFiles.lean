import SlideDeck.Proofs.Drawing.Pictures

/-!
What of its gallery a drawing depends on: at the address of each of its pictures, what is drawn of
the picture that stands there, if any, or what ends the drawing.
-/

namespace SlideDeck.Drawing

open Deck Layout Files

/-- Two galleries show the same at an address: the same picture, or none, and the drawing ends there
with both or with neither, for the same reason. -/
def ShowAlike (g g' : Gallery) (href : String) : Prop :=
  (∀ octets, g.Holds href octets ↔ g'.Holds href octets) ∧
    ∀ e, g.Breaks href e ↔ g'.Breaks href e

variable {g g' : Gallery}

/-- At an address that is not looked up, all galleries show the same. -/
theorem showAlike_of_not_isLocal (g g' : Gallery) {href : String} (h : ¬IsLocal href) :
    ShowAlike g g' href := by
  have hholds (g : Gallery) (octets : List UInt8) : ¬g.Holds href octets := fun hh => h hh.1
  have hbreaks (g : Gallery) (e : DrawError) : ¬g.Breaks href e := by
    intro hb
    cases hb with
    | rejected hlocal _ => exact h hlocal
    | reader hlocal _ _ => exact h hlocal
  exact ⟨fun octets => iff_of_false (hholds g octets) (hholds g' octets),
    fun e => iff_of_false (hbreaks g e) (hbreaks g' e)⟩

/-- What becomes of a picture is told by its address. -/
theorem drawPicture_congr {pic : Picture} (h : ShowAlike g g' pic.href) {b : Box Float}
    {box : Box Int} (hbox : boxOfInches b = .ok box) :
    (drawPicture g b pic).result = (drawPicture g' b pic).result := by
  obtain ⟨hholds, hbreaks⟩ := h
  rcases hf : pictureFigure g b pic.href with e | fault | f
  · have hb := (hbreaks e).mp ((pictureFigure_eq_error_iff hbox e).mp hf)
    rw [drawPicture_of_error hf, drawPicture_of_breaks hbox hb]
  · have hb (e : DrawError) : ¬g'.Breaks pic.href e := by
      intro hb
      cases hf.symm.trans (pictureFigure_of_breaks hbox ((hbreaks e).mpr hb))
    have hh (octets : List UInt8) : ¬g'.Holds pic.href octets := by
      intro hh
      cases hf.symm.trans (pictureFigure_of_holds hbox ((hholds octets).mpr hh))
    obtain ⟨fault', hfault⟩ := drawPicture_of_not_holds hbox hb hh
    rw [drawPicture_of_fault hf, hfault]
  · obtain ⟨box', octets, hbox', hh, rfl⟩ := (pictureFigure_eq_picture_iff f).mp hf
    rw [drawPicture_of_figure hf, drawPicture_of_holds hbox' ((hholds octets).mp hh)]

theorem drawElements_congr {es : List (Placed Float)}
    (h : ∀ q ∈ es, (drawElement g q).result = (drawElement g' q).result) :
    (drawElements g es).result = (drawElements g' es).result := by
  induction es with
  | nil => rfl
  | cons q es ih =>
    obtain ⟨hq, hes⟩ := List.forall_mem_cons.mp h
    exact Logged.bind_result_congr hq fun _ => Logged.bind_result_congr (ih hes) fun _ => rfl

theorem drawSlide_congr (l : SlideLayout) {s : PlacedSlide Float}
    (h : ∀ q ∈ s.elements, (drawElement g q).result = (drawElement g' q).result) :
    (drawSlide g l s).result = (drawSlide g' l s).result :=
  Logged.bind_result_congr rfl fun _ => Logged.bind_result_congr rfl fun _ =>
    Logged.bind_result_congr (drawElements_congr h) fun _ =>
      Logged.bind_result_congr rfl fun _ => rfl

theorem drawSlides_congr (l : SlideLayout) {slides : List (PlacedSlide Float)}
    (h : ∀ s ∈ slides, ∀ q ∈ s.elements, (drawElement g q).result = (drawElement g' q).result) :
    (drawSlides g l slides).result = (drawSlides g' l slides).result := by
  induction slides with
  | nil => rfl
  | cons s slides ih =>
    obtain ⟨hs, hslides⟩ := List.forall_mem_cons.mp h
    exact Logged.bind_result_congr (drawSlide_congr l hs) fun _ =>
      Logged.bind_result_congr (ih hslides) fun _ => rfl

theorem drawDeck_congr (template : Option Package) {slides : List (PlacedSlide Float)}
    (h : ∀ s ∈ slides, ∀ q ∈ s.elements, (drawElement g q).result = (drawElement g' q).result) :
    (drawDeck g template slides).result = (drawDeck g' template slides).result :=
  Logged.bind_result_congr rfl fun _ => Logged.bind_result_congr rfl fun l =>
    Logged.bind_result_congr (drawSlides_congr l h) fun _ => rfl

/-- A placed deck is drawn alike, or fails alike, with two galleries that show the same at the
addresses of its pictures. -/
theorem drawDeck_of_showAlike {deck : List Slide} {slides : List (PlacedSlide Float)}
    (hplaced : placeDeck deck = .ok slides)
    (h : ∀ s ∈ slides, ∀ q ∈ s.elements, ∀ pic, q.element = .picture pic →
      ShowAlike g g' pic.href) (template : Option Package) :
    (drawDeck g template slides).result = (drawDeck g' template slides).result := by
  refine drawDeck_congr template fun s hs q hq => ?_
  cases he : q.element with
  | picture pic =>
    obtain ⟨box, hbox⟩ := exists_box_of_picture hplaced hs hq he
    rw [drawElement, drawElement, he]
    exact drawPicture_congr (h s hs q hq pic he) hbox
  | textBlock _ | table _ | shape _ | columnBreak => rw [drawElement, drawElement, he]

theorem not_picture_mem_of_titled {title : Paragraph} {ps : List Placeholder} {fs : List Figure}
    (h : Titled title ps fs) (box : Box Int) (octets : List UInt8) : .picture box octets ∉ fs := by
  cases h <;> simp [Placeholder.figure]

/-- Every picture in a drawn deck is one that the gallery has at the address of a placed picture. -/
theorem exists_holds_of_drawDeck {template : Option Package} {slides : List (PlacedSlide Float)}
    {p : Presentation} (h : (drawDeck g template slides).result = .ok p) {d : DrawnSlide}
    (hd : d ∈ p.slides) {box : Box Int} {octets : List UInt8}
    (hmem : .picture box octets ∈ d.figures) :
    ∃ s ∈ slides, ∃ q ∈ s.elements, ∃ pic, q.element = .picture pic ∧ g.Holds pic.href octets := by
  obtain ⟨⟨t, l, -, -, hshows⟩, -⟩ := drawDeck_ok (Logged.eq_of_result h)
  obtain ⟨s, hs, hsd⟩ := exists_related_of_mem hshows.flip hd
  obtain ⟨text, front, drawn, -, htitled, hfigures, hdepicts⟩ := hsd.figures
  rw [hfigures] at hmem
  have hdrawn : .picture box octets ∈ drawn :=
    (List.mem_append.mp hmem).resolve_left (not_picture_mem_of_titled htitled _ _)
  obtain ⟨q, hq, hdepict⟩ := exists_related_of_mem hdepicts.flip hdrawn
  refine ⟨s, hs, q, (List.mem_filter.mp hq).1, ?_⟩
  cases hdepict with
  | @picture _ _ _ pic _ _ hholds => exact ⟨pic, rfl, hholds⟩

end SlideDeck.Drawing
