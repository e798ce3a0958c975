import SlideDeck.Proofs.Deck.Bullets
import SlideDeck.Proofs.Drawing.Deck

/-!
The bullets of a drawn deck. A text block has one bullet at most, in its first run, so that only the
first paragraph of its text box can have one.
-/

namespace SlideDeck.Drawing

open Deck Layout

variable {g : Gallery}

/-- If only the first run may have a bullet, only the first paragraph gets one: from that run, or
because it has one already. -/
theorem bulleted_of_blockFrom {bulleted : Bool} {current : Paragraph} {runs : List Run}
    (hruns : ∀ r ∈ runs.tail, r.style.isBullet = false) {paragraphs : List Paragraph}
    (h : blockFrom bulleted current runs = .ok paragraphs) :
    ∃ first rest, paragraphs = first :: rest ∧
      first.bulleted =
        (current.bulleted || (runs.head?.any (·.style.isBullet) && !bulleted)) ∧
      ∀ p ∈ rest, p.bulleted = false := by
  induction runs generalizing bulleted current paragraphs with
  | nil =>
    cases h
    exact ⟨current, [], rfl, by simp, List.forall_mem_nil _⟩
  | cons r rs ih =>
    have hrs : ∀ r ∈ rs.tail, r.style.isBullet = false :=
      fun r hr => hruns r (List.mem_of_mem_tail hr)
    have hhead : rs.head?.any (·.style.isBullet) = false := by
      cases rs with
      | nil => rfl
      | cons r' rs => exact hruns r' List.mem_cons_self
    -- Behind the first run there is no bullet left to give.
    have hlater {bulleted : Bool} {current : Paragraph} {paragraphs : List Paragraph}
        (h : blockFrom bulleted current rs = .ok paragraphs) :
        ∃ first rest, paragraphs = first :: rest ∧ first.bulleted = current.bulleted ∧
          ∀ p ∈ rest, p.bulleted = false := by
      obtain ⟨first, rest, hparagraphs, hfirst, hrest⟩ := ih hrs h
      rw [hhead, Bool.false_and, Bool.or_false] at hfirst
      exact ⟨first, rest, hparagraphs, hfirst, hrest⟩
    rw [blockFrom] at h
    dsimp only at h
    split at h
    · cases hrest : blockFrom (bulleted || r.style.isBullet && !bulleted) {} rs with
      | error e =>
        rw [hrest] at h
        cases h
      | ok paragraphs =>
        rw [hrest] at h
        cases h
        obtain ⟨first, rest, rfl, hfirst, hlast⟩ := hlater hrest
        exact ⟨_, _, rfl, rfl, List.forall_mem_cons.mpr ⟨hfirst, hlast⟩⟩
    · split at h
      · exact hlater h
      · cases hspan : runSpan r with
        | error e =>
          rw [hspan] at h
          cases h
        | ok span =>
          rw [hspan] at h
          exact hlater h

theorem bulleted_of_blockParagraphs {first : Run} {rest : List Run}
    (hrest : ∀ r ∈ rest, r.style.isBullet = false) {paragraphs : List Paragraph}
    (h : blockParagraphs (first :: rest) = .ok paragraphs) :
    ∃ top below, paragraphs = top :: below ∧ top.bulleted = first.style.isBullet ∧
      ∀ p ∈ below, p.bulleted = false := by
  have htail : ∀ r ∈ (first :: rest).tail, r.style.isBullet = false := hrest
  obtain ⟨top, below, hparagraphs, htop, hbelow⟩ := bulleted_of_blockFrom htail h
  exact ⟨top, below, hparagraphs, by simpa using htop, hbelow⟩

/-- The only text box among the placeholders is that of the title. -/
theorem textBox_of_titled {title : Paragraph} {ps : List Placeholder} {fs : List Figure}
    (h : Titled title ps fs) {box : Box Int} {paragraphs : List Paragraph}
    (hbox : .textBox box paragraphs ∈ fs) : paragraphs = [title] := by
  have hplain {qs : List Placeholder} : .textBox box paragraphs ∉ qs.map Placeholder.figure := by
    intro hq
    obtain ⟨q, -, ⟨⟩⟩ := List.mem_map.mp hq
  cases h with
  | placeholder _ _ _ =>
    obtain hfront | hrest := List.mem_append.mp hbox
    · exact absurd hfront hplain
    · obtain hp | hback := List.mem_cons.mp hrest
      · cases hp
      · exact absurd hback hplain
  | textBox _ =>
    obtain hfront | hlast := List.mem_append.mp hbox
    · exact absurd hfront hplain
    · cases List.mem_singleton.mp hlast
      rfl

/-- The paragraphs of a text block. There is a bullet before the first of them if the block is that
of a point, and before no other. -/
def BulletsFor (s : Segment) (runs : List Run) (paragraphs : List Paragraph) : Prop :=
  ∃ first rest, paragraphs = first :: rest ∧ (first.bulleted ↔ s.IsPoint runs) ∧
    ∀ p ∈ rest, p.bulleted = false

def DepictsBullets (g : Gallery) (s : Segment) (q : Placed Float) (f : Figure) : Prop :=
  Depicts g q f ∧ ∀ runs, q.element = .textBlock runs →
    ∃ box paragraphs, f = .textBox box paragraphs ∧ BulletsFor s runs paragraphs

/-- A drawn slide shows a segment: the figures of its placed elements stand behind others, of which
no text box has a bullet. -/
def ShowsBullets (g : Gallery) (s : Segment) (d : DrawnSlide) : Prop :=
  ∃ placed titles drawn, placeSlide shapeSize s.slide = .ok placed ∧ d.figures = titles ++ drawn ∧
    (∀ box paragraphs, .textBox box paragraphs ∈ titles → ∀ p ∈ paragraphs, p.bulleted = false) ∧
    List.Forall₂ (DepictsBullets g s) (placed.elements.filter (isDrawn g)) drawn

theorem bulletsFor_of_mem_slide {s : Segment} {runs : List Run}
    (hmem : .textBlock runs ∈ s.slide.elements) {paragraphs : List Paragraph}
    (h : blockParagraphs runs = .ok paragraphs) : BulletsFor s runs paragraphs := by
  obtain ⟨first, rest, rfl, hpoint, hrest⟩ := bullets_of_mem_slide hmem
  obtain ⟨top, below, rfl, htop, hbelow⟩ := bulleted_of_blockParagraphs hrest h
  rw [← htop] at hpoint
  exact ⟨top, below, rfl, hpoint, hbelow⟩

theorem depictsBullets_of_depicts {s : Segment} {q : Placed Float} {f : Figure}
    (hmem : q.element ∈ s.slide.elements) (h : Depicts g q f) : DepictsBullets g s q f := by
  refine ⟨h, fun runs hq => ?_⟩
  rw [hq] at hmem
  cases h with
  | textBox hbox hparagraphs =>
    cases hq
    exact ⟨_, _, rfl, bulletsFor_of_mem_slide hmem hparagraphs⟩
  | table | connector | shape | picture => cases hq

theorem showsBullets_of_shows {l : SlideLayout} {s : Segment} {placed : PlacedSlide Float}
    {d : DrawnSlide} (hplaced : placeSlide shapeSize s.slide = .ok placed)
    (h : Shows g l placed d) : ShowsBullets g s d := by
  obtain ⟨text, front, drawn, -, htitled, hfigures, hdepicts⟩ := h.figures
  refine ⟨placed, front, drawn, hplaced, hfigures, ?_, ?_⟩
  · intro box paragraphs hbox p hp
    rw [textBox_of_titled htitled hbox, List.mem_singleton] at hp
    rw [hp]
    rfl
  · have hmem : ∀ q ∈ placed.elements.filter (isDrawn g), q.element ∈ s.slide.elements := by
      intro q hq
      obtain ⟨c, hc, he, -⟩ := mem_placeSlide hplaced (List.mem_of_mem_filter hq)
      exact mem_of_mem_columns hc he
    exact ((List.forall₂_and_left _ _).mpr ⟨hmem, hdepicts⟩).imp
      fun q f h => depictsBullets_of_depicts h.1 h.2

theorem showsBullets_of_drawSlides {l : SlideLayout} {ss : List Segment}
    {placed : List (PlacedSlide Float)} {drawn : List DrawnSlide}
    (hplaced : List.Forall₂ (fun s p => placeSlide shapeSize s.slide = .ok p) ss placed)
    (hdrawn : List.Forall₂ (Shows g l) placed drawn) :
    List.Forall₂ (ShowsBullets g) ss drawn := by
  induction hplaced generalizing drawn with
  | nil =>
    cases hdrawn
    exact .nil
  | cons hs _ ih =>
    cases hdrawn with
    | cons hshows hrest => exact .cons (showsBullets_of_shows hs hshows) (ih hrest)

/-- Whatever a text box shows, a bullet can only stand before its first paragraph. -/
theorem not_bulleted_of_mem_tail {s : Segment} {d : DrawnSlide} (h : ShowsBullets g s d)
    {box : Box Int} {paragraphs : List Paragraph} (hbox : .textBox box paragraphs ∈ d.figures) :
    ∀ p ∈ paragraphs.tail, p.bulleted = false := by
  obtain ⟨placed, titles, drawn, -, hfigures, htitles, hdrawn⟩ := h
  rw [hfigures, List.mem_append] at hbox
  obtain hbox | hbox := hbox
  · exact fun p hp => htitles box paragraphs hbox p (List.mem_of_mem_tail hp)
  · obtain ⟨q, -, hdepicts, hbullets⟩ := exists_related_of_mem hdrawn.flip hbox
    cases hdepicts with
    | textBox hplace hparagraphs =>
      obtain ⟨_, _, ⟨⟩, first, rest, rfl, -, hrest⟩ := hbullets _ rfl
      exact hrest

theorem elements_of_body {s : Segment} {before after : List Passage} {ordered : Bool}
    {items : List Item} (h : s.body = before ++ .list ordered items :: after) :
    s.slide.elements =
      before.flatMap Passage.elements ++ itemBlocks items ++ after.flatMap Passage.elements := by
  rw [Segment.slide, h, List.flatMap_append, List.flatMap_cons, List.append_assoc]
  rfl

/-- A list adds a text block for each of its items that has runs, in their order, and it shows the
item; a deck that is drawn from what was built has bullets before the first paragraphs of the items
that are no tasks, and nowhere else. -/
theorem bullets_of_build (ps : List Passage) :
    (∀ ordered items, contribution (.list ordered items) = .ok { elements := itemBlocks items }) ∧
    (∀ i : Item, resolveAll {} i.phrases ≠ [] → i.IsShownBy (itemRuns i)) ∧
    ∀ slides, (build ps).slides = .ok slides →
      slides = (segments ps).map Segment.slide ∧
      (∀ s ∈ segments ps, ∀ before ordered items after,
        s.body = before ++ .list ordered items :: after →
        s.slide.elements =
          before.flatMap Passage.elements ++ itemBlocks items ++ after.flatMap Passage.elements) ∧
      (∀ s ∈ segments ps, ∀ runs, .textBlock runs ∈ s.slide.elements → ∀ b box paragraphs,
        (drawTextBlock b runs).result = .ok (.textBox box paragraphs) →
        BulletsFor s runs paragraphs) ∧
      ∀ placed, placeDeck slides = .ok placed → ∀ g template deck,
        (drawDeck g template placed).result = .ok deck →
        List.Forall₂ (ShowsBullets g) (segments ps) deck.slides ∧
          ∀ d ∈ deck.slides, ∀ box paragraphs, .textBox box paragraphs ∈ d.figures →
            ∀ p ∈ paragraphs.tail, p.bulleted = false := by
  refine ⟨fun ordered items => ?_, fun i => isShownBy_itemRuns, fun slides hb => ?_⟩
  · rw [contribution, listBlocks_eq ordered]
    rfl
  · obtain ⟨-, rfl⟩ := build_slides_eq_ok.mp hb
    refine ⟨rfl, fun s _ before ordered items after => elements_of_body, ?_, ?_⟩
    · intro s _ runs hmem b box paragraphs hdraw
      obtain ⟨-, hdepicts⟩ := drawTextBlock_ok (g := ⟨{}, none, PictureFormat.verdict⟩)
        (Logged.eq_of_result hdraw) 0
      cases hdepicts with
      | textBox hbox hparagraphs => exact bulletsFor_of_mem_slide hmem hparagraphs
    · intro placed hplaced g template deck hdeck
      have hsegments := List.forall₂_map_left_iff.mp (forall₂_of_mapM hplaced)
      obtain ⟨⟨t, l, -, -, hshows⟩, -⟩ := drawDeck_ok (Logged.eq_of_result hdeck)
      have hbullets := showsBullets_of_drawSlides hsegments hshows
      refine ⟨hbullets, fun d hd box paragraphs hbox => ?_⟩
      obtain ⟨s, -, hs⟩ := exists_related_of_mem hbullets.flip hd
      exact not_bulleted_of_mem_tail hs hbox

/-- A point over two lines, an item without runs and a task. -/
def pointTalk : List Passage :=
  [.heading 1 "T", .list false [⟨"a", [.bold [.text "a", .lineBreak], .text "b"], false, false⟩,
    ⟨"", [], false, false⟩, ⟨"c", [.text "c"], true, true⟩]]

theorem bullets_of_build_pointTalk :
    ∃ placed deck, (build pointTalk).slides = .ok ((segments pointTalk).map Segment.slide) ∧
      (segments pointTalk).map Segment.slide = [⟨"T", [
        .textBlock [⟨"a", { bold := true, isBullet := true }⟩,
          ⟨"\n", { bold := true, breaksLine := true }⟩, ⟨"b", {}⟩],
        .textBlock [⟨"☑ c", {}⟩]], none⟩] ∧
      placeDeck ((segments pointTalk).map Segment.slide) = .ok placed ∧
      (drawDeck smallGallery none placed).result = .ok deck ∧
      List.Forall₂ (ShowsBullets smallGallery) (segments pointTalk) deck.slides := by
  have hb : (build pointTalk).slides = .ok ((segments pointTalk).map Segment.slide) := rfl
  have hok : ((placeDeck ((segments pointTalk).map Segment.slide)).toOption.any fun placed =>
      (drawDeck smallGallery none placed).result.isOk) := by
    decide +kernel
  cases hplaced : placeDeck ((segments pointTalk).map Segment.slide) with
  | error e =>
    rw [hplaced] at hok
    cases hok
  | ok placed =>
    cases hdeck : (drawDeck smallGallery none placed).result with
    | error e =>
      rw [hplaced, Except.toOption, Option.any_some, hdeck] at hok
      cases hok
    | ok deck =>
      obtain ⟨-, -, hbuilt⟩ := bullets_of_build pointTalk
      obtain ⟨-, -, -, hdrawn⟩ := hbuilt _ hb
      exact ⟨placed, deck, hb, rfl, rfl, hdeck, (hdrawn placed hplaced _ none deck hdeck).1⟩

end SlideDeck.Drawing
