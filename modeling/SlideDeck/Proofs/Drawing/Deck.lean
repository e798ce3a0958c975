import SlideDeck.Proofs.Drawing.Figures
import SlideDeck.Proofs.Drawing.Lengths
import SlideDeck.Proofs.Layout.Finite

/-!
A drawn deck: one slide for each placed slide, all on one layout of the template and none of those
that the template brought along. A skipped picture is as good as absent but for its notice.
-/

namespace SlideDeck.Drawing

open Deck Layout Files

variable {g : Gallery}

theorem removeSlides_length {slides : List DrawnSlide} {n : Nat} (h : slides.length = n) :
    removeSlides slides n = [] := by
  induction n generalizing slides with
  | zero => exact List.length_eq_zero_iff.mp h
  | succ n ih =>
    have hlt : n < slides.length := by omega
    exact ih (by rw [List.length_eraseIdx_of_lt hlt, h, Nat.add_sub_cancel])

theorem mem_layouts {t : Template} {l : SlideLayout} (h : t.layout = .ok l) : l ∈ t.layouts := by
  rw [Template.layout] at h
  split at h
  · rename_i hchoice
    obtain rfl := Except.ok.inj h
    obtain hpreferred | ⟨-, hlast⟩ := Option.or_eq_some_iff.mp hchoice
    · obtain ⟨i, -, hi⟩ := Option.bind_eq_some_iff.mp hpreferred
      exact List.mem_of_getElem? hi
    · exact List.mem_of_getLast? hlast
  · cases h

/-- The box of the title on every slide. -/
def titlePlace : Box Int := ⟨457200, 274320, 8229600, 685800⟩

/-- The paragraph of a title: one bold span of 32 points. -/
def titleLine (text : String) : Paragraph :=
  { pieces := [.span { text, size := some 3200, bold := true }] }

/-- A placeholder of the layout as it stands on a slide when nothing is put in it. -/
def Placeholder.figure (p : Placeholder) : Figure := .placeholder p.kind p.box [{}]

def Placeholder.TakesTitle (p : Placeholder) : Prop := p.kind = .title ∨ p.kind = .centeredTitle

/-- What stands on a slide for the placeholders of its layout and a title. Each placeholder has its
figure; of those for a title the one with the least index, or the first of these, holds the title,
in the box of the title. If there is none, the title stands in a text box behind all of them. -/
inductive Titled (title : Paragraph) : List Placeholder → List Figure → Prop where
  | placeholder {before after : List Placeholder} {p : Placeholder} (hp : p.TakesTitle)
    (hbefore : ∀ q ∈ before, q.TakesTitle → p.index < q.index)
    (hafter : ∀ q ∈ after, q.TakesTitle → p.index ≤ q.index) :
    Titled title (before ++ p :: after)
      (before.map Placeholder.figure ++
        .placeholder p.kind titlePlace [title] :: after.map Placeholder.figure)
  | textBox {ps : List Placeholder} (h : ∀ q ∈ ps, ¬q.TakesTitle) :
    Titled title ps (ps.map Placeholder.figure ++ [.textBox titlePlace [title]])

theorem isTitle_iff (p : Placeholder) : p.kind.isTitle ↔ p.TakesTitle := by
  obtain ⟨k, index, box⟩ := p
  cases k <;> simp [PlaceholderKind.isTitle, Placeholder.TakesTitle]

theorem withTitle_append {box : Box Int} {title : Paragraph} {n : Nat}
    {before after : List Placeholder} {p : Placeholder}
    (hbefore : ∀ q ∈ before, ¬(q.kind.isTitle && q.index == n))
    (hp : p.kind.isTitle && p.index == n) :
    withTitle box title n (before ++ p :: after) =
      before.map Placeholder.figure ++
        .placeholder p.kind box [title] :: after.map Placeholder.figure := by
  induction before with
  | nil =>
    rw [List.nil_append, withTitle, if_pos hp]
    rfl
  | cons q before ih =>
    obtain ⟨hq, hrest⟩ := List.forall_mem_cons.mp hbefore
    rw [List.cons_append, withTitle, if_neg hq, ih hrest]
    rfl

theorem titleIndex?_eq_some_iff (ps : List Placeholder) (n : Nat) :
    titleIndex? ps = some n ↔
      (∃ p ∈ ps, p.TakesTitle ∧ p.index = n) ∧ ∀ p ∈ ps, p.TakesTitle → n ≤ p.index := by
  rw [titleIndex?, List.min?_eq_some_iff]
  simp only [List.mem_map, List.mem_filter, isTitle_iff, and_assoc, forall_exists_index, and_imp]
  refine and_congr_right fun _ => ⟨fun h p hp ht => h _ p hp ht rfl, ?_⟩
  rintro h _ p hp ht rfl
  exact h p hp ht

theorem titleIndex?_eq_none_iff (ps : List Placeholder) :
    titleIndex? ps = none ↔ ∀ p ∈ ps, ¬p.TakesTitle := by
  rw [titleIndex?, List.min?_eq_none_iff, List.map_eq_nil_iff, List.filter_eq_nil_iff]
  simp only [isTitle_iff]

theorem titled_titledPlaceholders (title : Paragraph) (ps : List Placeholder) :
    Titled title ps (titledPlaceholders titlePlace title ps) := by
  rw [titledPlaceholders]
  cases hindex : titleIndex? ps with
  | none => exact .textBox ((titleIndex?_eq_none_iff ps).mp hindex)
  | some n =>
    obtain ⟨⟨p, hmem, hp, hn⟩, hleast⟩ := (titleIndex?_eq_some_iff ps n).mp hindex
    have hfound : (ps.find? fun q => q.kind.isTitle && q.index == n).isSome := by
      rw [List.find?_isSome]
      exact ⟨p, hmem, by simp [(isTitle_iff p).mpr hp, hn]⟩
    obtain ⟨first, hfirst⟩ := Option.isSome_iff_exists.mp hfound
    obtain ⟨htakes, before, after, rfl, hbefore⟩ := List.find?_eq_some_iff_append.mp hfirst
    have hnot : ∀ q ∈ before, ¬(q.kind.isTitle && q.index == n) := by
      intro q hq
      rw [Bool.not_eq_true, ← Bool.not_eq_true']
      exact hbefore q hq
    dsimp only
    rw [withTitle_append hnot htakes]
    obtain ⟨htitle, hsame⟩ := Bool.and_eq_true_iff.mp htakes
    obtain rfl := beq_iff_eq.mp hsame
    refine .placeholder ((isTitle_iff first).mp htitle) (fun q hq ht => ?_) fun q hq ht => ?_
    · have hle := hleast q (List.mem_append_left _ hq) ht
      refine Nat.lt_of_le_of_ne hle fun heq => hnot q hq ?_
      simp [(isTitle_iff q).mpr ht, heq]
    · exact hleast q (List.mem_append_right _ (List.mem_cons_of_mem _ hq)) ht

theorem titleParagraph_eq_ok_iff {s : String} {p : Paragraph} :
    titleParagraph s = .ok p ↔ ∃ text, writtenText s.toList = .ok text ∧ p = titleLine text := by
  rw [titleParagraph]
  cases writtenText s.toList with
  | error e => exact ⟨by rintro ⟨⟩, by rintro ⟨_, ⟨⟩, -⟩⟩
  | ok text =>
    constructor
    · rintro ⟨⟩
      exact ⟨text, rfl, rfl⟩
    · rintro ⟨_, ⟨⟩, rfl⟩
      rfl

/-- The notes of a slide are drawn line by line; empty notes are none. -/
inductive ShowsNotes : Option String → Option (List Paragraph) → Prop where
  | none : ShowsNotes none none
  | empty : ShowsNotes (some "") none
  | text {s : String} {ps : List Paragraph} (hs : s ≠ "") (h : textParagraphs s = .ok ps) :
    ShowsNotes (some s) (some ps)

theorem showsNotes_of_drawNotes {notes : Option String} {drawn : Option (List Paragraph)}
    (h : drawNotes notes = .ok drawn) : ShowsNotes notes drawn := by
  cases notes with
  | none =>
    cases h
    exact .none
  | some s =>
    by_cases hs : s = ""
    · subst hs
      cases h
      exact .empty
    · rw [drawNotes, if_neg (by simp [hs])] at h
      cases hps : textParagraphs s with
      | error e =>
        rw [hps] at h
        cases h
      | ok ps =>
        rw [hps] at h
        cases h
        exact .text hs hps

/-- A drawn slide shows a placed one on a layout: the placeholders and the title, and then one
figure for each element that is drawn, in their order. -/
structure Shows (g : Gallery) (l : SlideLayout) (s : PlacedSlide Float) (d : DrawnSlide) :
    Prop where
  layout : d.layout = l.name
  notes : ShowsNotes s.notes d.notes
  figures : ∃ text front drawn, writtenText s.title.toList = .ok text ∧
    Titled (titleLine text) l.placeholders front ∧ d.figures = front ++ drawn ∧
    List.Forall₂ (Depicts g) (s.elements.filter (isDrawn g)) drawn

theorem drawSlide_ok {l : SlideLayout} {s : PlacedSlide Float} {ns : List Notice} {d : DrawnSlide}
    (h : drawSlide g l s = ⟨ns, .ok d⟩) :
    Shows g l s d ∧ ns.filter Notice.isSkip = s.elements.filterMap (skipNotice? g) := by
  obtain ⟨_, box, _, hb, htitled, rfl⟩ := Logged.bind_eq_ok.mp h
  obtain ⟨hbox, rfl⟩ := boxFor_eq_ok.mp hb
  obtain rfl : titlePlace = box := Except.ok.inj (boxOfInches_titleBox.symm.trans hbox)
  obtain ⟨_, title, _, ht, hdrawn, rfl⟩ := Logged.bind_eq_ok.mp htitled
  obtain ⟨htitle, rfl⟩ := Logged.ofExcept_eq_ok.mp ht
  obtain ⟨text, htext, rfl⟩ := titleParagraph_eq_ok_iff.mp htitle
  obtain ⟨ns, drawn, _, hd, hnoted, rfl⟩ := Logged.bind_eq_ok.mp hdrawn
  obtain ⟨hfigures, hnotices⟩ := drawElements_ok hd
  obtain ⟨_, notes, _, hn, hend, rfl⟩ := Logged.bind_eq_ok.mp hnoted
  obtain ⟨hnotes, rfl⟩ := Logged.ofExcept_eq_ok.mp hn
  obtain ⟨rfl, rfl⟩ := Logged.pure_eq_ok.mp hend
  refine ⟨⟨rfl, showsNotes_of_drawNotes hnotes, text, _, drawn, htext,
    titled_titledPlaceholders _ _, rfl, hfigures⟩, ?_⟩
  rw [List.nil_append, List.nil_append, List.append_nil, List.append_nil, hnotices]

theorem drawSlides_ok {l : SlideLayout} {slides : List (PlacedSlide Float)} {ns : List Notice}
    {drawn : List DrawnSlide} (h : drawSlides g l slides = ⟨ns, .ok drawn⟩) :
    List.Forall₂ (Shows g l) slides drawn ∧
      ns.filter Notice.isSkip = (slides.flatMap (·.elements)).filterMap (skipNotice? g) := by
  induction slides generalizing ns drawn with
  | nil =>
    obtain ⟨rfl, rfl⟩ := Logged.pure_eq_ok.mp h
    exact ⟨.nil, rfl⟩
  | cons s ss ih =>
    obtain ⟨_, d, _, hd, hthen, rfl⟩ := Logged.bind_eq_ok.mp h
    obtain ⟨_, ds, _, hds, hend, rfl⟩ := Logged.bind_eq_ok.mp hthen
    obtain ⟨rfl, rfl⟩ := Logged.pure_eq_ok.mp hend
    obtain ⟨hshows, hnotices⟩ := drawSlide_ok hd
    obtain ⟨hrest, hlater⟩ := ih hds
    refine ⟨.cons hshows hrest, ?_⟩
    rw [List.append_nil, List.filter_append, hnotices, hlater, List.flatMap_cons,
      List.filterMap_append]

theorem drawElements_omits {q : Placed Float} {n : Notice} (hskip : skipNotice? g q = some n)
    (before after : List (Placed Float)) :
    Logged.Omits n (drawElements g (before ++ q :: after)) (drawElements g (before ++ after)) := by
  induction before with
  | nil =>
    rintro ns figures h
    obtain ⟨_, first, _, hfirst, hthen, rfl⟩ := Logged.bind_eq_ok.mp h
    obtain ⟨_, rest, _, hrest, hend, rfl⟩ := Logged.bind_eq_ok.mp hthen
    obtain ⟨rfl, rfl⟩ := Logged.pure_eq_ok.mp hend
    obtain ⟨rfl, hnil⟩ := Logged.mk.inj (hfirst.symm.trans (drawElement_of_skip hskip).1)
    obtain rfl := Except.ok.inj hnil
    exact ⟨[], _, by rw [List.append_nil]; rfl, hrest⟩
  | cons p before ih => exact .bind_right _ fun _ => ih.bind_left _

theorem drawSlide_omits {q : Placed Float} {n : Notice} (hskip : skipNotice? g q = some n)
    (l : SlideLayout) (title : String) (notes : Option String)
    (before after : List (Placed Float)) :
    Logged.Omits n (drawSlide g l ⟨title, notes, before ++ q :: after⟩)
      (drawSlide g l ⟨title, notes, before ++ after⟩) :=
  .bind_right _ fun _ => .bind_right _ fun _ => (drawElements_omits hskip before after).bind_left _

theorem drawSlides_omits {l : SlideLayout} {s s' : PlacedSlide Float} {n : Notice}
    (h : Logged.Omits n (drawSlide g l s) (drawSlide g l s'))
    (before after : List (PlacedSlide Float)) :
    Logged.Omits n (drawSlides g l (before ++ s :: after))
      (drawSlides g l (before ++ s' :: after)) := by
  induction before with
  | nil => exact h.bind_left _
  | cons d before ih => exact .bind_right _ fun _ => ih.bind_left _

theorem drawDeck_omits {template : Option Package} {slides slides' : List (PlacedSlide Float)}
    {n : Notice} (h : ∀ l, Logged.Omits n (drawSlides g l slides) (drawSlides g l slides')) :
    Logged.Omits n (drawDeck g template slides) (drawDeck g template slides') :=
  .bind_right _ fun _ => .bind_right _ fun l => (h l).bind_left _

theorem drawDeck_ok {template : Option Package} {slides : List (PlacedSlide Float)}
    {ns : List Notice} {p : Presentation} (h : drawDeck g template slides = ⟨ns, .ok p⟩) :
    (∃ t l, openTemplate template = .ok t ∧ t.layout = .ok l ∧
      List.Forall₂ (Shows g l) slides p.slides) ∧
    ns.filter Notice.isSkip = (slides.flatMap (·.elements)).filterMap (skipNotice? g) := by
  obtain ⟨_, t, _, ht, hopened, rfl⟩ := Logged.bind_eq_ok.mp h
  obtain ⟨htemplate, rfl⟩ := Logged.ofExcept_eq_ok.mp ht
  obtain ⟨_, l, _, hl, hchosen, rfl⟩ := Logged.bind_eq_ok.mp hopened
  obtain ⟨hlayout, rfl⟩ := Logged.ofExcept_eq_ok.mp hl
  obtain ⟨_, drawn, _, hdrawn, hend, rfl⟩ := Logged.bind_eq_ok.mp hchosen
  obtain ⟨hshows, hnotices⟩ := drawSlides_ok hdrawn
  rw [removeSlides_length rfl, List.nil_append] at hend
  split at hend
  · obtain ⟨rfl, rfl⟩ := Logged.pure_eq_ok.mp hend
    refine ⟨⟨t, l, Logged.mapError_eq_ok.mp htemplate, Logged.mapError_eq_ok.mp hlayout, hshows⟩,
      ?_⟩
    rw [List.nil_append, List.nil_append, List.append_nil, hnotices]
  · cases hend

/-- No column break is placed. -/
theorem not_isBreak_of_mem_placeDeck {deck : List Slide} {slides : List (PlacedSlide Float)}
    (h : placeDeck deck = .ok slides) {s : PlacedSlide Float} (hs : s ∈ slides) {p : Placed Float}
    (hp : p ∈ s.elements) : isBreak p.element = false := by
  obtain ⟨slide, -, hslide⟩ := exists_of_mem_mapM h hs
  obtain ⟨c, hc, he, -⟩ := mem_placeSlide hslide hp
  exact not_isBreak_of_mem_columns hc he

/-- A drawn deck has one slide for each placed one, whatever slides the template has, and all show
on one layout of the template. The notices of skipped pictures are one for each of them, and without
such a picture the deck is drawn just the same. -/
theorem drawDeck_shows {template : Option Package} {slides : List (PlacedSlide Float)}
    {p : Presentation} (h : (drawDeck g template slides).result = .ok p) :
    (∃ t l, openTemplate template = .ok t ∧ t.layout = .ok l ∧ l ∈ t.layouts ∧
      List.Forall₂ (Shows g l) slides p.slides) ∧
    (drawDeck g template slides).notices.filter Notice.isSkip =
      (slides.flatMap (·.elements)).filterMap (skipNotice? g) ∧
    (∀ q n, skipNotice? g q = some n ↔ Skips g q n) ∧
    (∀ before title notes es q es' after n,
      slides = before ++ ⟨title, notes, es ++ q :: es'⟩ :: after → Skips g q n →
      ∃ ns ns', (drawDeck g template slides).notices = ns ++ n :: ns' ∧
        drawDeck g template (before ++ ⟨title, notes, es ++ es'⟩ :: after) = ⟨ns ++ ns', .ok p⟩) ∧
    ∀ deck, placeDeck deck = .ok slides → ∀ s ∈ slides, ∀ q ∈ s.elements,
      isDrawn g q ↔ ∀ n, ¬Skips g q n := by
  have hdraw := Logged.eq_of_result h
  obtain ⟨⟨t, l, htemplate, hlayout, hslides⟩, hnotices⟩ := drawDeck_ok hdraw
  refine ⟨⟨t, l, htemplate, hlayout, mem_layouts hlayout, hslides⟩, hnotices,
    fun q n => skipNotice?_eq_some_iff, ?_, ?_⟩
  · rintro before title notes es q es' after n rfl hskip
    exact drawDeck_omits (fun l => drawSlides_omits
      (drawSlide_omits (skipNotice?_eq_some_iff.mpr hskip) l title notes es es') before after)
      _ p hdraw
  · intro deck hdeck s hs q hq
    rw [isDrawn, not_isBreak_of_mem_placeDeck hdeck hs hq, Bool.not_false, Bool.true_and,
      Option.isNone_iff_eq_none, Option.eq_none_iff_forall_not_mem]
    simp only [Option.mem_def, skipNotice?_eq_some_iff]

/-- A picture of one dot. -/
def smallPicture : List UInt8 := [0x47, 0x49, 0x46, 0x38, 0x39, 0x61, 0x01, 0x00, 0x01, 0x00, 0x80,
  0x00, 0x00, 0x00, 0x00, 0x00, 0xff, 0xff, 0xff, 0x21, 0xf9, 0x04, 0x01, 0x00, 0x00, 0x00, 0x00,
  0x2c, 0x00, 0x00, 0x00, 0x00, 0x01, 0x00, 0x01, 0x00, 0x00, 0x02, 0x01, 0x44, 0x00, 0x3b]

def smallFiles : FileTree Package where
  entries := [(⟨.relative, ["a.gif"]⟩, .file (.octets smallPicture))]

def smallGallery : Gallery := ⟨smallFiles, none, PictureFormat.verdict⟩

/-- A slide with a picture that is there and one that is missing. -/
def picturesTalk : List (PlacedSlide Float) :=
  [⟨"T", none, [⟨.picture ⟨"a.gif", ""⟩, ⟨0.5, 1.2, 4.5, 3.0⟩, 0⟩,
    ⟨.picture ⟨"b.gif", ""⟩, ⟨5.2, 1.2, 4.5, 3.0⟩, 1⟩]⟩]

/-- A template with slides of its own. -/
def usedTemplate : Package := .presentation .standard [⟨"Blank", none, []⟩, ⟨"Blank", none, []⟩]

theorem drawDeck_shows_picturesTalk :
    ∃ p l, (drawDeck smallGallery (some usedTemplate) picturesTalk).result = .ok p ∧
      List.Forall₂ (Shows smallGallery l) picturesTalk p.slides ∧
      (drawDeck smallGallery (some usedTemplate) picturesTalk).notices.filter Notice.isSkip =
        [.skippedPicture "b.gif" .notReadable] := by
  have hok : (drawDeck smallGallery (some usedTemplate) picturesTalk).result.isOk := by
    decide +kernel
  have hskip : (picturesTalk.flatMap (·.elements)).filterMap (skipNotice? smallGallery) =
      [.skippedPicture "b.gif" .notReadable] := by
    decide +kernel
  cases hp : (drawDeck smallGallery (some usedTemplate) picturesTalk).result with
  | error e =>
    rw [hp] at hok
    cases hok
  | ok p =>
    obtain ⟨⟨t, l, -, -, -, hshows⟩, hnotices, -⟩ := drawDeck_shows hp
    exact ⟨p, l, rfl, hshows, hnotices.trans hskip⟩

end SlideDeck.Drawing
