import Mathlib.Data.List.Forall2
import SlideDeck.Proofs.Drawing.Gallery
import SlideDeck.Proofs.Logged

/-!
The figures of a drawn deck, told from what was placed on its slides. Every placed element has one
figure of its kind in its box, but for pictures that are skipped; each of these has one notice and
leaves nothing else behind.
-/

namespace SlideDeck

/-- A notice that tells the author of a skipped picture. -/
def Notice.isSkip (n : Notice) : Bool :=
  n.level = .warning && "Skipping image ".toList.isPrefixOf n.text.toList

theorem Notice.text_skippedPicture (href : String) (fault : PictureFault) :
    (Notice.skippedPicture href fault).text =
      "Skipping image " ++ Text.quoted href ++ ": " ++ fault.text := rfl

theorem Notice.text_invalidColor (s : Text.CodePoints) :
    (Notice.invalidColor s).text = "Ignoring invalid color " ++ s.quoted := rfl

theorem Notice.isSkip_skippedPicture (href : String) (fault : PictureFault) :
    (Notice.skippedPicture href fault).isSkip := by
  rw [isSkip, text_skippedPicture, String.append_assoc, String.append_assoc, String.toList_append,
    Bool.and_eq_true, List.isPrefixOf_iff_prefix]
  exact ⟨rfl, List.prefix_append _ _⟩

theorem Notice.isSkip_invalidColor (s : Text.CodePoints) : ¬(Notice.invalidColor s).isSkip := by
  have hskip : "Skipping image ".toList.head? = some 'S' := by decide
  have hignore : "Ignoring invalid color ".toList.head? = some 'I' := by decide
  rw [isSkip, text_invalidColor, String.toList_append, Bool.and_eq_true, List.isPrefixOf_iff_prefix]
  rintro ⟨-, r, hr⟩
  have hhead := congrArg List.head? hr
  rw [List.head?_append, List.head?_append, hskip, hignore] at hhead
  exact absurd hhead (by simp)

namespace Drawing

open Deck Layout Files

variable {g : Gallery}

theorem exists_related_of_mem {α β : Type} {R : α → β → Prop} {xs : List α} {ys : List β}
    (h : List.Forall₂ R xs ys) {x : α} (hx : x ∈ xs) : ∃ y ∈ ys, R x y := by
  induction h with
  | nil => cases hx
  | @cons x' y' xs ys hxy _ ih =>
    cases hx with
    | head => exact ⟨y', List.mem_cons_self, hxy⟩
    | tail _ hx =>
      obtain ⟨y, hy, hR⟩ := ih hx
      exact ⟨y, List.mem_cons_of_mem _ hy, hR⟩

/-- Why a picture is skipped, if it is. -/
def pictureFault? (g : Gallery) (b : Box Float) (p : Picture) : Option PictureFault :=
  match pictureFigure g b p.href with
  | .ok (.error fault) => some fault
  | _ => none

/-- The notice of a placed element, if it is a picture that is skipped. -/
def skipNotice? (g : Gallery) (p : Placed Float) : Option Notice :=
  match p.element with
  | .picture pic => (pictureFault? g p.box pic).map (.skippedPicture pic.href)
  | _ => none

/-- A placed element is a picture that its gallery lacks, and the notice tells why. -/
def Skips (g : Gallery) (p : Placed Float) (n : Notice) : Prop :=
  ∃ pic fault, p.element = .picture pic ∧ g.Lacks p.box pic.href fault ∧
    n = .skippedPicture pic.href fault

/-- Whether a placed element has a figure. A column break has none. -/
def isDrawn (g : Gallery) (p : Placed Float) : Bool :=
  !isBreak p.element && (skipNotice? g p).isNone

/-- The outlines of the kinds of shapes that are no lines. -/
inductive Outlines : ShapeKind → Outline → Prop where
  | rectangle : Outlines .rectangle .rectangle
  | oval : Outlines .oval .ellipse
  | ellipse : Outlines .ellipse .ellipse
  | triangle : Outlines .triangle .triangle

/-- The figure of a placed element. -/
inductive Depicts (g : Gallery) : Placed Float → Figure → Prop
  | textBox {b : Box Float} {c : Int} {box : Box Int} {runs : List Run} {ps : List Paragraph}
      (hbox : boxOfInches b = .ok box) (h : blockParagraphs runs = .ok ps) :
      Depicts g ⟨.textBlock runs, b, c⟩ (.textBox box ps)
  | table {b : Box Float} {c : Int} {box : Box Int} {t : Table}
      {rows : List (List (List Paragraph))} (hbox : boxOfInches b = .ok box)
      (h : ((tableGrid t).mapM fun r => r.mapM textParagraphs) = .ok rows) :
      Depicts g ⟨.table t, b, c⟩ (.table box rows)
  | connector {b : Box Float} {c : Int} {box : Box Int} {s : Shape} {line : Option LineStyle}
      (hbox : boxOfInches b = .ok box) (h : s.kind = .line)
      (hline : (lineStyle s.options).result = .ok line) :
      Depicts g ⟨.shape s, b, c⟩ (.connector box line)
  | shape {b : Box Float} {c : Int} {box : Box Int} {s : Shape} {outline : Outline}
      {fill : Option Color} {line : Option LineStyle} {ps : List Paragraph}
      (hbox : boxOfInches b = .ok box) (h : Outlines s.kind outline)
      (hfill : (optionColor s.options "fill").result = .ok fill)
      (hline : (lineStyle s.options).result = .ok line) (hps : shapeParagraphs s.options = .ok ps) :
      Depicts g ⟨.shape s, b, c⟩ (.shape outline box fill line ps)
  | picture {b : Box Float} {c : Int} {box : Box Int} {p : Picture} {octets : List UInt8}
      (hbox : boxOfInches b = .ok box) (h : g.Holds p.href octets) :
      Depicts g ⟨.picture p, b, c⟩ (.picture box octets)

theorem outline?_eq_some_iff {k : ShapeKind} {outline : Outline} :
    outline? k = some outline ↔ Outlines k outline := by
  constructor
  · intro h
    cases k <;> cases h <;> constructor
  · rintro (_ | _ | _ | _) <;> rfl

theorem outline?_eq_none_iff {k : ShapeKind} : outline? k = none ↔ k = .line := by
  cases k <;> simp [outline?]

theorem pictureFault?_eq_some_iff {b : Box Float} {p : Picture} {fault : PictureFault} :
    pictureFault? g b p = some fault ↔ g.Lacks b p.href fault := by
  rw [← pictureFigure_eq_fault_iff, pictureFault?]
  rcases pictureFigure g b p.href with e | fault' | f <;> simp

theorem skipNotice?_eq_some_iff {p : Placed Float} {n : Notice} :
    skipNotice? g p = some n ↔ Skips g p n := by
  obtain ⟨e, b, c⟩ := p
  cases e with
  | picture pic =>
    rw [skipNotice?, Option.map_eq_some_iff]
    simp only [pictureFault?_eq_some_iff]
    constructor
    · rintro ⟨fault, h, rfl⟩
      exact ⟨pic, fault, rfl, h, rfl⟩
    · rintro ⟨_, fault, ⟨⟩, h, rfl⟩
      exact ⟨fault, h, rfl⟩
  | textBlock _ | table _ | shape _ | columnBreak =>
    refine iff_of_false ?_ ?_
    · rintro ⟨⟩
    · rintro ⟨_, _, ⟨⟩, -⟩

theorem boxFor_eq_ok {b : Box Float} {ns : List Notice} {box : Box Int} :
    boxFor b = ⟨ns, .ok box⟩ ↔ boxOfInches b = .ok box ∧ ns = [] := by
  rw [boxFor, Logged.ofExcept_eq_ok, Logged.mapError_eq_ok]

theorem drawTextBlock_ok {b : Box Float} {runs : List Run} {ns : List Notice} {f : Figure}
    (h : drawTextBlock b runs = ⟨ns, .ok f⟩) (c : Int) :
    ns = [] ∧ Depicts g ⟨.textBlock runs, b, c⟩ f := by
  obtain ⟨_, box, _, hb, hthen, rfl⟩ := Logged.bind_eq_ok.mp h
  obtain ⟨hbox, rfl⟩ := boxFor_eq_ok.mp hb
  obtain ⟨_, ps, _, hp, hend, rfl⟩ := Logged.bind_eq_ok.mp hthen
  obtain ⟨hps, rfl⟩ := Logged.ofExcept_eq_ok.mp hp
  obtain ⟨rfl, rfl⟩ := Logged.pure_eq_ok.mp hend
  exact ⟨rfl, .textBox hbox hps⟩

theorem drawTable_eq_ok_iff (b : Box Float) (t : Table) (ns : List Notice) (f : Figure) :
    drawTable b t = ⟨ns, .ok f⟩ ↔ ns = [] ∧ ∃ box rows, boxOfInches b = .ok box ∧
      ((tableGrid t).mapM fun r => r.mapM textParagraphs) = .ok rows ∧ f = .table box rows := by
  constructor
  · intro h
    obtain ⟨_, box, _, hb, hthen, rfl⟩ := Logged.bind_eq_ok.mp h
    obtain ⟨hbox, rfl⟩ := boxFor_eq_ok.mp hb
    obtain ⟨_, rows, _, hr, hend, rfl⟩ := Logged.bind_eq_ok.mp hthen
    obtain ⟨hrows, rfl⟩ := Logged.ofExcept_eq_ok.mp hr
    obtain ⟨rfl, rfl⟩ := Logged.pure_eq_ok.mp hend
    exact ⟨rfl, box, rows, hbox, hrows, rfl⟩
  · rintro ⟨rfl, box, rows, hbox, hrows, rfl⟩
    refine Logged.bind_eq_ok.mpr ⟨[], box, [], boxFor_eq_ok.mpr ⟨hbox, rfl⟩, ?_, rfl⟩
    refine Logged.bind_eq_ok.mpr ⟨[], rows, [], Logged.ofExcept_eq_ok.mpr ⟨hrows, rfl⟩, ?_, rfl⟩
    exact Logged.pure_eq_ok.mpr ⟨rfl, rfl⟩

theorem drawTable_ok {b : Box Float} {t : Table} {ns : List Notice} {f : Figure}
    (h : drawTable b t = ⟨ns, .ok f⟩) (c : Int) : ns = [] ∧ Depicts g ⟨.table t, b, c⟩ f := by
  obtain ⟨rfl, box, rows, hbox, hrows, rfl⟩ := (drawTable_eq_ok_iff b t ns f).mp h
  exact ⟨rfl, .table hbox hrows⟩

theorem colorOption_ok {ε : Type} {v : Json.Value} {ns : List Notice} {color : Option Color}
    (h : (colorOption v : Logged ε (Option Color)) = ⟨ns, .ok color⟩) : ∀ n ∈ ns, ¬n.isSkip := by
  rw [colorOption] at h
  split at h
  · obtain ⟨-, rfl⟩ := Logged.pure_eq_ok.mp h
    exact List.forall_mem_nil _
  · rename_i s _
    split at h
    · obtain ⟨-, rfl⟩ := Logged.pure_eq_ok.mp h
      exact List.forall_mem_nil _
    · obtain ⟨_, _, _, hgive, hend, rfl⟩ := Logged.bind_eq_ok.mp h
      obtain ⟨-, rfl⟩ := Logged.pure_eq_ok.mp hend
      obtain ⟨rfl, -⟩ := Logged.mk.inj hgive
      rw [List.append_nil, List.forall_mem_singleton]
      exact Notice.isSkip_invalidColor s

theorem optionColor_ok {o : Json.Object} {key : String} {ns : List Notice} {color : Option Color}
    (h : optionColor o key = ⟨ns, .ok color⟩) : ∀ n ∈ ns, ¬n.isSkip := by
  rw [optionColor] at h
  split at h
  · exact colorOption_ok h
  · obtain ⟨-, rfl⟩ := Logged.pure_eq_ok.mp h
    exact List.forall_mem_nil _

theorem lineStyle_ok {o : Json.Object} {ns : List Notice} {line : Option LineStyle}
    (h : lineStyle o = ⟨ns, .ok line⟩) : ∀ n ∈ ns, ¬n.isSkip := by
  obtain ⟨_, color, _, hcolor, hthen, rfl⟩ := Logged.bind_eq_ok.mp h
  obtain ⟨_, width, _, hwidth, hend, rfl⟩ := Logged.bind_eq_ok.mp hthen
  obtain ⟨-, rfl⟩ := Logged.ofExcept_eq_ok.mp hwidth
  obtain ⟨-, rfl⟩ := Logged.pure_eq_ok.mp hend
  rw [List.append_nil, List.append_nil]
  exact optionColor_ok hcolor

/-- Shapes tell of colors only. -/
theorem drawShape_ok {b : Box Float} {s : Shape} {ns : List Notice} {f : Figure}
    (h : drawShape b s = ⟨ns, .ok f⟩) (c : Int) :
    (∀ n ∈ ns, ¬n.isSkip) ∧ Depicts g ⟨.shape s, b, c⟩ f := by
  obtain ⟨_, box, _, hb, hfilled, rfl⟩ := Logged.bind_eq_ok.mp h
  obtain ⟨hbox, rfl⟩ := boxFor_eq_ok.mp hb
  obtain ⟨_, fill, _, hfill, hlined, rfl⟩ := Logged.bind_eq_ok.mp hfilled
  obtain ⟨_, line, ns, hline, hend, rfl⟩ := Logged.bind_eq_ok.mp hlined
  have hnone : ns = [] ∧ Depicts g ⟨.shape s, b, c⟩ f := by
    cases ho : outline? s.kind with
    | none =>
      rw [ho] at hend
      obtain ⟨rfl, rfl⟩ := Logged.pure_eq_ok.mp hend
      exact ⟨rfl, .connector hbox (outline?_eq_none_iff.mp ho) (congrArg Logged.result hline)⟩
    | some outline =>
      rw [ho] at hend
      obtain ⟨_, ps, _, hp, hfigure, rfl⟩ := Logged.bind_eq_ok.mp hend
      obtain ⟨hps, rfl⟩ := Logged.ofExcept_eq_ok.mp hp
      obtain ⟨rfl, rfl⟩ := Logged.pure_eq_ok.mp hfigure
      exact ⟨rfl, .shape hbox (outline?_eq_some_iff.mp ho) (congrArg Logged.result hfill)
        (congrArg Logged.result hline) hps⟩
  obtain ⟨rfl, hf⟩ := hnone
  rw [List.nil_append, List.append_nil, List.forall_mem_append]
  exact ⟨⟨optionColor_ok hfill, lineStyle_ok hline⟩, hf⟩

theorem drawPicture_of_figure {b : Box Float} {p : Picture} {f : Figure}
    (h : pictureFigure g b p.href = .ok (.ok f)) : drawPicture g b p = ⟨[], .ok [f]⟩ := by
  rw [drawPicture, h]
  rfl

theorem drawPicture_of_error {b : Box Float} {p : Picture} {e : DrawError}
    (h : pictureFigure g b p.href = .error e) : drawPicture g b p = ⟨[], .error e⟩ := by
  rw [drawPicture, h]
  rfl

/-- A skipped picture leaves its notice and nothing else. -/
theorem drawPicture_of_fault {b : Box Float} {p : Picture} {fault : PictureFault}
    (h : pictureFigure g b p.href = .ok (.error fault)) :
    drawPicture g b p = ⟨[.skippedPicture p.href fault], .ok []⟩ := by
  rw [drawPicture, h]
  rfl

theorem drawPicture_ok {b : Box Float} {p : Picture} {ns : List Notice} {figures : List Figure}
    (h : drawPicture g b p = ⟨ns, .ok figures⟩) (hn : pictureFault? g b p = none) (c : Int) :
    ns = [] ∧ ∃ f, figures = [f] ∧ Depicts g ⟨.picture p, b, c⟩ f := by
  rcases hf : pictureFigure g b p.href with e | fault | f
  · rw [drawPicture_of_error hf] at h
    cases h
  · simp [pictureFault?, hf] at hn
  · rw [drawPicture_of_figure hf] at h
    cases h
    obtain ⟨box, octets, hbox, hh, rfl⟩ := (pictureFigure_eq_picture_iff f).mp hf
    exact ⟨rfl, _, rfl, .picture hbox hh⟩

theorem drawElement_of_skip {p : Placed Float} {n : Notice} (h : skipNotice? g p = some n) :
    drawElement g p = ⟨[n], .ok []⟩ ∧ n.isSkip := by
  obtain ⟨e, b, c⟩ := p
  cases e with
  | picture pic =>
    obtain ⟨fault, hfault, rfl⟩ := Option.map_eq_some_iff.mp h
    have hlacks := (pictureFigure_eq_fault_iff fault).mpr (pictureFault?_eq_some_iff.mp hfault)
    exact ⟨drawPicture_of_fault hlacks, Notice.isSkip_skippedPicture _ _⟩
  | textBlock runs | table t | shape s | columnBreak => cases h

/-- An element that is not skipped has its figure and no notice of a skipped picture. -/
theorem drawElement_ok {p : Placed Float} {ns : List Notice} {figures : List Figure}
    (h : drawElement g p = ⟨ns, .ok figures⟩) (hn : skipNotice? g p = none) :
    (∀ n ∈ ns, ¬n.isSkip) ∧
      if isBreak p.element then figures = [] else ∃ f, figures = [f] ∧ Depicts g p f := by
  obtain ⟨e, b, c⟩ := p
  cases e with
  | textBlock runs =>
    obtain ⟨_, f, _, hf, hend, rfl⟩ := Logged.bind_eq_ok.mp h
    obtain ⟨rfl, rfl⟩ := Logged.pure_eq_ok.mp hend
    obtain ⟨rfl, hf⟩ := drawTextBlock_ok hf c
    exact ⟨List.forall_mem_nil _, f, rfl, hf⟩
  | table t =>
    obtain ⟨_, f, _, hf, hend, rfl⟩ := Logged.bind_eq_ok.mp h
    obtain ⟨rfl, rfl⟩ := Logged.pure_eq_ok.mp hend
    obtain ⟨rfl, hf⟩ := drawTable_ok hf c
    exact ⟨List.forall_mem_nil _, f, rfl, hf⟩
  | shape s =>
    obtain ⟨_, f, _, hf, hend, rfl⟩ := Logged.bind_eq_ok.mp h
    obtain ⟨rfl, rfl⟩ := Logged.pure_eq_ok.mp hend
    obtain ⟨hquiet, hf⟩ := drawShape_ok hf c
    rw [List.append_nil]
    exact ⟨hquiet, f, rfl, hf⟩
  | picture pic =>
    obtain ⟨rfl, hf⟩ := drawPicture_ok h (Option.map_eq_none_iff.mp hn) c
    exact ⟨List.forall_mem_nil _, hf⟩
  | columnBreak =>
    obtain ⟨rfl, rfl⟩ := Logged.pure_eq_ok.mp h
    exact ⟨List.forall_mem_nil _, rfl⟩

/-- The figures of placed elements, in order, and one notice for each skipped picture. -/
theorem drawElements_ok {ps : List (Placed Float)} {ns : List Notice} {figures : List Figure}
    (h : drawElements g ps = ⟨ns, .ok figures⟩) :
    List.Forall₂ (Depicts g) (ps.filter (isDrawn g)) figures ∧
      ns.filter Notice.isSkip = ps.filterMap (skipNotice? g) := by
  induction ps generalizing ns figures with
  | nil =>
    obtain ⟨rfl, rfl⟩ := Logged.pure_eq_ok.mp h
    exact ⟨.nil, rfl⟩
  | cons p ps ih =>
    obtain ⟨ns₁, first, _, hfirst, hthen, rfl⟩ := Logged.bind_eq_ok.mp h
    obtain ⟨ns₂, rest, _, hrest, hend, rfl⟩ := Logged.bind_eq_ok.mp hthen
    obtain ⟨rfl, rfl⟩ := Logged.pure_eq_ok.mp hend
    obtain ⟨hfigures, hnotices⟩ := ih hrest
    rw [List.append_nil, List.filter_append, hnotices]
    cases hskip : skipNotice? g p with
    | some n =>
      obtain ⟨hdraw, hn⟩ := drawElement_of_skip hskip
      obtain ⟨rfl, hnil⟩ := Logged.mk.inj (hfirst.symm.trans hdraw)
      obtain rfl := Except.ok.inj hnil
      simp [isDrawn, hskip, hn, hfigures]
    | none =>
      obtain ⟨hquiet, hf⟩ := drawElement_ok hfirst hskip
      rw [List.filter_eq_nil_iff.mpr hquiet]
      split at hf
      · rename_i hbreak
        simp [isDrawn, hbreak, hf, hskip, hfigures]
      · rename_i hbreak
        obtain ⟨f, rfl, hf⟩ := hf
        simp [isDrawn, hbreak, hskip, hfigures, hf]

end Drawing

end SlideDeck
