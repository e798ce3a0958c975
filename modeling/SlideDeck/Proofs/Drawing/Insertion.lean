import SlideDeck.Proofs.Drawing.Deck

/-!
What one more element does to a deck that is drawn. If it can be drawn itself, its figures and its
notices come in at its place, and all the rest is drawn, or fails to be drawn, as without it.
-/

namespace SlideDeck.Drawing

open Deck Layout

variable {g : Gallery} {q : Placed Float} {ns : List Notice} {extra : List Figure}

/-- One list is the other with something put in. -/
def Inserted (extra : List Figure) (fs fs' : List Figure) : Prop :=
  ∃ xs ys, fs = xs ++ extra ++ ys ∧ fs' = xs ++ ys

/-- A slide is another one with more figures. -/
structure Gains (extra : List Figure) (d d' : DrawnSlide) : Prop where
  layout : d.layout = d'.layout
  notes : d.notes = d'.notes
  figures : Inserted extra d.figures d'.figures

/-- Of two decks of slides one has more figures on a slide, and all others are the same. -/
def GainsAt (extra : List Figure) (i : Nat) (ds ds' : List DrawnSlide) : Prop :=
  ∃ before d d' after, before.length = i ∧ ds = before ++ d :: after ∧
    ds' = before ++ d' :: after ∧ Gains extra d d'

theorem Inserted.append_left {fs fs' : List Figure} (h : Inserted extra fs fs')
    (before : List Figure) : Inserted extra (before ++ fs) (before ++ fs') := by
  obtain ⟨xs, ys, rfl, rfl⟩ := h
  exact ⟨before ++ xs, ys, by simp only [List.append_assoc], by simp only [List.append_assoc]⟩

theorem drawElements_extends (hq : drawElement g q = ⟨ns, .ok extra⟩)
    (before after : List (Placed Float)) :
    Logged.Extends ns (Inserted extra) (drawElements g (before ++ q :: after))
      (drawElements g (before ++ after)) := by
  induction before with
  | nil =>
    rw [List.nil_append, List.nil_append, drawElements, hq, Logged.bind_mk_ok]
    obtain ⟨ms, e | rest⟩ := drawElements g after
    · exact Or.inl ⟨e, rfl, rfl⟩
    · refine Or.inr ⟨[], ms, extra ++ rest, rest, ?_, rfl, [], rest, rfl, rfl⟩
      rw [Logged.bind_mk_ok, List.nil_append]
      exact congrArg (Logged.mk · _) (congrArg (ns ++ ·) (List.append_nil ms))
  | cons p before ih =>
    exact .bind_right _ fun first =>
      ih.bind_left fun fs fs' hfs => Logged.extends_pure (hfs.append_left first)

theorem drawSlide_extends (hq : drawElement g q = ⟨ns, .ok extra⟩) (l : SlideLayout)
    (title : String) (notes : Option String) (before after : List (Placed Float)) :
    Logged.Extends ns (Gains extra) (drawSlide g l ⟨title, notes, before ++ q :: after⟩)
      (drawSlide g l ⟨title, notes, before ++ after⟩) :=
  .bind_right _ fun _ => .bind_right _ fun _ =>
    (drawElements_extends hq before after).bind_left fun _ _ hfs =>
      .bind_right _ fun _ => Logged.extends_pure ⟨rfl, rfl, hfs.append_left _⟩

theorem drawSlides_extends {l : SlideLayout} {s s' : PlacedSlide Float}
    (h : Logged.Extends ns (Gains extra) (drawSlide g l s) (drawSlide g l s'))
    (before after : List (PlacedSlide Float)) :
    Logged.Extends ns (GainsAt extra before.length) (drawSlides g l (before ++ s :: after))
      (drawSlides g l (before ++ s' :: after)) := by
  induction before with
  | nil =>
    exact h.bind_left fun d d' hd => .bind_right _ fun rest =>
      Logged.extends_pure ⟨[], d, d', rest, rfl, rfl, rfl, hd⟩
  | cons p before ih =>
    refine .bind_right _ fun first => ih.bind_left fun ds ds' hds => Logged.extends_pure ?_
    obtain ⟨earlier, d, d', later, hlength, rfl, rfl, hd⟩ := hds
    exact ⟨first :: earlier, d, d', later, by rw [List.length_cons, List.length_cons, hlength],
      rfl, rfl, hd⟩

/-- Figures without links make no difference to whether links can be written. -/
theorem areLinksPlain_of_gainsAt {i : Nat} {ds ds' : List DrawnSlide}
    (h : GainsAt extra i ds ds') (hlinks : extra.flatMap Figure.links = []) :
    areLinksPlain ds = areLinksPlain ds' := by
  obtain ⟨before, d, d', after, -, rfl, rfl, -, -, xs, ys, hd, hd'⟩ := h
  have hextra : (extra.all fun f => f.links.all fun l => isPlainText l.url) = true := by
    rw [List.all_eq_true]
    intro f hf
    rw [List.flatMap_eq_nil_iff.mp hlinks f hf, List.all_nil]
  simp only [areLinksPlain, List.all_append, List.all_cons, hd, hd', hextra, Bool.and_true]

/-- A deck is drawn with an element that has no links if and only if it is drawn without it. -/
theorem drawDeck_extends (hq : drawElement g q = ⟨ns, .ok extra⟩)
    (hlinks : extra.flatMap Figure.links = []) (template : Option Package)
    (before after : List (PlacedSlide Float)) (title : String) (notes : Option String)
    (es es' : List (Placed Float)) :
    Logged.Extends ns
      (fun p p' => p.width = p'.width ∧ p.height = p'.height ∧
        GainsAt extra before.length p.slides p'.slides)
      (drawDeck g template (before ++ ⟨title, notes, es ++ q :: es'⟩ :: after))
      (drawDeck g template (before ++ ⟨title, notes, es ++ es'⟩ :: after)) := by
  refine .bind_right _ fun t => .bind_right _ fun l =>
    (drawSlides_extends (drawSlide_extends hq l title notes es es') before after).bind_left ?_
  intro ds ds' hds
  rw [removeSlides_length rfl, List.nil_append, List.nil_append,
    areLinksPlain_of_gainsAt hds hlinks]
  split
  · exact Logged.extends_pure ⟨rfl, rfl, hds⟩
  · exact Or.inl ⟨_, rfl, rfl⟩

end SlideDeck.Drawing
