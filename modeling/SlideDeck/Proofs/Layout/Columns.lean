import Mathlib.Data.List.Forall2
import Mathlib.Data.List.TakeWhile
import SlideDeck.Layout.Flow

/-!
The columns of a slide, and what flows down each of them: every placed element has the extent that
it takes at its place, and a column comes to its elements one after the other.
-/

namespace SlideDeck.Layout

open Deck

/-- The elements before the first break. -/
def firstPart (es : List Element) : List Element := es.takeWhile (!isBreak ·)

/-- The elements after the first break, without the breaks among them. -/
def secondPart (es : List Element) : List Element :=
  (es.dropWhile (!isBreak ·)).filter (!isBreak ·)

theorem not_isBreak_of_mem_firstPart {es : List Element} {e : Element} (h : e ∈ firstPart es) :
    isBreak e = false := by
  simpa using List.mem_takeWhile_imp h

theorem not_isBreak_of_mem_secondPart {es : List Element} {e : Element} (h : e ∈ secondPart es) :
    isBreak e = false := by
  simpa using (List.mem_filter.mp h).2

theorem mem_of_mem_firstPart {es : List Element} {e : Element} (h : e ∈ firstPart es) : e ∈ es :=
  (List.takeWhile_sublist _).mem h

theorem mem_of_mem_secondPart {es : List Element} {e : Element} (h : e ∈ secondPart es) : e ∈ es :=
  (List.dropWhile_sublist _).mem (List.mem_filter.mp h).1

theorem dropWhile_eq_nil_iff_any (es : List Element) :
    es.dropWhile (!isBreak ·) = [] ↔ es.any isBreak = false := by
  simp [List.dropWhile_eq_nil_iff]

theorem firstPart_eq_self {es : List Element} (h : es.any isBreak = false) : firstPart es = es := by
  rw [firstPart, List.takeWhile_eq_self_iff]
  simpa using h

theorem secondPart_eq_nil {es : List Element} (h : es.any isBreak = false) :
    secondPart es = [] := by
  rw [secondPart, (dropWhile_eq_nil_iff_any es).mpr h]
  rfl

theorem splitColumns_eq (es : List Element) :
    splitColumns es =
      if es.any isBreak then (firstPart es, some (secondPart es)) else (es, none) := by
  rw [splitColumns]
  split
  · rename_i hdrop
    rw [(dropWhile_eq_nil_iff_any es).mp hdrop]
    rfl
  · rename_i e rest hdrop
    have hne : es.dropWhile (!isBreak ·) ≠ [] := by simp [hdrop]
    have he : isBreak e := by simpa [hdrop] using List.head_dropWhile_not (!isBreak ·) hne
    have hany : es.any isBreak := by
      rw [← Bool.not_eq_false]
      exact fun h => hne ((dropWhile_eq_nil_iff_any es).mpr h)
    rw [if_pos hany, secondPart, hdrop, List.filter_cons_of_neg (by simp [he])]
    rfl

variable {α : Type} [OfScientific α]

/-- The columns of a slide with the elements for each. -/
def columns (s : Slide) : List (Column α × List Element) :=
  match splitColumns s.elements with
  | (es, none) => [(singleColumn, es)]
  | (left, some right) => [(leftColumn, left), (rightColumn, right)]

theorem columns_eq (s : Slide) :
    (columns s : List (Column α × List Element)) =
      if s.elements.any isBreak then
        [(leftColumn, firstPart s.elements), (rightColumn, secondPart s.elements)]
      else [(singleColumn, s.elements)] := by
  rw [columns, splitColumns_eq]
  cases s.elements.any isBreak <;> rfl

theorem mem_columns {s : Slide} {c : Column α × List Element} (hc : c ∈ columns s) :
    c.1 = singleColumn ∨ c.1 = leftColumn ∨ c.1 = rightColumn := by
  rw [columns_eq] at hc
  split at hc
  · rw [List.mem_cons, List.mem_singleton] at hc
    obtain rfl | rfl := hc
    · exact Or.inr (Or.inl rfl)
    · exact Or.inr (Or.inr rfl)
  · rw [List.mem_singleton] at hc
    subst hc
    exact Or.inl rfl

theorem not_isBreak_of_mem_columns {s : Slide} {c : Column α × List Element}
    (hc : c ∈ columns s) {e : Element} (he : e ∈ c.2) : isBreak e = false := by
  rw [columns_eq] at hc
  split at hc
  · rw [List.mem_cons, List.mem_singleton] at hc
    obtain rfl | rfl := hc
    · exact not_isBreak_of_mem_firstPart he
    · exact not_isBreak_of_mem_secondPart he
  · rename_i hb
    rw [List.mem_singleton] at hc
    subst hc
    exact (Bool.not_eq_true _).mp fun h => hb (List.any_eq_true.mpr ⟨e, he, h⟩)

theorem mem_of_mem_columns {s : Slide} {c : Column α × List Element} (hc : c ∈ columns s)
    {e : Element} (he : e ∈ c.2) : e ∈ s.elements := by
  rw [columns_eq] at hc
  split at hc
  · rw [List.mem_cons, List.mem_singleton] at hc
    obtain rfl | rfl := hc
    · exact mem_of_mem_firstPart he
    · exact mem_of_mem_secondPart he
  · rw [List.mem_singleton] at hc
    subst hc
    exact he

theorem mapM_cons_eq {β γ ε : Type} (f : β → Except ε γ) (x : β) (xs : List β) :
    (x :: xs).mapM f =
      match f x with
      | .error e => .error e
      | .ok y =>
        match xs.mapM f with
        | .error e => .error e
        | .ok ys => .ok (y :: ys) := by
  rw [List.mapM_cons]
  cases f x with
  | error e => rfl
  | ok y => cases xs.mapM f <;> rfl

theorem exists_mapM_iff {β γ ε : Type} {P : γ → Prop} (f : β → Except ε γ) (xs : List β) :
    (∃ ys, xs.mapM f = .ok ys ∧ ∀ y ∈ ys, P y) ↔ ∀ x ∈ xs, ∃ y, f x = .ok y ∧ P y := by
  induction xs with
  | nil =>
    refine iff_of_true ⟨[], rfl, ?_⟩ ?_
    · intro y hy
      cases hy
    · intro x hx
      cases hx
  | cons x xs ih =>
    rw [mapM_cons_eq, List.forall_mem_cons, ← ih]
    cases f x with
    | error e =>
      refine iff_of_false ?_ ?_
      · rintro ⟨ys, h, -⟩
        cases h
      · rintro ⟨⟨y, h, -⟩, -⟩
        cases h
    | ok y =>
      cases xs.mapM f with
      | error e =>
        refine iff_of_false ?_ ?_
        · rintro ⟨ys, h, -⟩
          cases h
        · rintro ⟨-, ys, h, -⟩
          cases h
      | ok ys => simp

theorem exists_mapM_ok_iff {β γ ε : Type} (f : β → Except ε γ) (xs : List β) :
    (∃ ys, xs.mapM f = .ok ys) ↔ ∀ x ∈ xs, ∃ y, f x = .ok y := by
  simpa using exists_mapM_iff (P := fun _ => True) f xs

theorem mapM_eq_ok_iff {β γ ε : Type} {f : β → Except ε γ} {xs : List β} {ys : List γ} :
    xs.mapM f = .ok ys ↔ xs.map f = ys.map .ok := by
  induction xs generalizing ys with
  | nil =>
    rw [List.mapM_nil, List.map_nil, eq_comm (a := []), List.map_eq_nil_iff]
    exact ⟨fun h => (Except.ok.inj h).symm, fun h => congrArg Except.ok h.symm⟩
  | cons x xs ih =>
    rw [mapM_cons_eq, List.map_cons]
    cases ys with
    | nil => cases f x <;> cases xs.mapM f <;> simp
    | cons y ys =>
      rw [List.map_cons, List.cons.injEq, ← ih]
      cases f x <;> cases xs.mapM f <;> simp

theorem length_of_mapM {β γ ε : Type} {f : β → Except ε γ} {xs : List β} {ys : List γ}
    (h : xs.mapM f = .ok ys) : ys.length = xs.length := by
  have hlength := congrArg List.length (mapM_eq_ok_iff.mp h)
  rw [List.length_map, List.length_map] at hlength
  exact hlength.symm

theorem exists_of_mem_mapM {β γ ε : Type} {f : β → Except ε γ} {xs : List β} {ys : List γ}
    (h : xs.mapM f = .ok ys) {y : γ} (hy : y ∈ ys) : ∃ x ∈ xs, f x = .ok y := by
  have hmem : Except.ok y ∈ xs.map f := by
    rw [mapM_eq_ok_iff.mp h]
    exact List.mem_map_of_mem hy
  exact List.mem_map.mp hmem

theorem forall₂_of_mapM {β γ ε : Type} {f : β → Except ε γ} {xs : List β} {ys : List γ}
    (h : xs.mapM f = .ok ys) : List.Forall₂ (fun x y => f x = .ok y) xs ys := by
  rw [mapM_eq_ok_iff, ← List.forall₂_eq_eq_eq, List.forall₂_map_left_iff,
    List.forall₂_map_right_iff] at h
  exact h

theorem exists_of_mapM_error {β γ ε : Type} {f : β → Except ε γ} {xs : List β} {e : ε}
    (h : xs.mapM f = .error e) : ∃ x ∈ xs, f x = .error e := by
  induction xs with
  | nil => cases h
  | cons x xs ih =>
    rw [mapM_cons_eq] at h
    cases hx : f x with
    | error e' =>
      rw [hx] at h
      cases h
      exact ⟨x, List.mem_cons_self, hx⟩
    | ok y =>
      cases hxs : xs.mapM f with
      | error e' =>
        rw [hx, hxs] at h
        cases h
        obtain ⟨w, hw, hfw⟩ := ih hxs
        exact ⟨w, List.mem_cons_of_mem x hw, hfw⟩
      | ok ys =>
        rw [hx, hxs] at h
        cases h

variable [Add α] [Sub α] [Mul α] [NatCast α] [LT α] [DecidableLT α] [LE α] [DecidableLE α]

theorem placeSlide_eq (sizes : Shape → Except LayoutError (Size α)) (s : Slide) :
    placeSlide sizes s =
      ((columns s).mapM fun c => flow sizes c.1 c.2 contentTop).map
        fun placed => ⟨s.title, s.notes, placed.flatten⟩ := by
  rw [placeSlide, columns]
  obtain ⟨left, _ | right⟩ := splitColumns s.elements
  · dsimp only
    rw [mapM_cons_eq]
    cases flow sizes singleColumn left contentTop with
    | error e => rfl
    | ok placed => simp [Except.map, pure, Except.pure, bind, Except.bind]
  · dsimp only
    rw [mapM_cons_eq]
    cases flow sizes leftColumn left contentTop with
    | error e => rfl
    | ok placed =>
      dsimp only
      rw [mapM_cons_eq]
      cases flow sizes rightColumn right contentTop with
      | error e => rfl
      | ok placed' => simp [Except.map, pure, Except.pure, bind, Except.bind]

/-- An element that a column comes to, from `y` on down. -/
inductive Reached (sizes : Shape → Except LayoutError (Size α)) (c : Column α) :
    List Element → α → Element → Prop
  | here {e : Element} {es : List Element} {y : α} (h : ¬remaining y ≤ minRemaining) :
      Reached sizes c (e :: es) y e
  | later {e e' : Element} {es : List Element} {y : α} {size : Extent α}
      (h : ¬remaining y ≤ minRemaining) (he : extent sizes c.width (remaining y) e = .ok size)
      (hr : Reached sizes c es (y + size.advance) e') : Reached sizes c (e :: es) y e'

omit [DecidableLE α] in
theorem not_reached {sizes : Shape → Except LayoutError (Size α)} {c : Column α}
    {es : List Element} {y : α} (h : remaining y ≤ minRemaining) (e : Element) :
    ¬Reached sizes c es y e := by
  intro hr
  cases hr with
  | here h' => exact h' h
  | later h' => exact h' h

omit [DecidableLE α] in
theorem forall_reached_cons {sizes : Shape → Except LayoutError (Size α)} {c : Column α}
    {e : Element} {es : List Element} {y : α} {size : Extent α} {P : Element → Prop}
    (h : ¬remaining y ≤ minRemaining) (he : extent sizes c.width (remaining y) e = .ok size) :
    (∀ e', Reached sizes c (e :: es) y e' → P e') ↔
      P e ∧ ∀ e', Reached sizes c es (y + size.advance) e' → P e' := by
  constructor
  · exact fun hall => ⟨hall e (.here h), fun e' hr => hall e' (.later h he hr)⟩
  · rintro ⟨hfirst, hlater⟩ e' hr
    cases hr with
    | here _ => exact hfirst
    | later _ he' hr =>
      rw [he] at he'
      cases he'
      exact hlater e' hr

theorem flow_cons (sizes : Shape → Except LayoutError (Size α)) (c : Column α) (e : Element)
    (es : List Element) (y : α) :
    flow sizes c (e :: es) y =
      if remaining y ≤ minRemaining then .ok []
      else
        match extent sizes c.width (remaining y) e with
        | .error err => .error err
        | .ok size =>
          match flow sizes c es (y + size.advance) with
          | .error err => .error err
          | .ok rest => .ok (⟨e, ⟨c.x, y, size.width, size.height⟩, c.number⟩ :: rest) := by
  rw [flow]
  split
  · rfl
  · cases extent sizes c.width (remaining y) e with
    | error err => rfl
    | ok size =>
      change (flow sizes c es (y + size.advance)).bind _ = _
      dsimp only
      cases flow sizes c es (y + size.advance) <;> rfl

/-- A column is full, or it places the first element and goes on below it. -/
theorem flow_cons_eq_ok {sizes : Shape → Except LayoutError (Size α)} {c : Column α} {e : Element}
    {es : List Element} {y : α} {placed : List (Placed α)}
    (h : flow sizes c (e :: es) y = .ok placed) :
    (remaining y ≤ minRemaining ∧ placed = []) ∨
      ∃ size rest, ¬remaining y ≤ minRemaining ∧
        extent sizes c.width (remaining y) e = .ok size ∧
        flow sizes c es (y + size.advance) = .ok rest ∧
        placed = ⟨e, ⟨c.x, y, size.width, size.height⟩, c.number⟩ :: rest := by
  rw [flow_cons] at h
  split at h
  · rename_i hfull
    cases h
    exact Or.inl ⟨hfull, rfl⟩
  · rename_i hfull
    cases he : extent sizes c.width (remaining y) e with
    | error err =>
      rw [he] at h
      cases h
    | ok size =>
      cases hrest : flow sizes c es (y + size.advance) with
      | error err =>
        simp only [he, hrest] at h
        cases h
      | ok rest =>
        simp only [he, hrest] at h
        cases h
        exact Or.inr ⟨size, rest, hfull, rfl, hrest, rfl⟩

/-- What is placed stands where the column had come to, with the extent it takes there. -/
theorem mem_flow {sizes : Shape → Except LayoutError (Size α)} {c : Column α} {I : α → Prop}
    {es : List Element} {y : α} {placed : List (Placed α)}
    (hstep : ∀ y e size, I y → ¬remaining y ≤ minRemaining →
      extent sizes c.width (remaining y) e = .ok size → I (y + size.advance))
    (hy : I y) (h : flow sizes c es y = .ok placed) {p : Placed α} (hp : p ∈ placed) :
    p.element ∈ es ∧ ∃ z size, I z ∧ ¬remaining z ≤ minRemaining ∧
      extent sizes c.width (remaining z) p.element = .ok size ∧
      p.box = ⟨c.x, z, size.width, size.height⟩ := by
  induction es generalizing y placed with
  | nil =>
    cases h
    cases hp
  | cons e es ih =>
    obtain ⟨-, rfl⟩ | ⟨size, rest, hfull, he, hrest, rfl⟩ := flow_cons_eq_ok h
    · cases hp
    · obtain rfl | hp := List.mem_cons.mp hp
      · exact ⟨List.mem_cons_self, y, size, hy, hfull, he, rfl⟩
      · obtain ⟨hmem, hplace⟩ := ih (hstep y e size hy hfull he) hrest hp
        exact ⟨List.mem_cons_of_mem e hmem, hplace⟩

end SlideDeck.Layout
