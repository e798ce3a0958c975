import SlideDeck.Proofs.Layout.Columns

/-!
How far a column is filled. The cursor of a column goes down by the advance of each element, and
what is placed is the longest beginning of the elements all of which start with space left.
-/

namespace SlideDeck.Layout

open Deck

variable {α : Type} [OfScientific α]
variable [Add α] [Sub α] [Mul α] [NatCast α] [LT α] [DecidableLT α]
variable {sizes : Shape → Except LayoutError (Size α)} {c : Column α}

/-- Where the next element starts below elements that stand from `y` on. -/
def cursor (sizes : Shape → Except LayoutError (Size α)) (w : α) :
    List Element → (y : α) → Except LayoutError α
  | [], y => .ok y
  | e :: es, y =>
    match extent sizes w (remaining y) e with
    | .error err => .error err
    | .ok size => cursor sizes w es (y + size.advance)

/-- Every element starts where more than the least space is left. -/
def Fits (sizes : Shape → Except LayoutError (Size α)) (w : α) (es : List Element) (y : α) : Prop :=
  ∀ before e, before ++ [e] <+: es →
    ∃ z, cursor sizes w before y = .ok z ∧ minRemaining < remaining z

theorem fits_nil (sizes : Shape → Except LayoutError (Size α)) (w y : α) : Fits sizes w [] y := by
  intro before e h
  simp at h

theorem fits_cons {w y : α} {e : Element} {size : Extent α}
    (he : extent sizes w (remaining y) e = .ok size) (es : List Element) :
    Fits sizes w (e :: es) y ↔
      minRemaining < remaining y ∧ Fits sizes w es (y + size.advance) := by
  constructor
  · intro h
    refine ⟨?_, fun before e' hp => ?_⟩
    · obtain ⟨z, hz, hspace⟩ := h [] e (List.prefix_append [e] es)
      cases hz
      exact hspace
    · have hz := h (e :: before) e' (List.prefix_cons_inj e |>.mpr hp)
      rwa [cursor, he] at hz
  · rintro ⟨hspace, h⟩ before e' hp
    cases before with
    | nil => exact ⟨y, rfl, hspace⟩
    | cons b before =>
      obtain ⟨rfl, htail⟩ := List.cons_prefix_cons.mp hp
      rw [cursor, he]
      exact h before e' htail

/-- A column that is filled from `y` on: it holds the longest beginning of the elements that fits,
each element where the cursor is and as large as it is there. -/
structure Fills (sizes : Shape → Except LayoutError (Size α)) (c : Column α) (es : List Element)
    (y : α) (placed : List (Placed α)) : Prop where
  beginning : placed.map Placed.element <+: es
  fits : Fits sizes c.width (placed.map Placed.element) y
  longest : ∀ es', es' <+: es → Fits sizes c.width es' y → es' <+: placed.map Placed.element
  places : ∀ before p after, placed = before ++ p :: after →
    ∃ z size, cursor sizes c.width (before.map Placed.element) y = .ok z ∧
      extent sizes c.width (remaining z) p.element = .ok size ∧
      p = ⟨p.element, ⟨c.x, z, size.width, size.height⟩, c.number⟩

theorem fills_nil {es : List Element} {y : α} (h : es = [] ∨ ¬minRemaining < remaining y) :
    Fills sizes c es y [] where
  beginning := List.nil_prefix
  fits := fits_nil sizes c.width y
  longest := by
    intro es' hp hfits
    cases es' with
    | nil => exact List.nil_prefix
    | cons e es' =>
      obtain rfl | hfull := h
      · simp at hp
      · obtain ⟨z, hz, hspace⟩ := hfits [] e (List.prefix_append [e] es')
        cases hz
        exact absurd hspace hfull
  places := by
    intro before p after h
    simp at h

theorem Fills.cons {e : Element} {es : List Element} {y : α} {size : Extent α}
    {rest : List (Placed α)} (hspace : minRemaining < remaining y)
    (he : extent sizes c.width (remaining y) e = .ok size)
    (h : Fills sizes c es (y + size.advance) rest) :
    Fills sizes c (e :: es) y (⟨e, ⟨c.x, y, size.width, size.height⟩, c.number⟩ :: rest) where
  beginning := by
    rw [List.map_cons]
    exact (List.prefix_cons_inj e).mpr h.beginning
  fits := (fits_cons he _).mpr ⟨hspace, h.fits⟩
  longest := by
    intro es' hp hfits
    cases es' with
    | nil => exact List.nil_prefix
    | cons e' es' =>
      obtain ⟨rfl, htail⟩ := List.cons_prefix_cons.mp hp
      exact (List.prefix_cons_inj e').mpr (h.longest es' htail ((fits_cons he es').mp hfits).2)
  places := by
    intro before p after hsplit
    cases before with
    | nil =>
      obtain ⟨rfl, rfl⟩ := List.cons.inj hsplit
      exact ⟨y, size, rfl, he, rfl⟩
    | cons b before =>
      obtain ⟨rfl, htail⟩ := List.cons.inj hsplit
      rw [List.map_cons, cursor, he]
      exact h.places before p after htail

variable [LE α] [DecidableLE α]

/-- What flows down a column fills it, if the cursor stays where the order of numbers is the usual
one. -/
theorem flow_fills {I : α → Prop}
    (hstep : ∀ y e size, I y → ¬remaining y ≤ minRemaining →
      extent sizes c.width (remaining y) e = .ok size → I (y + size.advance))
    (hspace : ∀ y, I y → (minRemaining < remaining y ↔ ¬remaining y ≤ minRemaining))
    {es : List Element} {y : α} (hy : I y) {placed : List (Placed α)}
    (h : flow sizes c es y = .ok placed) : Fills sizes c es y placed := by
  induction es generalizing y placed with
  | nil =>
    cases h
    exact fills_nil (Or.inl rfl)
  | cons e es ih =>
    obtain ⟨hfull, rfl⟩ | ⟨size, rest, hfull, he, hrest, rfl⟩ := flow_cons_eq_ok h
    · exact fills_nil (Or.inr (mt (hspace y hy).mp (not_not_intro hfull)))
    · exact (ih (hstep y e size hy hfull he) hrest).cons ((hspace y hy).mpr hfull) he

/-- Either a column is full, or what flows down it later goes on where it ends. -/
theorem flow_append {es : List Element} {y : α} {placed : List (Placed α)}
    (h : flow sizes c es y = .ok placed) :
    (∀ es', flow sizes c (es ++ es') y = .ok placed) ∨
      ∃ z, ∀ es', flow sizes c (es ++ es') y = (flow sizes c es' z).map (placed ++ ·) := by
  induction es generalizing y placed with
  | nil =>
    cases h
    refine Or.inr ⟨y, fun es' => ?_⟩
    rw [List.nil_append]
    cases flow sizes c es' y <;> rfl
  | cons e es ih =>
    obtain ⟨hfull, rfl⟩ | ⟨size, rest, hfull, he, hrest, rfl⟩ := flow_cons_eq_ok h
    · exact Or.inl fun es' => by rw [List.cons_append, flow_cons, if_pos hfull]
    · obtain hfill | ⟨z, hz⟩ := ih hrest
      · refine Or.inl fun es' => ?_
        simp [flow_cons, hfull, he, hfill]
      · refine Or.inr ⟨z, fun es' => ?_⟩
        simp only [List.cons_append, flow_cons, if_neg hfull, he, hz]
        cases flow sizes c es' z <;> rfl

/-- An element is placed alone, or the column is full and drops all that follows as well. -/
theorem flow_singleton {e : Element} {y : α} {placed : List (Placed α)}
    (h : flow sizes c [e] y = .ok placed) :
    (placed = [] ∧ ∀ es, flow sizes c (e :: es) y = .ok []) ∨
      ∃ p : Placed α, p.element = e ∧ placed = [p] := by
  obtain ⟨hfull, rfl⟩ | ⟨size, rest, -, -, hrest, rfl⟩ := flow_cons_eq_ok h
  · exact Or.inl ⟨rfl, fun es => by rw [flow_cons, if_pos hfull]⟩
  · cases hrest
    exact Or.inr ⟨_, rfl, rfl⟩

theorem column_of_mem_flow {es : List Element} {y : α} {placed : List (Placed α)}
    (h : flow sizes c es y = .ok placed) {p : Placed α} (hp : p ∈ placed) :
    p.column = c.number := by
  induction es generalizing y placed with
  | nil =>
    cases h
    cases hp
  | cons e es ih =>
    obtain ⟨-, rfl⟩ | ⟨size, rest, -, -, hrest, rfl⟩ := flow_cons_eq_ok h
    · cases hp
    · obtain rfl | hp := List.mem_cons.mp hp
      · rfl
      · exact ih hrest hp

/-- A column fails only where the size of a shape fails, or at a break. -/
theorem exists_of_flow_error {es : List Element} {y : α} {err : LayoutError}
    (h : flow sizes c es y = .error err) :
    .columnBreak ∈ es ∨ ∃ shape, .shape shape ∈ es ∧ sizes shape = .error err := by
  induction es generalizing y with
  | nil => cases h
  | cons e es ih =>
    rw [flow_cons] at h
    split at h
    · cases h
    · split at h
      · rename_i he
        cases h
        cases e with
        | textBlock runs | picture p | table t => cases he
        | shape shape =>
          refine Or.inr ⟨shape, List.mem_cons_self, ?_⟩
          rw [extent] at he
          cases hs : sizes shape with
          | error err' =>
            rw [hs] at he
            cases he
            rfl
          | ok size =>
            rw [hs] at he
            cases he
        | columnBreak => exact Or.inl List.mem_cons_self
      · split at h
        · rename_i hrest
          cases h
          obtain hb | ⟨shape, hs, herr⟩ := ih hrest
          · exact Or.inl (List.mem_cons_of_mem e hb)
          · exact Or.inr ⟨shape, List.mem_cons_of_mem e hs, herr⟩
        · cases h

/-- Every shape has a size, or asks for none. -/
def HasSizes (sizes : Shape → Except LayoutError (Size α)) (es : List Element) : Prop :=
  ∀ shape, .shape shape ∈ es → ∃ size, sizes shape = .ok size

theorem exists_flow {es : List Element} (hbreaks : ∀ e ∈ es, isBreak e = false)
    (hsizes : HasSizes sizes es) (y : α) : ∃ placed, flow sizes c es y = .ok placed := by
  cases hflow : flow sizes c es y with
  | ok placed => exact ⟨placed, rfl⟩
  | error err =>
    obtain hb | ⟨shape, hs, herr⟩ := exists_of_flow_error hflow
    · cases hbreaks _ hb
    · obtain ⟨size, hsize⟩ := hsizes shape hs
      rw [hsize] at herr
      cases herr

end SlideDeck.Layout
