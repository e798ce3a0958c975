import SlideDeck.Deck.Builder
import SlideDeck.Proofs.Decimal.Nearest
import SlideDeck.Proofs.Layout.Columns

/-!
Which decks can be placed with finite boxes: those in which no column comes to a shape whose size is
too large for a double or infinite.
-/

namespace SlideDeck.Layout

open Deck Decimal

def Box.IsFinite (b : Box Float) : Prop :=
  b.x.isFinite ∧ b.y.isFinite ∧ b.width.isFinite ∧ b.height.isFinite

/-- A number above zero; only such a value is a size. -/
def isPositive : Json.Value → Bool
  | .int i => 0 < i
  | .float x => 0 < x
  | _ => false

/-- The value that counts as a size: the first positive number under the keys. -/
def sizeValue? (o : Json.Object) (keys : List String) : Option Json.Value :=
  keys.findSome? fun key : String => (o.get? key).filter isPositive

/-- A number whose double is finite. -/
def FitsDouble : Json.Value → Prop
  | .int i => (i : ℚ) < tooLarge
  | .float x => x.isFinite
  | _ => True

/-- If a size is asked for, its double is finite. -/
def SizeFits (o : Json.Object) (keys : List String) : Prop :=
  ∀ v, sizeValue? o keys = some v → FitsDouble v

def InRange : Element → Prop
  | .shape s => SizeFits s.options ["h", "height"] ∧ SizeFits s.options ["w", "width"]
  | .table t => (t.rows.length : ℚ) < tooLarge
  | .textBlock _ | .picture _ | .columnBreak => True

theorem sizeOf?_of_not_isPositive {v : Json.Value} (h : isPositive v = false) :
    sizeOf? v = .ok none := by
  cases v with
  | int i => simp_all [isPositive, sizeOf?]
  | float x => simp_all [isPositive, sizeOf?]
  | null | bool b | string s | array vs | object o => rfl

theorem sizeOf?_of_isPositive {v : Json.Value} (h : isPositive v) :
    (¬FitsDouble v ∧ sizeOf? v = .error .sizeTooLarge) ∨
      ∃ x, sizeOf? v = .ok (some x) ∧ 0 ≤ x ∧ (x.isFinite ↔ FitsDouble v) := by
  cases v with
  | int i =>
    have hi : 0 < i := by simpa [isPositive] using h
    obtain ⟨hfits, hlarge⟩ := ofInt?_of_pos hi
    rw [sizeOf?, if_pos hi]
    by_cases hlt : (i : ℚ) < tooLarge
    · obtain ⟨x, hx, hf, hpos⟩ := hfits hlt
      exact Or.inr ⟨x, by rw [hx], hpos, iff_of_true hf hlt⟩
    · exact Or.inl ⟨hlt, by rw [hlarge (not_lt.mp hlt)]⟩
  | float x =>
    have hx : 0 < x := by simpa [isPositive] using h
    exact Or.inr ⟨x, by rw [sizeOf?, if_pos hx], float_le_of_lt hx, Iff.rfl⟩
  | null | bool b | string s | array vs | object o => cases h

theorem sizeOption_eq (o : Json.Object) (keys : List String) :
    sizeOption o keys =
      match sizeValue? o keys with
      | none => .ok none
      | some v => sizeOf? v := by
  induction keys with
  | nil => rfl
  | cons key keys ih =>
    rw [sizeOption, sizeValue?, List.findSome?_cons, ih]
    cases hv : o.get? key with
    | none => rfl
    | some v =>
      rw [Option.filter_some]
      cases hp : isPositive v with
      | false =>
        dsimp only
        rw [sizeOf?_of_not_isPositive hp]
        rfl
      | true =>
        dsimp only
        rcases sizeOf?_of_isPositive hp with ⟨-, h⟩ | ⟨x, h, -⟩ <;> rw [h] <;> simp [h]

/-- The size under the keys, with a finite one in case that none is asked for. -/
theorem sizeOption_spec (o : Json.Object) (keys : List String) :
    (¬SizeFits o keys ∧ sizeOption o keys = .error .sizeTooLarge) ∨
      ∃ size, sizeOption o keys = .ok size ∧ ∀ x : Float, x.isFinite → 0 ≤ x →
        0 ≤ size.getD x ∧ ((size.getD x).isFinite ↔ SizeFits o keys) := by
  rw [sizeOption_eq]
  cases hv : sizeValue? o keys with
  | none =>
    have hfits : SizeFits o keys := by
      intro v h
      rw [hv] at h
      cases h
    exact Or.inr ⟨none, rfl, fun x hx hpos => ⟨hpos, iff_of_true hx hfits⟩⟩
  | some v =>
    have hfits : SizeFits o keys ↔ FitsDouble v := by
      simp [SizeFits, hv]
    have hp : isPositive v := by
      obtain ⟨key, -, h⟩ := List.exists_of_findSome?_eq_some hv
      exact (Option.filter_eq_some_iff.mp h).2
    rw [hfits]
    obtain h | ⟨x, hx, hpos, hf⟩ := sizeOf?_of_isPositive hp
    · exact Or.inl h
    · exact Or.inr ⟨some x, hx, fun _ _ _ => ⟨hpos, hf⟩⟩

theorem number_slideHeight : number (slideHeight : Float) = 45 / 8 := by
  have hu : (slideHeight : Float).toModel.unpack =
      .finite .positive 6333186975989760 (-50) (by decide) := rfl
  rw [number_of_unpack hu]
  norm_num

theorem number_bottomMargin : number (bottomMargin : Float) = 1 / 4 := by
  have hu : (bottomMargin : Float).toModel.unpack =
      .finite .positive (2 ^ 52) (-54) (by decide) := rfl
  rw [number_of_unpack hu]
  norm_num

theorem minRemaining_nonneg : 0 ≤ number (minRemaining : Float) :=
  number_nonneg (by decide)

/-- A column that is not full has come to a finite place above the bottom. -/
theorem remaining_spec {y : Float} (hy : 0 ≤ y) (h : ¬remaining y ≤ minRemaining) :
    y.isFinite ∧ number y < 45 / 8 ∧ (remaining y).isFinite ∧ 0 ≤ remaining y ∧
      number (remaining y) < 32 := by
  have hslide : (slideHeight : Float).isFinite := rfl
  have hbottom : (bottomMargin : Float).isFinite := rfl
  have hmin : (minRemaining : Float).isFinite := rfl
  have hyf : y.isFinite := by
    by_contra hf
    have hi := sub_infinity hslide (infinity_of_nonneg hy hf)
    exact h (le_of_negative_infinity (infinity_sub hi hbottom) hmin)
  have hypos := number_nonneg hy
  have hbig := pow_lt_tooLarge
  have hgreat := greatest_add_one_lt
  have hspace := sub_holds hslide hyf
  rw [number_slideHeight] at hspace
  have hspacef : (slideHeight - y).isFinite := by
    rw [isFinite_iff_of_holds hspace, abs_lt]
    have hle := (abs_le.mp (abs_number_le y)).2
    constructor <;> linarith
  have hspacele := (abs_le.mp (abs_number_le (slideHeight - y))).2
  have hleft := sub_holds hspacef hbottom
  rw [number_bottomMargin] at hleft
  have hleftf : (remaining y).isFinite := by
    by_contra hf
    have hlarge := mt (isFinite_iff_of_holds hleft).mpr hf
    obtain hlow | hhigh := le_abs'.mp (not_lt.mp hlarge)
    · exact h (le_of_negative_infinity (hleft.below hlow) hmin)
    · linarith
  have hnum : number (minRemaining : Float) < number (remaining y) := by
    rwa [le_iff_number_le hleftf hmin, not_le] at h
  have hpos := minRemaining_nonneg.trans_lt hnum
  have hylt : number y < 45 / 8 := by
    by_contra hge
    have hneg := number_nonpos_of_holds hspace (by linarith)
    have hneg' := number_nonpos_of_holds hleft (by linarith)
    exact absurd hpos (not_lt.mpr hneg')
  refine ⟨hyf, hylt, hleftf, (nonneg_iff _).mpr (Or.inr ⟨hleftf, hpos.le⟩), ?_⟩
  have hspacenear := (near_of_holds hspace hspacef).1
  have hleftnear : |number (remaining y)| ≤ _ := (near_of_holds hleft hleftf).1
  have hspacepos := number_nonneg_of_holds hspace (by linarith)
  rw [abs_of_nonneg hspacepos, abs_of_nonneg (by linarith)] at hspacenear
  have habs : |number (slideHeight - y) - 1 / 4| ≤ number (slideHeight - y) + 1 / 4 :=
    abs_le.mpr ⟨by linarith, by linarith⟩
  rw [abs_of_pos hpos] at hleftnear
  linarith

theorem number_half : number (0.5 : Float) = 1 / 2 := by
  have hu : (0.5 : Float).toModel.unpack = .finite .positive (2 ^ 52) (-53) (by decide) := rfl
  rw [number_of_unpack hu]
  norm_num

/-- The height of a table is finite unless its rows are too many for a double. -/
theorem tableHeight_spec (n : Nat) :
    ((tableHeadHeight + tableRowHeight * Float.ofNat n).isFinite ↔ (n : ℚ) < tooLarge) ∧
      0 ≤ tableHeadHeight + tableRowHeight * Float.ofNat n := by
  have hhalf : (0.5 : Float).isFinite := rfl
  have hpos : 0 < number (0.5 : Float) := by
    rw [number_half]
    norm_num
  have hhalfnonneg : (0 : Float) ≤ 0.5 := (nonneg_iff _).mpr (Or.inr ⟨hhalf, hpos.le⟩)
  obtain ⟨hn, hnonneg⟩ := ofNat_finite n
  have hrows := (nonneg_mul hhalf hpos hnonneg).1
  refine ⟨?_, nonneg_add hhalfnonneg hrows⟩
  rw [← hn]
  change (0.5 + 0.5 * Float.ofNat n).isFinite ↔ _
  by_cases hf : (Float.ofNat n).isFinite
  · refine iff_of_true ?_ hf
    have hrow := mul_holds hhalf hf
    have hrowf : (0.5 * Float.ofNat n).isFinite := by
      rw [isFinite_iff_of_holds hrow, number_half, abs_mul]
      have hlt := abs_number_lt (Float.ofNat n)
      have habs := abs_nonneg (number (Float.ofNat n))
      rw [abs_of_pos (by norm_num : (0 : ℚ) < 1 / 2)]
      linarith
    rw [isFinite_iff_of_holds (add_holds hhalf hrowf), number_half,
      abs_of_nonneg (add_nonneg (by norm_num) (number_nonneg hrows))]
    linarith [(abs_le.mp (abs_number_le (0.5 * Float.ofNat n))).2, greatest_add_one_lt]
  · have hi := (mul_infinity hpos (infinity_of_nonneg hnonneg hf)).1
    exact iff_of_false (not_isFinite_of_infinity (add_infinity hhalfnonneg hi).1) hf

/-- The lesser of two sizes is finite if the second one is. -/
theorem lesser_spec {x r : Float} (hx : 0 ≤ x) (hr : r.isFinite) (hrpos : 0 ≤ r) :
    (if x < r then x else r).isFinite ∧ 0 ≤ (if x < r then x else r) ∧
      number (if x < r then x else r) ≤ number r := by
  split
  · rename_i hlt
    have hxf := isFinite_of_lt hx hr hlt
    exact ⟨hxf, hx, ((lt_iff_number_lt hxf hr).mp hlt).le⟩
  · exact ⟨hr, hrpos, le_rfl⟩

theorem lineHeight_nonneg (n : Nat) : 0 ≤ Float.ofNat n * lineHeight := by
  have hpos : 0 < number (lineHeight : Float) := by
    have h : number (lineHeight : Float) = 1 / 2 := number_half
    rw [h]
    norm_num
  exact (nonneg_mul rfl hpos (ofNat_finite n).2).2

/-- An element that is no break takes an extent without negative sizes, or it is a shape of a size
that is too large. -/
theorem extent_spec {e : Element} (he : isBreak e = false) {w r : Float} (hw : w.isFinite)
    (hwpos : 0 ≤ w) (hr : r.isFinite) (hrpos : 0 ≤ r) :
    (¬InRange e ∧ extent shapeSize w r e = .error .sizeTooLarge) ∨
      ∃ size, extent shapeSize w r e = .ok size ∧ 0 ≤ size.width ∧ 0 ≤ size.height ∧
        0 ≤ size.advance ∧ (size.width.isFinite ∧ size.height.isFinite ↔ InRange e) := by
  cases e with
  | textBlock runs =>
    obtain ⟨hf, hpos, -⟩ := lesser_spec (lineHeight_nonneg (lineCount runs)) hr hrpos
    have hspacing : (0 : Float) ≤ textSpacing := by decide
    exact Or.inr ⟨_, rfl, hwpos, hpos, nonneg_add hpos hspacing, iff_of_true ⟨hw, hf⟩ trivial⟩
  | picture p =>
    have hheight : (0 : Float) ≤ pictureHeight := by decide
    have hspacing : (0 : Float) ≤ pictureSpacing := by decide
    have hf : (pictureHeight : Float).isFinite := rfl
    exact Or.inr ⟨_, rfl, hwpos, hheight, nonneg_add hheight hspacing,
      iff_of_true ⟨hw, hf⟩ trivial⟩
  | table t =>
    obtain ⟨hf, hpos⟩ := tableHeight_spec t.rows.length
    exact Or.inr ⟨_, rfl, hwpos, hpos, hpos, (and_iff_right hw).trans hf⟩
  | shape s =>
    have hheight : (0 : Float) ≤ shapeHeight := by decide
    have hspacing : (0 : Float) ≤ shapeSpacing := by decide
    have hexpand : extent shapeSize w r (.shape s) = (shapeSize s).bind fun size =>
        .ok ⟨size.width.getD w, size.height.getD shapeHeight,
          size.height.getD shapeHeight + shapeSpacing⟩ := rfl
    have hsize : shapeSize s = (sizeOption s.options ["h", "height"]).bind fun height =>
        (sizeOption s.options ["w", "width"]).bind fun width => .ok ⟨width, height⟩ := rfl
    rw [hexpand, hsize]
    obtain ⟨hout, h⟩ | ⟨height, h, hh⟩ := sizeOption_spec s.options ["h", "height"]
    · rw [h]
      exact Or.inl ⟨fun hin => hout hin.1, rfl⟩
    · obtain ⟨hout, h'⟩ | ⟨width, h', hh'⟩ := sizeOption_spec s.options ["w", "width"]
      · rw [h, h']
        exact Or.inl ⟨fun hin => hout hin.2, rfl⟩
      · rw [h, h']
        obtain ⟨hpos, hf⟩ := hh shapeHeight rfl hheight
        obtain ⟨hpos', hf'⟩ := hh' w hw hwpos
        refine Or.inr ⟨_, rfl, hpos', hpos, nonneg_add hpos hspacing, ?_⟩
        exact (and_congr hf' hf).trans and_comm
  | columnBreak => cases he

theorem extent_nonneg {e : Element} {w r : Float} (hw : w.isFinite) (hwpos : 0 ≤ w)
    (hr : r.isFinite) (hrpos : 0 ≤ r) {size : Extent Float}
    (h : extent shapeSize w r e = .ok size) :
    0 ≤ size.width ∧ 0 ≤ size.height ∧ 0 ≤ size.advance := by
  cases he : isBreak e with
  | true =>
    cases e with
    | columnBreak => cases h
    | textBlock runs | picture p | table t | shape s => cases he
  | false =>
    rcases extent_spec he hw hwpos hr hrpos with
      ⟨-, herr⟩ | ⟨size', hsize, hwidth, hheight, hadvance, -⟩
    · rw [herr] at h
      cases h
    · rw [hsize] at h
      cases h
      exact ⟨hwidth, hheight, hadvance⟩

/-- A column never comes to a place above the top of the canvas. -/
theorem nonneg_advance {w : Float} (hw : w.isFinite) (hwpos : 0 ≤ w) (y : Float) (e : Element)
    (size : Extent Float) (hy : 0 ≤ y) (hfull : ¬remaining y ≤ minRemaining)
    (he : extent shapeSize w (remaining y) e = .ok size) : 0 ≤ y + size.advance := by
  obtain ⟨-, -, hrf, hrpos, -⟩ := remaining_spec hy hfull
  exact nonneg_add hy (extent_nonneg hw hwpos hrf hrpos he).2.2

/-- The columns of a slide stand at finite places and have finite widths. -/
theorem columns_finite {s : Slide} {c : Column Float × List Element} (hc : c ∈ columns s) :
    c.1.x.isFinite ∧ c.1.width.isFinite ∧ 0 ≤ c.1.width := by
  rcases mem_columns hc with h | h | h <;> rw [h] <;> decide

theorem flow_finite_iff {c : Column Float} (hx : c.x.isFinite) (hw : c.width.isFinite)
    (hwpos : 0 ≤ c.width) {es : List Element} (hes : ∀ e ∈ es, isBreak e = false) {y : Float}
    (hy : 0 ≤ y) :
    (∃ placed, flow shapeSize c es y = .ok placed ∧ ∀ p ∈ placed, p.box.IsFinite) ↔
      ∀ e, Reached shapeSize c es y e → InRange e := by
  induction es generalizing y with
  | nil =>
    refine iff_of_true ⟨[], rfl, ?_⟩ ?_
    · intro p hp
      cases hp
    · intro e he
      cases he
  | cons e es ih =>
    rw [List.forall_mem_cons] at hes
    rw [flow_cons]
    by_cases hfull : remaining y ≤ minRemaining
    · rw [if_pos hfull]
      refine iff_of_true ⟨[], rfl, ?_⟩ fun e' he' => absurd he' (not_reached hfull e')
      intro p hp
      cases hp
    · rw [if_neg hfull]
      obtain ⟨hyf, -, hrf, hrpos, -⟩ := remaining_spec hy hfull
      obtain ⟨hout, herr⟩ | ⟨size, hsize, -, -, hadvance, hfin⟩ :=
        extent_spec hes.1 hw hwpos hrf hrpos
      · rw [herr]
        refine iff_of_false ?_ fun h => hout (h e (.here hfull))
        rintro ⟨placed, h, -⟩
        cases h
      · rw [hsize, forall_reached_cons hfull hsize, ← ih hes.2 (nonneg_add hy hadvance)]
        dsimp only
        cases flow shapeSize c es (y + size.advance) with
        | error err =>
          refine iff_of_false ?_ ?_
          · rintro ⟨placed, h, -⟩
            cases h
          · rintro ⟨-, rest, h, -⟩
            cases h
        | ok rest =>
          have hfirst : (⟨c.x, y, size.width, size.height⟩ : Box Float).IsFinite ↔ InRange e := by
            rw [← hfin]
            exact ⟨fun h => h.2.2, fun h => ⟨hx, hyf, h⟩⟩
          simp [hfirst]

theorem flow_error {c : Column Float} (hw : c.width.isFinite) (hwpos : 0 ≤ c.width)
    {es : List Element} (hes : ∀ e ∈ es, isBreak e = false) {y : Float} (hy : 0 ≤ y)
    {err : LayoutError} (h : flow shapeSize c es y = .error err) : err = .sizeTooLarge := by
  induction es generalizing y with
  | nil => cases h
  | cons e es ih =>
    rw [List.forall_mem_cons] at hes
    rw [flow_cons] at h
    split at h
    · cases h
    · rename_i hfull
      obtain ⟨-, -, hrf, hrpos, -⟩ := remaining_spec hy hfull
      rcases extent_spec hes.1 hw hwpos hrf hrpos with
        ⟨-, herr⟩ | ⟨size, hsize, -, -, hadvance, -⟩
      · rw [herr] at h
        cases h
        rfl
      · rw [hsize] at h
        cases hflow : flow shapeSize c es (y + size.advance) with
        | error err' =>
          simp only [hflow] at h
          cases h
          exact ih hes.2 (nonneg_add hy hadvance) hflow
        | ok rest =>
          simp only [hflow] at h
          cases h

theorem contentTop_nonneg : (0 : Float) ≤ contentTop := by
  decide

/-- An element that a column of a slide comes to. -/
def Reaches (s : Slide) (e : Element) : Prop :=
  ∃ c ∈ columns s, Reached shapeSize c.1 c.2 contentTop e

theorem placeSlide_finite_iff (s : Slide) :
    (∃ placed, placeSlide shapeSize s = .ok placed ∧ ∀ p ∈ placed.elements, p.box.IsFinite) ↔
      ∀ e, Reaches s e → InRange e := by
  have hcolumns : (∃ placed, ((columns s).mapM fun c => flow shapeSize c.1 c.2 contentTop) =
      .ok placed ∧ ∀ ps ∈ placed, ∀ p ∈ ps, p.box.IsFinite) ↔ ∀ e, Reaches s e → InRange e := by
    rw [exists_mapM_iff]
    constructor
    · rintro h e ⟨c, hc, hr⟩
      obtain ⟨hx, hw, hwpos⟩ := columns_finite hc
      exact (flow_finite_iff hx hw hwpos (fun e => not_isBreak_of_mem_columns hc)
        contentTop_nonneg).mp (h c hc) e hr
    · intro h c hc
      obtain ⟨hx, hw, hwpos⟩ := columns_finite hc
      exact (flow_finite_iff hx hw hwpos (fun e => not_isBreak_of_mem_columns hc)
        contentTop_nonneg).mpr fun e hr => h e ⟨c, hc, hr⟩
  rw [← hcolumns, placeSlide_eq]
  cases (columns s).mapM fun c => flow shapeSize c.1 c.2 contentTop with
  | error err =>
    refine iff_of_false ?_ ?_
    · rintro ⟨placed, h, -⟩
      cases h
    · rintro ⟨placed, h, -⟩
      cases h
  | ok placed =>
    have hflatten : (∀ p ∈ placed.flatten, p.box.IsFinite) ↔
        ∀ ps ∈ placed, ∀ p ∈ ps, p.box.IsFinite := by
      constructor
      · exact fun h ps hps p hp => h p (List.mem_flatten_of_mem hps hp)
      · intro h p hp
        obtain ⟨ps, hps, hp⟩ := List.mem_flatten.mp hp
        exact h ps hps p hp
    simpa only [Except.map, Except.ok.injEq, exists_eq_left'] using hflatten

/-- Where and how an element is placed on a slide. -/
theorem mem_placeSlide {s : Slide} {placed : PlacedSlide Float}
    (h : placeSlide shapeSize s = .ok placed) {p : Placed Float} (hp : p ∈ placed.elements) :
    ∃ c ∈ columns s, p.element ∈ c.2 ∧ ∃ y size, 0 ≤ y ∧ ¬remaining y ≤ minRemaining ∧
      extent shapeSize c.1.width (remaining y) p.element = .ok size ∧
      p.box = ⟨c.1.x, y, size.width, size.height⟩ := by
  rw [placeSlide_eq] at h
  cases hm : (columns s).mapM fun c => flow shapeSize c.1 c.2 contentTop with
  | error err =>
    rw [hm] at h
    cases h
  | ok pss =>
    rw [hm] at h
    cases h
    obtain ⟨ps, hps, hp⟩ := List.mem_flatten.mp hp
    obtain ⟨c, hc, hflow⟩ := exists_of_mem_mapM hm hps
    obtain ⟨-, hw, hwpos⟩ := columns_finite hc
    exact ⟨c, hc, mem_flow (nonneg_advance hw hwpos) contentTop_nonneg hflow hp⟩

theorem placeSlide_error {s : Slide} {err : LayoutError}
    (h : placeSlide shapeSize s = .error err) : err = .sizeTooLarge := by
  rw [placeSlide_eq] at h
  cases hm : (columns s).mapM fun c => flow shapeSize c.1 c.2 contentTop with
  | error err' =>
    rw [hm] at h
    cases h
    obtain ⟨c, hc, hflow⟩ := exists_of_mapM_error hm
    obtain ⟨-, hw, hwpos⟩ := columns_finite hc
    exact flow_error hw hwpos (fun e => not_isBreak_of_mem_columns hc) contentTop_nonneg hflow
  | ok pss =>
    rw [hm] at h
    cases h

theorem exists_placeDeck_iff (slides : List Slide) :
    (∃ placed, placeDeck slides = .ok placed ∧
        ∀ s ∈ placed, ∀ p ∈ s.elements, p.box.IsFinite) ↔
      ∀ s ∈ slides, ∀ e, Reaches s e → InRange e :=
  (exists_mapM_iff (placeSlide shapeSize) slides).trans
    (forall₂_congr fun s _ => placeSlide_finite_iff s)

/-- A deck is placed with finite boxes if and only if all elements that its columns come to are in
range. Otherwise a size is too large for a double, or sizes are infinite; places are finite and
sizes are numbers that are not negative in any case. -/
theorem placeDeck_finite_iff (slides : List Slide) :
    ((∃ placed, placeDeck slides = .ok placed ∧
        ∀ s ∈ placed, ∀ p ∈ s.elements, p.box.IsFinite) ↔
      ∀ s ∈ slides, ∀ e, Reaches s e → InRange e) ∧
    (∀ err, placeDeck slides = .error err → err = .sizeTooLarge) ∧
    ∀ placed, placeDeck slides = .ok placed → ∀ s ∈ placed, ∀ p ∈ s.elements,
      p.box.x.isFinite ∧ p.box.y.isFinite ∧ 0 ≤ p.box.width ∧ 0 ≤ p.box.height := by
  refine ⟨exists_placeDeck_iff slides, ?_, ?_⟩
  · intro err h
    obtain ⟨s, -, hs⟩ := exists_of_mapM_error h
    exact placeSlide_error hs
  · intro placed h s hs p hp
    obtain ⟨slide, -, hslide⟩ := exists_of_mem_mapM h hs
    obtain ⟨c, hc, -, y, size, hy, hfull, hext, hbox⟩ := mem_placeSlide hslide hp
    obtain ⟨hx, hw, hwpos⟩ := columns_finite hc
    obtain ⟨hyf, -, hrf, hrpos, -⟩ := remaining_spec hy hfull
    obtain ⟨hwidth, hheight, -⟩ := extent_nonneg hw hwpos hrf hrpos hext
    rw [hbox]
    exact ⟨hx, hyf, hwidth, hheight⟩

/-- A shape five inches high, and one higher than any double that is not come to. -/
def fullSlide : Slide where
  title := "T"
  elements := [.shape ⟨.rectangle, [("h", .int 5)]⟩, .shape ⟨.oval, [("h", .int (10 ^ 400))]⟩]

theorem placeDeck_finite_iff_fullSlide :
    (∀ s ∈ [fullSlide], ∀ e, Reaches s e → InRange e) ∧
    ∃ placed, placeDeck [fullSlide] = .ok placed ∧
      (∀ s ∈ placed, ∀ p ∈ s.elements, p.box.IsFinite) ∧
      ∀ s ∈ placed, ∀ p ∈ s.elements, p.box.x.isFinite ∧ p.box.y.isFinite ∧
        0 ≤ p.box.width ∧ 0 ≤ p.box.height := by
  have hrange : ∀ s ∈ [fullSlide], ∀ e, Reaches s e → InRange e := by
    rintro s hs e ⟨c, hc, hr⟩
    obtain rfl := List.mem_singleton.mp hs
    obtain rfl := List.mem_singleton.mp hc
    cases hr with
    | here h =>
      have hheight : sizeValue? [("h", .int 5)] ["h", "height"] = some (.int 5) := rfl
      have hwidth : sizeValue? [("h", .int 5)] ["w", "width"] = none := rfl
      refine ⟨fun v hv => ?_, fun v hv => ?_⟩
      · obtain rfl := Option.some.inj (hheight.symm.trans hv)
        have hlt : (5 : ℚ) < tooLarge := lt_trans (by norm_num) pow_lt_tooLarge
        exact_mod_cast hlt
      · cases hwidth.symm.trans hv
    | later h he hr =>
      have hext : extent shapeSize (singleColumn : Column Float).width (remaining contentTop)
          (.shape ⟨.rectangle, [("h", .int 5)]⟩) =
          .ok ⟨singleColumn.width, nearest 5 1, nearest 5 1 + shapeSpacing⟩ := rfl
      obtain rfl := Except.ok.inj (hext.symm.trans he)
      have hfull : remaining (contentTop + (nearest 5 1 + shapeSpacing)) ≤ minRemaining := by
        decide +kernel
      cases hr with
      | here h => exact absurd hfull h
      | later h => exact absurd hfull h
  obtain ⟨placed, hplaced, hfin⟩ := (placeDeck_finite_iff [fullSlide]).1.mpr hrange
  exact ⟨hrange, placed, hplaced, hfin, (placeDeck_finite_iff [fullSlide]).2.2 placed hplaced⟩

/-- The options of a shape of infinite height. -/
def endless : String := "\x7b\"h\": Infinity\x7d"

theorem parse_endless : Json.parse endless.toList = .ok (.object [("h", .float (1 / 0))]) := by
  have h : endless.toList =
      ['\x7b', '"', 'h', '"', ':', ' ', 'I', 'n', 'f', 'i', 'n', 'i', 't', 'y', '\x7d'] := by
    decide
  rw [h]
  rfl

def endlessTalk : List Passage :=
  [.heading 1 "T", .paragraph "!shape[rect](\x7b\"h\": Infinity\x7d)" []]

theorem build_endlessTalk : (build endlessTalk).slides =
    .ok [⟨"T", [.shape ⟨.rectangle, [("h", .float (1 / 0))]⟩], none⟩] := by
  have hf : formOf "!shape[rect](\x7b\"h\": Infinity\x7d)" = .shape "rect" endless := by
    decide
  have hs : parseShape "rect" endless =
      .ok (.ok ⟨.rectangle, [("h", .float (1 / 0))]⟩) := by
    rw [parseShape]
    rw [parse_endless]
    rfl
  rw [endlessTalk, build, buildFrom, buildFrom, contribution, paragraphContribution, hf]
  · dsimp only
    rw [hs]
    rfl
  · rintro title ⟨⟩

/-- Infinity is read as a size, and no box of that size is finite. -/
theorem not_forall_placeDeck_finite :
    ¬∀ ps slides, (build ps).slides = .ok slides → ∃ placed, placeDeck slides = .ok placed ∧
      ∀ s ∈ placed, ∀ p ∈ s.elements, p.box.IsFinite := by
  intro h
  have hin := (exists_placeDeck_iff _).mp (h _ _ build_endlessTalk) _ List.mem_cons_self
    (.shape ⟨.rectangle, [("h", .float (1 / 0))]⟩)
    ⟨_, List.mem_cons_self, .here (by decide +kernel)⟩
  have hpos : isPositive (.float (1 / 0)) = true := by decide +kernel
  have hvalue : sizeValue? [("h", .float (1 / 0))] ["h", "height"] = some (.float (1 / 0)) := by
    have hget : Json.Object.get? [("h", .float (1 / 0))] "h" = some (.float (1 / 0)) := rfl
    rw [sizeValue?, List.findSome?_cons, hget, Option.filter_some, hpos]
    rfl
  have hinfinite : ¬(1 / 0 : Float).isFinite := by decide +kernel
  exact hinfinite (hin.1 _ hvalue)

end SlideDeck.Layout
