import SlideDeck.Layout.Values
import SlideDeck.Proofs.Json.Written
import SlideDeck.Proofs.Layout.Finite

/-!
Which placed slides can be answered: those with finite boxes, and with options in which every number
is finite and no text and no key has a surrogate. Options that are left out do not count.
-/

namespace SlideDeck.Layout

open Deck Json
open Text (CodePoints)

/-- A key whose member is left out. -/
def IsLeftOut (key : CodePoints) : Prop := "_sa".toList <+: key.start.toList

/-- A value stands within another one: as its whole, or at any depth under keys that are not left
out. -/
inductive Within (w : Value) : Value → Prop where
  | whole : Within w w
  | item {v : Value} {vs : List Value} (h : v ∈ vs) (hw : Within w v) : Within w (.array vs)
  | member {key : CodePoints} {v : Value} {o : List (CodePoints × Value)} (h : (key, v) ∈ o)
    (hkey : ¬IsLeftOut key) (hw : Within w v) : Within w (.object o)

/-- A number is finite, a text has no surrogate, and neither has a key of an object. -/
def IsPresentable : Value → Prop
  | .float x => x.isFinite
  | .string s => s.rest = []
  | .object o => ∀ m ∈ o, ¬IsLeftOut m.1 → m.1.rest = []
  | .null | .bool _ | .int _ | .array _ => True

def CanBeAnswered (v : Value) : Prop := ∀ w, Within w v → IsPresentable w

theorem isLeftOut_iff (key : CodePoints) : isLeftOut key ↔ IsLeftOut key :=
  List.isPrefixOf_iff_prefix

theorem canBeAnswered_array_iff (vs : List Value) :
    CanBeAnswered (.array vs) ↔ ∀ v ∈ vs, CanBeAnswered v := by
  refine ⟨fun h v hv w hw => h w (.item hv hw), fun h w hw => ?_⟩
  cases hw with
  | whole => trivial
  | item hv hw => exact h _ hv w hw

theorem canBeAnswered_object_iff (o : Object) :
    CanBeAnswered (.object o) ↔
      ∀ m ∈ o, ¬IsLeftOut m.1 → m.1.rest = [] ∧ CanBeAnswered m.2 := by
  constructor
  · intro h m hm hkey
    exact ⟨h _ .whole m hm hkey, fun w hw => h w (.member hm hkey hw)⟩
  · intro h w hw
    cases hw with
    | whole => exact fun m hm hkey => (h m hm hkey).1
    | member hm hkey hw => exact (h _ hm hkey).2 w hw

/-- A value without others in it. -/
theorem canBeAnswered_iff_isPresentable {v : Value} (h : ∀ w, Within w v → w = v) :
    CanBeAnswered v ↔ IsPresentable v :=
  ⟨fun hv => hv v .whole, fun hv w hw => h w hw ▸ hv⟩

mutual

theorem canBeSent_answered_iff : ∀ v : Value, CanBeSent (answered v) ↔ CanBeAnswered v
  | .array vs => by
    rw [answered, canBeSent_array_iff, canBeAnswered_array_iff, canBeSent_answeredItems_iff vs]
  | .object o => by
    rw [answered, canBeSent_object_iff, canBeAnswered_object_iff, canBeSent_answeredMembers_iff o]
  | .float x => by
    rw [canBeAnswered_iff_isPresentable (by rintro w ⟨⟩; rfl)]
    exact canBeSent_float_iff x
  | .string s => by
    rw [canBeAnswered_iff_isPresentable (by rintro w ⟨⟩; rfl)]
    exact canBeSent_string_iff s
  | .null => by
    rw [canBeAnswered_iff_isPresentable (by rintro w ⟨⟩; rfl)]
    exact iff_of_true canBeSent_null trivial
  | .bool b => by
    rw [canBeAnswered_iff_isPresentable (by rintro w ⟨⟩; rfl)]
    exact iff_of_true (canBeSent_bool b) trivial
  | .int i => by
    rw [canBeAnswered_iff_isPresentable (by rintro w ⟨⟩; rfl)]
    exact iff_of_true (canBeSent_int i) trivial

theorem canBeSent_answeredItems_iff : ∀ vs : List Value,
    (∀ v ∈ answeredItems vs, CanBeSent v) ↔ ∀ v ∈ vs, CanBeAnswered v
  | [] => iff_of_true (List.forall_mem_nil _) (List.forall_mem_nil _)
  | v :: vs => by
    rw [answeredItems, List.forall_mem_cons, List.forall_mem_cons, canBeSent_answered_iff v,
      canBeSent_answeredItems_iff vs]

theorem canBeSent_answeredMembers_iff : ∀ o : List (CodePoints × Value),
    (∀ m ∈ answeredMembers o, m.1.rest = [] ∧ CanBeSent m.2) ↔
      ∀ m ∈ o, ¬IsLeftOut m.1 → m.1.rest = [] ∧ CanBeAnswered m.2
  | [] => iff_of_true (List.forall_mem_nil _) (List.forall_mem_nil _)
  | (key, v) :: o => by
    rw [answeredMembers, List.forall_mem_cons, ← canBeSent_answeredMembers_iff o]
    by_cases hkey : isLeftOut key
    · rw [if_pos hkey]
      exact (and_iff_right fun h => absurd ((isLeftOut_iff key).mp hkey) h).symm
    · rw [if_neg hkey, List.forall_mem_cons, canBeSent_answered_iff v]
      exact and_congr_left fun _ =>
        ⟨fun h _ => h, fun h => h (mt (isLeftOut_iff key).mpr hkey)⟩

end

/-- No member of a value is left out, at any depth. -/
def KeepsMembers (v : Value) : Prop := ∀ o, Within (.object o) v → ∀ m ∈ o, ¬IsLeftOut m.1

theorem KeepsMembers.of_mem_array {vs : List Value} (h : KeepsMembers (.array vs)) {v : Value}
    (hv : v ∈ vs) : KeepsMembers v := fun o ho => h o (.item hv ho)

theorem KeepsMembers.of_mem_object {o : Object} (h : KeepsMembers (.object o))
    {m : CodePoints × Value} (hm : m ∈ o) : KeepsMembers m.2 :=
  fun o' ho' => h o' (.member hm (h o .whole m hm) ho')

mutual

/-- Where no member is left out, all is answered. -/
theorem answered_eq_self : ∀ v : Value, KeepsMembers v → answered v = v
  | .array vs, h => by rw [answered, answeredItems_eq_self vs fun v hv => h.of_mem_array hv]
  | .object o, h => by
    rw [answered, answeredMembers_eq_self o (h o .whole) fun m hm => h.of_mem_object hm]
  | .float _, _ | .string _, _ | .null, _ | .bool _, _ | .int _, _ => rfl

theorem answeredItems_eq_self : ∀ vs : List Value, (∀ v ∈ vs, KeepsMembers v) →
    answeredItems vs = vs
  | [], _ => rfl
  | v :: vs, h => by
    obtain ⟨hv, hvs⟩ := List.forall_mem_cons.mp h
    rw [answeredItems, answered_eq_self v hv, answeredItems_eq_self vs hvs]

theorem answeredMembers_eq_self : ∀ o : List (CodePoints × Value), (∀ m ∈ o, ¬IsLeftOut m.1) →
    (∀ m ∈ o, KeepsMembers m.2) → answeredMembers o = o
  | [], _, _ => rfl
  | (key, v) :: o, hkeys, h => by
    obtain ⟨hkey, hkeys⟩ := List.forall_mem_cons.mp hkeys
    obtain ⟨hv, hvs⟩ := List.forall_mem_cons.mp h
    rw [answeredMembers, if_neg (mt (isLeftOut_iff key).mp hkey), answered_eq_self v hv,
      answeredMembers_eq_self o hkeys hvs]

end

/-- No option of a shape is left out, at any depth. -/
def KeepsOptions (e : Element) : Prop := ∀ s, e = .shape s → KeepsMembers (.object s.options)

theorem answeredSlide_eq_self {s : PlacedSlide Float}
    (h : ∀ q ∈ s.elements, KeepsOptions q.element) : answeredSlide s = s := by
  obtain ⟨title, notes, es⟩ := s
  have helements : es.map (fun q => { q with element := answeredElement q.element }) = es := by
    refine (List.map_congr_left fun q hq => ?_).trans (List.map_id es)
    obtain ⟨e, b, c⟩ := q
    cases e with
    | shape s =>
      have hoptions := answered_eq_self _ (h _ hq s rfl)
      rw [answered, Value.object.injEq] at hoptions
      rw [answeredElement, hoptions]
      rfl
    | textBlock _ | picture _ | table _ | columnBreak => rfl
  rw [answeredSlide]
  exact congrArg (PlacedSlide.mk title notes) helements

theorem canBeSent_textValues (ss : List String) : CanBeSent (textValues ss) := by
  rw [textValues, canBeSent_array_iff, List.forall_mem_map]
  exact fun s _ => (canBeSent_string_iff s).mpr rfl

theorem canBeSent_optionalText (s : Option String) : CanBeSent (optionalText s) := by
  cases s with
  | none => exact canBeSent_null
  | some s => exact (canBeSent_string_iff s).mpr rfl

theorem canBeSent_linkValue (l : Option Hyperlink) : CanBeSent (linkValue l) := by
  cases l with
  | none => exact canBeSent_null
  | some l => simp [linkValue, canBeSent_object_iff, canBeSent_string_iff]

theorem canBeSent_runValue (r : Run) : CanBeSent (runValue r) := by
  simp [runValue, canBeSent_object_iff, canBeSent_string_iff, canBeSent_bool, canBeSent_linkValue]

/-- Only a shape has options. -/
def HasPresentableOptions (e : Element) : Prop :=
  ∀ s, e = .shape s → CanBeAnswered (.object s.options)

theorem canBeSent_elementValue_iff (e : Element) :
    CanBeSent (elementValue (answeredElement e)) ↔ HasPresentableOptions e := by
  cases e with
  | shape s =>
    have hoptions :
        HasPresentableOptions (.shape s) ↔ CanBeSent (answered (.object s.options)) := by
      rw [canBeSent_answered_iff]
      exact ⟨fun h => h s rfl, by rintro h _ ⟨⟩; exact h⟩
    rw [hoptions, answered]
    simp [answeredElement, elementValue, canBeSent_object_iff, canBeSent_string_iff]
  | textBlock runs =>
    refine iff_of_true ?_ (by rintro s ⟨⟩)
    simp [answeredElement, elementValue, canBeSent_object_iff, canBeSent_string_iff,
      canBeSent_array_iff, canBeSent_runValue]
  | table t =>
    refine iff_of_true ?_ (by rintro s ⟨⟩)
    simp [answeredElement, elementValue, canBeSent_object_iff, canBeSent_string_iff,
      canBeSent_array_iff, canBeSent_textValues]
  | picture p | columnBreak =>
    refine iff_of_true ?_ (by rintro s ⟨⟩)
    simp [answeredElement, elementValue, canBeSent_object_iff, canBeSent_string_iff]

theorem canBeSent_boxMembers_iff (b : Box Float) :
    (∀ m ∈ boxMembers b, m.1.rest = [] ∧ CanBeSent m.2) ↔ b.IsFinite := by
  simp [boxMembers, Box.IsFinite, canBeSent_float_iff]

theorem canBeSent_placedValue_iff (p : Placed Float) :
    CanBeSent (placedValue { p with element := answeredElement p.element }) ↔
      p.box.IsFinite ∧ HasPresentableOptions p.element := by
  rw [placedValue, canBeSent_object_iff, List.forall_mem_cons, List.forall_mem_append,
    canBeSent_boxMembers_iff, canBeSent_elementValue_iff, List.forall_mem_singleton]
  constructor
  · rintro ⟨⟨-, he⟩, hbox, -⟩
    exact ⟨hbox, he⟩
  · rintro ⟨hbox, he⟩
    exact ⟨⟨rfl, he⟩, hbox, rfl, canBeSent_int _⟩

theorem isFinite_titleBox : (titleBox : Box Float).IsFinite := ⟨rfl, rfl, rfl, rfl⟩

theorem canBeSent_slideValue_iff (s : PlacedSlide Float) :
    CanBeSent (slideValue (answeredSlide s)) ↔
      ∀ q ∈ s.elements, q.box.IsFinite ∧ HasPresentableOptions q.element := by
  have htitle : CanBeSent (.object (boxMembers titleBox)) := by
    rw [canBeSent_object_iff, canBeSent_boxMembers_iff]
    exact isFinite_titleBox
  simp [slideValue, answeredSlide, canBeSent_object_iff, canBeSent_string_iff, htitle,
    canBeSent_optionalText, canBeSent_array_iff, canBeSent_placedValue_iff]

/-- Slides can be answered if their boxes are finite and their options can be answered. -/
theorem canBeSent_outlineValue_iff (slides : List (PlacedSlide Float)) (diagnostics : List String) :
    CanBeSent (outlineValue (slides.map answeredSlide) diagnostics) ↔
      ∀ s ∈ slides, ∀ q ∈ s.elements, q.box.IsFinite ∧ HasPresentableOptions q.element := by
  simp [outlineValue, canBeSent_object_iff, canBeSent_array_iff, canBeSent_textValues,
    canBeSent_slideValue_iff]

end SlideDeck.Layout
