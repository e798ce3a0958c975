import Mathlib.Logic.Basic
import SlideDeck.Json.Writer

/-!
Which values can be sent: those without numbers that are not finite, and without surrogates in their
texts and keys. No other code point of what is written can be one.
-/

namespace SlideDeck.Text.CodePoints

theorem fault?_eq_none_iff (s : CodePoints) : s.fault? = none ↔ s.rest = [] := by
  obtain ⟨start, _ | ⟨⟨h, t⟩, rest⟩⟩ := s
  · exact iff_of_true rfl rfl
  · exact iff_of_false (by rintro ⟨⟩) (by rintro ⟨⟩)

theorem rest_append_eq_nil_iff (s t : CodePoints) :
    (s ++ t).rest = [] ↔ s.rest = [] ∧ t.rest = [] := by
  obtain ⟨start, _ | ⟨⟨h, u⟩, rest⟩⟩ := s
  · change t.rest = [] ↔ _
    exact (and_iff_right rfl).symm
  · change (h, _) :: _ = [] ↔ (h, u) :: rest = [] ∧ _
    simp

end SlideDeck.Text.CodePoints

namespace SlideDeck.Json

open Text Text.CodePoints

/-- A value is sent as strict JSON in UTF-8. -/
def CanBeSent (v : Value) : Prop := isFinite v ∧ (write v).fault? = none

theorem rest_writeString_eq_nil_iff (s : CodePoints) : (writeString s).rest = [] ↔ s.rest = [] := by
  rw [writeString, rest_append_eq_nil_iff, rest_append_eq_nil_iff, and_iff_left rfl,
    and_iff_right rfl, List.map_eq_nil_iff]

theorem rest_separated_eq_nil_iff (ss : List CodePoints) :
    (separated ss).rest = [] ↔ ∀ s ∈ ss, s.rest = [] := by
  induction ss with
  | nil => exact iff_of_true rfl (List.forall_mem_nil _)
  | cons s ss ih =>
    rw [List.forall_mem_cons]
    cases ss with
    | nil => exact (and_iff_left (List.forall_mem_nil _)).symm
    | cons t ss =>
      rw [separated, rest_append_eq_nil_iff, rest_append_eq_nil_iff, and_iff_left rfl, ih]
      · rintro ⟨⟩

theorem canBeSent_iff (v : Value) : CanBeSent v ↔ isFinite v ∧ (write v).rest = [] := by
  rw [CanBeSent, fault?_eq_none_iff]

theorem canBeSent_null : CanBeSent .null := ⟨rfl, rfl⟩

theorem canBeSent_bool (b : Bool) : CanBeSent (.bool b) := by
  cases b <;> exact ⟨rfl, rfl⟩

theorem canBeSent_int (i : Int) : CanBeSent (.int i) := ⟨rfl, rfl⟩

theorem canBeSent_float_iff (x : Float) : CanBeSent (.float x) ↔ x.isFinite := by
  rw [CanBeSent, isFinite, write]
  exact and_iff_left rfl

theorem canBeSent_string_iff (s : CodePoints) : CanBeSent (.string s) ↔ s.rest = [] := by
  rw [canBeSent_iff, isFinite, write, rest_writeString_eq_nil_iff, and_iff_right rfl]
  all_goals rintro _ ⟨⟩

theorem areFinite_iff (vs : List Value) : areFinite vs ↔ ∀ v ∈ vs, isFinite v := by
  induction vs with
  | nil => exact iff_of_true rfl (List.forall_mem_nil _)
  | cons v vs ih => rw [areFinite, Bool.and_eq_true, List.forall_mem_cons, ih]

theorem membersFinite_iff (o : Object) : membersFinite o ↔ ∀ m ∈ o, isFinite m.2 := by
  induction o with
  | nil => exact iff_of_true rfl (List.forall_mem_nil _)
  | cons m o ih => rw [membersFinite, Bool.and_eq_true, List.forall_mem_cons, ih]

theorem writeItems_eq (vs : List Value) : writeItems vs = vs.map write := by
  induction vs with
  | nil => rfl
  | cons v vs ih => rw [writeItems, ih, List.map_cons]

theorem writeMembers_eq (o : Object) :
    writeMembers o = o.map fun m => writeString m.1 ++ (":" : CodePoints) ++ write m.2 := by
  induction o with
  | nil => rfl
  | cons m o ih => rw [writeMembers, ih, List.map_cons]

theorem canBeSent_array_iff (vs : List Value) : CanBeSent (.array vs) ↔ ∀ v ∈ vs, CanBeSent v := by
  simp only [canBeSent_iff]
  rw [isFinite, write, rest_append_eq_nil_iff, rest_append_eq_nil_iff, and_iff_left rfl,
    and_iff_right rfl, areFinite_iff, writeItems_eq, rest_separated_eq_nil_iff, List.forall_mem_map,
    ← forall₂_and]

theorem canBeSent_object_iff (o : Object) :
    CanBeSent (.object o) ↔ ∀ m ∈ o, m.1.rest = [] ∧ CanBeSent m.2 := by
  have hmember (m : CodePoints × Value) :
      (writeString m.1 ++ (":" : CodePoints) ++ write m.2).rest = [] ↔
        m.1.rest = [] ∧ (write m.2).rest = [] := by
    rw [rest_append_eq_nil_iff, rest_append_eq_nil_iff, and_iff_left rfl,
      rest_writeString_eq_nil_iff]
  simp only [canBeSent_iff]
  rw [isFinite, write, rest_append_eq_nil_iff, rest_append_eq_nil_iff, and_iff_left rfl,
    and_iff_right rfl, membersFinite_iff, writeMembers_eq, rest_separated_eq_nil_iff,
    List.forall_mem_map]
  simp only [hmember, ← forall₂_and]
  exact forall₂_congr fun m _ => by rw [and_left_comm]

end SlideDeck.Json
