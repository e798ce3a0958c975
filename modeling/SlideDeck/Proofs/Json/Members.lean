import Mathlib.Data.List.Induction
import Mathlib.Data.List.Nodup
import SlideDeck.Json.Value

/-!
Members with the same key. Setting members one after the other leaves each key at its first place
with its last value, and this tells what is left.
-/

namespace SlideDeck.Json

open Text (CodePoints)

variable {ms : List (CodePoints × Value)} {o o' : Object}

/-- What is left of members: each key at its first place, with its last value. -/
def Remains (ms : List (CodePoints × Value)) (o : Object) : Prop :=
  o.map Prod.fst = (ms.map Prod.fst).eraseDups ∧ ∀ key, o.get? key = ms.reverse.lookup key

/-- An object after members were set in it. -/
def setAll (o : Object) (ms : List (CodePoints × Value)) : Object :=
  ms.foldl (fun o m => Object.set m.1 m.2 o) o

theorem get?_cons (m : CodePoints × Value) (o : Object) (key : CodePoints) :
    Object.get? (m :: o) key = if key = m.1 then some m.2 else Object.get? o key := by
  rw [Object.get?, List.lookup_cons, Object.get?]
  by_cases h : key = m.1
  · rw [if_pos h, beq_iff_eq.mpr h]
  · rw [if_neg h, beq_eq_false_iff_ne.mpr h]

theorem eraseDups_concat (ks : List CodePoints) (k : CodePoints) :
    (ks ++ [k]).eraseDups = if k ∈ ks then ks.eraseDups else ks.eraseDups ++ [k] := by
  rw [List.eraseDups_append]
  by_cases h : k ∈ ks <;> simp [List.removeAll, h, List.eraseDups_cons]

theorem nodup_eraseDups (ks : List CodePoints) : ks.eraseDups.Nodup := by
  induction ks using List.reverseRecOn with
  | nil => exact List.nodup_nil
  | append_singleton ks k ih =>
    rw [eraseDups_concat]
    split
    · exact ih
    next h =>
      refine List.nodup_append.mpr ⟨ih, List.nodup_singleton k, ?_⟩
      rintro a ha b hb rfl
      rw [List.mem_singleton.mp hb] at ha
      exact h (List.mem_eraseDups.mp ha)

theorem keys_set (key : CodePoints) (v : Value) (o : Object) :
    (Object.set key v o).map Prod.fst =
      if key ∈ o.map Prod.fst then o.map Prod.fst else o.map Prod.fst ++ [key] := by
  induction o with
  | nil => rfl
  | cons m o ih =>
    rw [Object.set]
    by_cases h : m.1 = key
    · simp [h]
    · rw [if_neg h, List.map_cons, ih, List.map_cons]
      by_cases hmem : key ∈ o.map Prod.fst <;> simp [hmem, Ne.symm h]

theorem get?_set (key : CodePoints) (v : Value) (o : Object) (key' : CodePoints) :
    Object.get? (Object.set key v o) key' = if key' = key then some v else o.get? key' := by
  induction o with
  | nil => rw [Object.set, get?_cons]
  | cons m o ih =>
    rw [Object.set]
    by_cases h : m.1 = key
    · rw [if_pos h, get?_cons, get?_cons]
      dsimp only
      rw [h]
      by_cases hk : key' = key <;> simp [hk]
    · rw [if_neg h, get?_cons, get?_cons, ih]
      by_cases hk : key' = m.1
      · rw [if_pos hk, if_pos hk, if_neg (hk ▸ h)]
      · rw [if_neg hk, if_neg hk]

theorem set_of_not_mem {key : CodePoints} (h : key ∉ o.map Prod.fst) (v : Value) :
    Object.set key v o = o ++ [(key, v)] := by
  induction o with
  | nil => rfl
  | cons m o ih =>
    rw [List.map_cons, List.mem_cons, not_or] at h
    rw [Object.set, if_neg (Ne.symm h.1), ih h.2, List.cons_append]

theorem setAll_concat (o : Object) (ms : List (CodePoints × Value)) (m : CodePoints × Value) :
    setAll o (ms ++ [m]) = Object.set m.1 m.2 (setAll o ms) := List.foldl_concat ..

/-- An object is known by its keys and by what stands under each. -/
theorem eq_of_get? (hkeys : o.map Prod.fst = o'.map Prod.fst) (hnodup : (o.map Prod.fst).Nodup)
    (h : ∀ key, o.get? key = o'.get? key) : o = o' := by
  induction o generalizing o' with
  | nil => exact (List.map_eq_nil_iff.mp hkeys.symm).symm
  | cons m o ih =>
    cases o' with
    | nil => cases hkeys
    | cons m' o' =>
      obtain ⟨hkey, hrest⟩ := List.cons.inj hkeys
      obtain ⟨hmem, hnodup⟩ := List.nodup_cons.mp hnodup
      have hvalue := h m.1
      rw [get?_cons, get?_cons, if_pos rfl, if_pos hkey, Option.some.injEq] at hvalue
      obtain rfl : m = m' := Prod.ext hkey hvalue
      have hnone {o : Object} (hnot : m.1 ∉ o.map Prod.fst) : o.get? m.1 = none :=
        List.lookup_eq_none_iff.mpr fun p hp => bne_iff_ne.mpr fun hp' =>
          hnot (hp' ▸ List.mem_map_of_mem hp)
      rw [ih hrest hnodup fun key => ?_]
      by_cases hk : key = m.1
      · rw [hk, hnone hmem, hnone (hrest ▸ hmem)]
      · have hget := h key
        rwa [get?_cons, get?_cons, if_neg hk, if_neg hk] at hget

theorem remains_setAll (ms : List (CodePoints × Value)) : Remains ms (setAll [] ms) := by
  induction ms using List.reverseRecOn with
  | nil => exact ⟨rfl, fun _ => rfl⟩
  | append_singleton ms m ih =>
    obtain ⟨hkeys, hget⟩ := ih
    rw [setAll_concat]
    refine ⟨?_, fun key => ?_⟩
    · rw [keys_set, hkeys, List.map_append, List.map_singleton, eraseDups_concat]
      simp only [List.mem_eraseDups]
    · rw [get?_set, hget, List.reverse_concat]
      exact (get?_cons m ms.reverse key).symm

theorem remains_iff : Remains ms o ↔ setAll [] ms = o := by
  constructor
  · rintro ⟨hkeys, hget⟩
    obtain ⟨hkeys', hget'⟩ := remains_setAll ms
    refine eq_of_get? (hkeys'.trans hkeys.symm) ?_ fun key => (hget' key).trans (hget key).symm
    rw [hkeys']
    exact nodup_eraseDups _
  · rintro rfl
    exact remains_setAll ms

/-- Members with different keys are all left. -/
theorem remains_self (h : (ms.map Prod.fst).Nodup) : Remains ms ms := by
  rw [remains_iff]
  induction ms using List.reverseRecOn with
  | nil => rfl
  | append_singleton ms m ih =>
    rw [List.map_append, List.nodup_append] at h
    obtain ⟨hms, -, hm⟩ := h
    rw [setAll_concat, ih hms]
    exact set_of_not_mem (fun hmem => hm m.1 hmem m.1 List.mem_cons_self rfl) m.2

end SlideDeck.Json
