import Mathlib.Data.List.Infix
import SlideDeck.Proofs.Text.Lines
import SlideDeck.Service

/-!
Which files are refused. A file is refused for its name if the last part of the name does not end in
an allowed suffix, and then for its size.
-/

namespace SlideDeck.Service

open Text

/-- A name without its directories. -/
def lastPart (name : List Char) : List Char := (splitOn '/' name).getLast?.getD []

theorem lastPart_of_not_mem {s : List Char} (h : '/' ∉ s) : lastPart s = s := by
  rw [lastPart, splitOn_eq_self h]
  rfl

theorem lastPart_append_cons (s : List Char) {t : List Char} (h : '/' ∉ t) :
    lastPart (s ++ '/' :: t) = t := by
  rw [lastPart, splitOn_append_cons, splitOn_eq_self h, List.getLast?_concat]
  rfl

theorem exists_append_lastPart (s : List Char) :
    ∃ d, s = d ++ lastPart s ∧ '/' ∉ lastPart s := by
  by_cases h : '/' ∈ s
  · obtain ⟨d, t, rfl, hslash⟩ := exists_last_of_mem h
    rw [lastPart_append_cons d hslash]
    exact ⟨d ++ ['/'], List.append_cons .., hslash⟩
  · rw [lastPart_of_not_mem h]
    exact ⟨[], rfl, h⟩

theorem exists_lastPart_append (s : List Char) {t : List Char} (h : '/' ∉ t) :
    ∃ e, lastPart (s ++ t) = e ++ t := by
  by_cases hs : '/' ∈ s
  · obtain ⟨d, e, rfl, he⟩ := exists_last_of_mem hs
    have hslash : '/' ∉ e ++ t := by
      rw [List.mem_append, not_or]
      exact ⟨he, h⟩
    rw [List.append_assoc, List.cons_append]
    exact ⟨e, lastPart_append_cons d hslash⟩
  · have hslash : '/' ∉ s ++ t := by
      rw [List.mem_append, not_or]
      exact ⟨hs, h⟩
    exact ⟨s, lastPart_of_not_mem hslash⟩

theorem suffix_of_lastPart {name stem tail : List Char}
    (h : lastPart name = stem ++ '.' :: tail) (htail : '.' ∉ tail) :
    suffix name = if stem.any (· ≠ '.') then '.' :: tail else [] := by
  rw [lastPart] at h
  have hdot : (stem ++ '.' :: tail).contains '.' = true := by simp
  rw [suffix, h]
  rw [reverse_takeWhile_reverse htail, take_length_sub, hdot, Bool.true_and]

theorem suffix_of_not_mem {name : List Char} (h : '.' ∉ lastPart name) : suffix name = [] := by
  rw [lastPart] at h
  simp [suffix, h]

/-- A name ends in a suffix if, in front of it, there is something else than dots behind the last
slash. -/
theorem suffix_eq_cons_iff (name tail : List Char) :
    suffix name = '.' :: tail ↔ '.' ∉ tail ∧ '/' ∉ tail ∧ ∃ front c dots,
      name = front ++ c :: List.replicate dots '.' ++ '.' :: tail ∧ c ≠ '.' ∧ c ≠ '/' := by
  constructor
  · intro h
    obtain ⟨d, hname, hslash⟩ := exists_append_lastPart name
    by_cases hdot : '.' ∈ lastPart name
    · obtain ⟨stem, rest, hlast, hmem⟩ := exists_last_of_mem hdot
      rw [suffix_of_lastPart hlast hmem] at h
      split at h
      · rename_i hany
        have hstem : ∃ c ∈ stem, c ≠ '.' := by simpa using hany
        obtain rfl := (List.cons.inj h).2
        obtain ⟨front, c, dots, rfl, hc, hdots⟩ := exists_last hstem
        rw [hlast] at hslash
        have hreplicate : dots = List.replicate dots.length '.' :=
          List.eq_replicate_of_mem fun x hx => not_not.mp (hdots x hx)
        refine ⟨hmem, fun hx => hslash (by simp [hx]), d ++ front, c, dots.length, ?_, hc, ?_⟩
        · rw [← hreplicate, hname, hlast]
          simp only [List.append_assoc]
        · rintro rfl
          exact hslash (by simp)
      · cases h
    · rw [suffix_of_not_mem hdot] at h
      cases h
  · rintro ⟨hdot, hslash, front, c, dots, rfl, hc, hc'⟩
    have hmem : '/' ∉ c :: List.replicate dots '.' ++ '.' :: tail := by
      simp [hc'.symm, hslash, List.mem_replicate]
    obtain ⟨e, he⟩ := exists_lastPart_append front hmem
    rw [← List.append_assoc, ← List.append_assoc] at he
    rw [suffix_of_lastPart he hdot, if_pos (List.any_eq_true.mpr ⟨c, by simp, by simp [hc]⟩)]

/-- The file that counts: one without a name is none. -/
def sent? (upload : Option Upload) : Option Upload := upload.filter fun u => u.name ≠ ""

/-- In lower case the name ends in an allowed suffix, with something else than dots in front of it
behind the last slash. -/
def HasAllowedName (u : Upload) : Prop :=
  ∃ ending ∈ allowedSuffixes, ∃ front c dots,
    lower u.name.toList = front ++ c :: List.replicate dots '.' ++ ending.toList ∧
      c ≠ '.' ∧ c ≠ '/'

def IsTooLarge (limit : Float) (u : Upload) : Prop := limit < Decimal.nearest u.size megabyte

/-- A file that can be used as a template. -/
def IsAccepted (limit : Float) (upload : Option Upload) : Prop :=
  ∀ u, upload = some u → HasAllowedName u ∧ ¬IsTooLarge limit u

theorem suffix_mem_iff (u : Upload) :
    String.ofList (suffix (lower u.name.toList)) ∈ allowedSuffixes ↔ HasAllowedName u := by
  have hendings : ∀ ending ∈ allowedSuffixes,
      ∃ tail, ending.toList = '.' :: tail ∧ '.' ∉ tail ∧ '/' ∉ tail := by
    rw [allowedSuffixes, List.forall_mem_cons, List.forall_mem_singleton]
    exact ⟨⟨_, rfl, by decide, by decide⟩, _, rfl, by decide, by decide⟩
  constructor
  · intro h
    obtain ⟨tail, hending, -⟩ := hendings _ h
    rw [String.toList_ofList] at hending
    obtain ⟨-, -, front, c, dots, hname, hc⟩ := (suffix_eq_cons_iff _ _).mp hending
    rw [← hending] at hname
    exact ⟨_, h, front, c, dots, by rw [String.toList_ofList, ← hname], hc⟩
  · rintro ⟨ending, hmem, front, c, dots, hname, hc⟩
    obtain ⟨tail, hending, hdot, hslash⟩ := hendings ending hmem
    rw [hending] at hname
    have hsuffix := (suffix_eq_cons_iff _ tail).mpr ⟨hdot, hslash, front, c, dots, hname, hc⟩
    rwa [hsuffix, ← hending, String.ofList_toList]

/-- Why a file is refused: first for its name, then for its size. -/
theorem uploadRefusal?_spec (limit : Float) (u : Upload) :
    (¬HasAllowedName u → ∃ detail, uploadRefusal? limit u = some (.refused 400 (some detail))) ∧
    (HasAllowedName u → IsTooLarge limit u →
      ∃ detail, uploadRefusal? limit u = some (.refused 413 (some detail))) ∧
    (HasAllowedName u → ¬IsTooLarge limit u → uploadRefusal? limit u = none) := by
  have hname : (!allowedSuffixes.contains (String.ofList (suffix (lower u.name.toList)))) =
      true ↔ ¬HasAllowedName u := by
    rw [Bool.not_eq_true', ← Bool.not_eq_true, List.contains_iff_mem, suffix_mem_iff]
  unfold uploadRefusal?
  extract_lets s
  refine ⟨fun h => ?_, fun h hlarge => ?_, fun h hsmall => ?_⟩
  · rw [if_pos (hname.mpr h)]
    exact ⟨_, rfl⟩
  · rw [IsTooLarge] at hlarge
    rw [if_neg (mt hname.mp (not_not.mpr h)), if_pos hlarge]
    exact ⟨_, rfl⟩
  · rw [IsTooLarge] at hsmall
    rw [if_neg (mt hname.mp (not_not.mpr h)), if_neg hsmall]

theorem refusal_of_accepted {limit : Float} {upload : Option Upload}
    (h : IsAccepted limit upload) : upload.bind (uploadRefusal? limit) = none := by
  cases upload with
  | none => rfl
  | some u =>
    obtain ⟨hname, hsize⟩ := h u rfl
    rw [Option.bind_some, (uploadRefusal?_spec limit u).2.2 hname hsize]

end SlideDeck.Service
