import Mathlib.Data.List.TakeWhile
import SlideDeck.Deck.Passage

/-!
The headings of depth one cut a stream of passages into segments. What stands before the first of
them belongs to none.
-/

namespace SlideDeck.Deck

def Passage.opens : Passage → Bool
  | .heading 1 _ => true
  | _ => false

theorem opens_iff (p : Passage) : p.opens ↔ ∃ title, p = .heading 1 title := by
  unfold Passage.opens
  split <;> simp_all

def preamble (ps : List Passage) : List Passage := ps.takeWhile (!·.opens)

def opened (ps : List Passage) : List Passage := ps.dropWhile (!·.opens)

/-- An opening heading and the passages up to the next one. -/
structure Segment where
  title : String
  body : List Passage

def Segment.passages (s : Segment) : List Passage := .heading 1 s.title :: s.body

def segments : List Passage → List Segment
  | [] => []
  | .heading 1 title :: ps => ⟨title, preamble ps⟩ :: segments ps
  | _ :: ps => segments ps

theorem preamble_cons {p : Passage} (ps : List Passage) (h : ¬p.opens) :
    preamble (p :: ps) = p :: preamble ps := by
  simp [preamble, h]

theorem segments_cons {p : Passage} (ps : List Passage) (h : ¬p.opens) :
    segments (p :: ps) = segments ps := by
  rw [segments]
  intro title hp
  exact h ((opens_iff p).mpr ⟨title, hp⟩)

theorem not_opens_of_mem_preamble {p : Passage} {ps : List Passage} (h : p ∈ preamble ps) :
    ¬p.opens := by
  simpa using List.mem_takeWhile_imp h

theorem not_opens_of_mem_body {s : Segment} {ps : List Passage} (hs : s ∈ segments ps) :
    ∀ p ∈ s.body, ¬p.opens := by
  induction ps with
  | nil => simp [segments] at hs
  | cons q qs ih =>
    by_cases ho : q.opens
    · obtain ⟨title, rfl⟩ := (opens_iff q).mp ho
      rw [segments, List.mem_cons] at hs
      obtain rfl | hs := hs
      · exact fun p hp => not_opens_of_mem_preamble hp
      · exact ih hs
    · exact ih (segments_cons qs ho ▸ hs)

theorem preamble_append_segments (ps : List Passage) :
    preamble ps ++ (segments ps).flatMap Segment.passages = ps := by
  induction ps with
  | nil => rfl
  | cons p ps ih =>
    by_cases ho : p.opens
    · obtain ⟨title, rfl⟩ := (opens_iff p).mp ho
      have hp : preamble (.heading 1 title :: ps) = [] := rfl
      rw [hp, segments, List.flatMap_cons, Segment.passages, List.nil_append, List.cons_append, ih]
    · rw [preamble_cons ps ho, segments_cons ps ho, List.cons_append, ih]

theorem opened_eq (ps : List Passage) : opened ps = (segments ps).flatMap Segment.passages := by
  have h : preamble ps ++ opened ps = ps := List.takeWhile_append_dropWhile
  exact List.append_cancel_left (h.trans (preamble_append_segments ps).symm)

theorem preamble_append {q : Passage} (ps qs : List Passage) (h : q.opens) :
    preamble (ps ++ q :: qs) = preamble ps := by
  induction ps with
  | nil => simp [preamble, h]
  | cons p ps ih =>
    by_cases ho : p.opens
    · simp [preamble, ho]
    · rw [List.cons_append, preamble_cons _ ho, preamble_cons _ ho, ih]

theorem segments_append {q : Passage} (ps qs : List Passage) (h : q.opens) :
    segments (ps ++ q :: qs) = segments ps ++ segments (q :: qs) := by
  induction ps with
  | nil => rfl
  | cons p ps ih =>
    by_cases ho : p.opens
    · obtain ⟨title, rfl⟩ := (opens_iff p).mp ho
      rw [List.cons_append, segments, ih, preamble_append ps qs h]
      rfl
    · rw [List.cons_append, segments_cons _ ho, ih, segments_cons _ ho]

theorem opened_append {q : Passage} (ps qs : List Passage) (h : q.opens) :
    opened (ps ++ q :: qs) = opened ps ++ opened (q :: qs) := by
  rw [opened_eq, opened_eq, opened_eq, segments_append ps qs h, List.flatMap_append]

end SlideDeck.Deck
