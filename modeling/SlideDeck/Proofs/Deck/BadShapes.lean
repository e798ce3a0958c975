import SlideDeck.Proofs.Deck.Build
import SlideDeck.Proofs.Deck.ShapeForm
import SlideDeck.Proofs.Json.LongRun

/-!
Shapes that cannot be read. Each of them is reported once and left out, except that a whole number
with more digits than are read ends the whole build.
-/

namespace SlideDeck.Deck

/-- A shape of a known kind whose options hold a whole number too long to be read. -/
def Passage.IsOverlong (p : Passage) : Prop :=
  ∃ text phrases name options digits, p = .paragraph text phrases ∧
    formOf text = .shape name options ∧ (shapeKind? name).isSome ∧
    Json.parse options.toList = .error (.longNumber digits)

theorem parseShape_eq_error {name options : String} {n : LongNumber} :
    parseShape name options = .error n ↔
      (shapeKind? name).isSome ∧ Json.parse options.toList = .error (.longNumber n.digits) := by
  obtain ⟨digits⟩ := n
  rw [parseShape]
  cases shapeKind? name with
  | none => simp
  | some kind =>
    rcases Json.parse options.toList with (_ | _) | (_ | _ | _ | _ | _ | _ | _) <;> simp

theorem isOverlong_iff (p : Passage) : p.IsOverlong ↔ p.overlong? ≠ none := by
  constructor
  · rintro ⟨text, phrases, name, options, digits, rfl, hf, hn⟩
    have hs : parseShape name options = .error ⟨digits⟩ := parseShape_eq_error.mpr hn
    simp [Passage.overlong?, Passage.shape?, hf, hs]
  · intro h
    cases p with
    | paragraph text phrases =>
      cases hf : formOf text with
      | shape name options =>
        rcases hs : parseShape name options with n | r
        · exact ⟨text, phrases, name, options, n.digits, rfl, hf, parseShape_eq_error.mp hs⟩
        · simp [Passage.overlong?, Passage.shape?, hf, hs] at h
      | note s | picture p | text => simp [Passage.overlong?, Passage.shape?, hf] at h
    | heading depth text | list ordered items | table header rows | rule | other kind =>
      exact absurd rfl h

/-- A bad shape adds nothing but its report. -/
theorem elements_of_report {p : Passage} {r : String} (h : p.report? = some r) :
    ¬p.opens ∧ p.overlong? = none ∧ p.elements = [] ∧ p.note? = none := by
  cases p with
  | paragraph text phrases =>
    cases hf : formOf text with
    | shape name options =>
      rcases hs : parseShape name options with n | e | shape <;>
        simp [Passage.report?, Passage.shape?, hf, hs] at h
      simp [Passage.opens, Passage.overlong?, Passage.shape?, Passage.elements, Passage.note?, hf,
        hs]
    | note s | picture p | text => simp [Passage.report?, Passage.shape?, hf] at h
  | heading depth text | list ordered items | table header rows | rule | other kind => cases h

theorem opened_append_of_ne_nil {ps : List Passage} (qs : List Passage) (h : opened ps ≠ []) :
    opened (ps ++ qs) = opened ps ++ qs := by
  rw [opened] at h
  rw [opened, List.dropWhile_append, if_neg (by simpa using h), opened]

theorem slide_insert {p : Passage} (title : String) (before after : List Passage)
    (he : p.elements = []) (hn : p.note? = none) :
    Segment.slide ⟨title, before ++ p :: after⟩ = Segment.slide ⟨title, before ++ after⟩ := by
  simp [Segment.slide, he, hn]

theorem preamble_insert {p : Passage} (before after : List Passage) (ho : ¬p.opens) :
    preamble (before ++ p :: after) = preamble (before ++ after) ∨
      preamble (before ++ p :: after) = before ++ p :: preamble after ∧
        preamble (before ++ after) = before ++ preamble after := by
  rw [preamble, preamble, List.takeWhile_append, List.takeWhile_append]
  split
  · exact Or.inr ⟨congrArg (before ++ ·) (preamble_cons after ho), rfl⟩
  · exact Or.inl rfl

theorem slides_insert {p : Passage} (before after : List Passage) (ho : ¬p.opens)
    (he : p.elements = []) (hn : p.note? = none) :
    (segments (before ++ p :: after)).map Segment.slide =
      (segments (before ++ after)).map Segment.slide := by
  induction before with
  | nil => rw [List.nil_append, segments_cons after ho, List.nil_append]
  | cons q qs ih =>
    by_cases hq : q.opens
    · obtain ⟨title, rfl⟩ := (opens_iff q).mp hq
      rw [List.cons_append, List.cons_append, segments, segments, List.map_cons, List.map_cons, ih]
      obtain h | ⟨h, h'⟩ := preamble_insert qs after ho
      · rw [h]
      · rw [h, h', slide_insert title qs _ he hn]
    · rw [List.cons_append, List.cons_append, segments_cons _ hq, segments_cons _ hq, ih]

theorem findSome?_overlong?_insert {p : Passage} (before after : List Passage) (ho : ¬p.opens)
    (hl : p.overlong? = none) :
    (opened (before ++ p :: after)).findSome? Passage.overlong? =
      (opened (before ++ after)).findSome? Passage.overlong? := by
  induction before with
  | nil => simp [opened, ho]
  | cons q qs ih =>
    by_cases hq : q.opens
    · simp [opened, hq, List.findSome?_cons, hl]
    · simpa [opened, hq] using ih

/-- Leaving out a shape that is reported changes no slide, and of the diagnostics it takes away its
own report only. -/
theorem build_insert_report {p : Passage} {r : String} (before after : List Passage)
    (h : p.report? = some r) :
    (build (before ++ p :: after)).slides = (build (before ++ after)).slides ∧
      ∀ slides, (build before).slides = .ok slides → slides ≠ [] →
        ∃ later, (build (before ++ after)).diagnostics = (build before).diagnostics ++ later ∧
          (build (before ++ p :: after)).diagnostics =
            (build before).diagnostics ++ r :: later := by
  obtain ⟨ho, hl, he, hn⟩ := elements_of_report h
  constructor
  · rw [build_eq, build_eq, findSome?_overlong?_insert before after ho hl,
      slides_insert before after ho he hn]
  · intro slides hs hne
    obtain ⟨hf, rfl⟩ := build_slides_eq_ok.mp hs
    have hb : opened before ≠ [] := by
      intro hb
      have hnil : segments before = [] := by
        cases hseg : segments before with
        | nil => rfl
        | cons s ss => simp [opened_eq, hseg, Segment.passages] at hb
      simp [hnil] at hne
    refine ⟨reportsOf after, ?_, ?_⟩
    · rw [build_eq, build_eq, opened_append_of_ne_nil after hb, reportsOf_append after hf]
    · rw [build_eq, build_eq, opened_append_of_ne_nil _ hb, reportsOf_append _ hf,
        reportsOf_cons after hl, h]
      rfl

theorem shape_outcomes {text name options : String} (phrases : List Phrase)
    (hf : formOf text = .shape name options) :
    (Passage.paragraph text phrases).IsOverlong ∨
      (∃ shape, (Passage.paragraph text phrases).elements = [.shape shape] ∧
        (Passage.paragraph text phrases).report? = none) ∨
      ∃ r, (Passage.paragraph text phrases).report? = some r ∧
        (Passage.paragraph text phrases).elements = [] := by
  rcases hs : parseShape name options with n | e | shape
  · exact Or.inl ((isOverlong_iff _).mpr (by simp [Passage.overlong?, Passage.shape?, hf, hs]))
  · exact Or.inr (Or.inr ⟨shapeReport e text,
      by simp [Passage.report?, Passage.shape?, Passage.elements, hf, hs]⟩)
  · exact Or.inr (Or.inl ⟨shape,
      by simp [Passage.report?, Passage.shape?, Passage.elements, hf, hs]⟩)

/-- Building gives slides unless a slide holds a shape with a whole number too long to be read.
Every other shape that cannot be read has one report, which is told as an error and kept, and apart
from it all is built as without that shape. -/
theorem build_returns_iff (ps : List Passage) :
    ((∃ slides, (build ps).slides = .ok slides) ↔ ∀ p ∈ opened ps, ¬p.IsOverlong) ∧
    (∀ name options n, parseShape name options = .error n →
      (shapeKind? name).isSome ∧ Json.HasLongRun n.digits options.toList) ∧
    (build ps).notices.map (fun n => (n.level, n.text)) =
      (build ps).diagnostics.map (fun d => (Level.error, d)) ∧
    (∀ text phrases name options, formOf text = .shape name options →
      (Passage.paragraph text phrases).IsOverlong ∨
        (∃ shape, (Passage.paragraph text phrases).elements = [.shape shape] ∧
          (Passage.paragraph text phrases).report? = none) ∨
        ∃ r, (Passage.paragraph text phrases).report? = some r ∧
          (Passage.paragraph text phrases).elements = []) ∧
    ∀ before p after r, ps = before ++ p :: after → p.report? = some r →
      (build ps).slides = (build (before ++ after)).slides ∧
        ∀ slides, (build before).slides = .ok slides → slides ≠ [] →
          ∃ later, (build (before ++ after)).diagnostics = (build before).diagnostics ++ later ∧
            (build ps).diagnostics = (build before).diagnostics ++ r :: later := by
  refine ⟨?_, ?_, ?_, fun text phrases name options => shape_outcomes phrases, ?_⟩
  · have h : (∃ slides, (build ps).slides = .ok slides) ↔
        (opened ps).findSome? Passage.overlong? = none := by
      simp [build_slides_eq_ok]
    simp only [h, List.findSome?_eq_none_iff, isOverlong_iff, ne_eq, not_not]
  · intro name options n h
    obtain ⟨hk, hp⟩ := parseShape_eq_error.mp h
    exact ⟨hk, Json.hasLongRun_of_parse hp⟩
  · rw [build_eq, List.map_map]
    rfl
  · rintro before p after r rfl h
    exact build_insert_report before after h

def sizeOnly : Passage := .paragraph "!shape[rect](2)" []

theorem report?_sizeOnly :
    sizeOnly.report? = some "Shape options must be an object, got int in '!shape[rect](2)'" := by
  decide +kernel

theorem build_returns_iff_sizeOnly :
    (∃ slides, (build [.heading 1 "A", sizeOnly, .rule]).slides = .ok slides) ∧
    (build [.heading 1 "A", sizeOnly, .rule]).slides =
      (build ([.heading 1 "A"] ++ [.rule])).slides ∧
    ∃ later, (build ([.heading 1 "A"] ++ [.rule])).diagnostics =
        (build [.heading 1 "A"]).diagnostics ++ later ∧
      (build [.heading 1 "A", sizeOnly, .rule]).diagnostics =
        (build [.heading 1 "A"]).diagnostics ++
          "Shape options must be an object, got int in '!shape[rect](2)'" :: later := by
  obtain ⟨hreturns, -, -, -, hinsert⟩ := build_returns_iff [.heading 1 "A", sizeOnly, .rule]
  obtain ⟨hslides, hlater⟩ := hinsert [.heading 1 "A"] sizeOnly [.rule] _ rfl report?_sizeOnly
  refine ⟨hreturns.mpr ?_, hslides, hlater [⟨"A", [], none⟩] rfl (by simp)⟩
  intro p hp
  rw [isOverlong_iff, ne_eq, not_not]
  have ho : opened [.heading 1 "A", sizeOnly, .rule] = [.heading 1 "A", sizeOnly, .rule] := rfl
  rw [ho, List.mem_cons, List.mem_cons, List.mem_singleton] at hp
  obtain rfl | rfl | rfl := hp
  · rfl
  · exact (elements_of_report report?_sizeOnly).2.1
  · rfl

/-- A slide with a shape whose options are a number of `n` ones. -/
def longTalk (n : Nat) : List Passage :=
  [.heading 1 "T",
    .paragraph (String.ofList ("!shape[rect](".toList ++ List.replicate n '1' ++ [')'])) []]

theorem formOf_rect {options : List Char} (hb : ']' ∉ options) (hn : '\n' ∉ options) :
    formOf (String.ofList ("!shape[rect](".toList ++ options ++ [')'])) =
      .shape "rect" (String.ofList options) := by
  have hm : ¬optionsMark <:+: options := fun h => hb (h.subset List.mem_cons_self)
  have htext : String.ofList ("!shape[rect](".toList ++ options ++ [')']) =
      "" ++ "!shape[" ++ "rect" ++ "](" ++ String.ofList options ++ ")" ++ "" := by
    rw [← String.toList_inj]
    simp
  rw [htext, formOf_writtenShape _ _ rfl rfl (by decide) (by simpa using hn), String.toList_ofList,
    splitAtLast?_eq_none hm]

theorem build_longTalk {n : Nat} (h : Json.maxDigits < n) :
    (build (longTalk n)).slides = .error ⟨n⟩ := by
  obtain ⟨m, rfl⟩ : ∃ m, n = m + 1 := ⟨n - 1, by omega⟩
  have hd : ∀ c ∈ List.replicate (m + 1) '1', c = '1' := fun c hc => (List.mem_replicate.mp hc).2
  have hb : ']' ∉ List.replicate (m + 1) '1' := fun hc => absurd (hd ']' hc) (by decide)
  have hn : '\n' ∉ List.replicate (m + 1) '1' := fun hc => absurd (hd '\n' hc) (by decide)
  have hf := formOf_rect hb hn
  have hp : Json.parse (List.replicate (m + 1) '1') = .error (.longNumber (m + 1)) := by
    have hlen : (List.replicate (m + 1) '1').length = m + 1 := List.length_replicate
    rw [List.replicate_succ] at hd hlen ⊢
    rw [← hlen] at h ⊢
    exact Json.parse_longRun (by decide) (fun c hc => hd c hc ▸ rfl) h
  have hs : parseShape "rect" (String.ofList (List.replicate (m + 1) '1')) = .error ⟨m + 1⟩ :=
    parseShape_eq_error.mpr ⟨rfl, by rw [String.toList_ofList, hp]⟩
  rw [longTalk, build, buildFrom, buildFrom, contribution, paragraphContribution, hf]
  · dsimp only
    rw [hs]
    rfl
  · rintro title ⟨⟩

theorem not_forall_build_returns : ¬∀ ps, ∃ slides, (build ps).slides = .ok slides := by
  intro h
  obtain ⟨slides, hs⟩ := h (longTalk 4301)
  have hlong : Json.maxDigits < 4301 := by decide
  have he := (build_longTalk hlong).symm.trans hs
  simp at he

end SlideDeck.Deck
