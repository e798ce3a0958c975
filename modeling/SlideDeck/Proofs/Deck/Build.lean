import SlideDeck.Deck.Builder
import SlideDeck.Proofs.Deck.Segments

/-!
The slides built from a stream of passages, told from its segments: every slide is made from the
passages of its own segment alone.
-/

namespace SlideDeck.Deck

namespace Passage

/-- The speaker note that a passage is. -/
def note? : Passage → Option String
  | .paragraph text _ =>
    match formOf text with
    | .note s => some s
    | _ => none
  | _ => none

/-- How the shape in a passage reads, if the passage is one. -/
def shape? : Passage → Option (Except LongNumber (Except ShapeError Shape))
  | .paragraph text _ =>
    match formOf text with
    | .shape name options => some (parseShape name options)
    | _ => none
  | _ => none

/-- The number at which building stops. -/
def overlong? (p : Passage) : Option LongNumber :=
  match p.shape? with
  | some (.error n) => some n
  | _ => none

/-- The message about a shape that cannot be read. -/
def report? : Passage → Option String
  | .paragraph text phrases =>
    match (paragraph text phrases).shape? with
    | some (.ok (.error e)) => some (shapeReport e text)
    | _ => none
  | _ => none

def elements : Passage → List Element
  | .paragraph text phrases =>
    match formOf text with
    | .note _ => []
    | .picture p => [.picture p]
    | .shape name options =>
      match parseShape name options with
      | .ok (.ok shape) => [.shape shape]
      | _ => []
    | .text => if resolveAll {} phrases = [] then [] else [.textBlock (resolveAll {} phrases)]
  | .list _ items =>
    (items.filter fun i => resolveAll {} i.phrases ≠ []).map fun i => .textBlock (itemRuns i)
  | .table header rows => [.table ⟨header, rows⟩]
  | .rule => [.columnBreak]
  | .heading _ _ | .other _ => []

end Passage

namespace Segment

/-- The slide of a segment; of several notes the last one counts. -/
def slide (s : Segment) : Slide where
  title := s.title
  elements := s.body.flatMap Passage.elements
  notes := (s.body.filterMap Passage.note?).getLast?

def reports (s : Segment) : List String := s.body.filterMap Passage.report?

end Segment

theorem itemRuns_eq_nil (i : Item) : itemRuns i = [] ↔ resolveAll {} i.phrases = [] := by
  rw [itemRuns]
  cases resolveAll {} i.phrases with
  | nil => simp
  | cons r rs =>
    cases i.isTask with
    | false => simp [bulletRuns]
    | true => by_cases ht : r.text.isEmpty <;> simp [taskRuns, ht]

theorem listBlocks_eq (ordered : Bool) (items : List Item) :
    listBlocks items = (Passage.list ordered items).elements := by
  rw [listBlocks, Passage.elements]
  induction items with
  | nil => rfl
  | cons i is ih =>
    rw [List.flatMap_cons, ih]
    by_cases hr : resolveAll {} i.phrases = []
    · simp [textBlock?, (itemRuns_eq_nil i).mpr hr, hr]
    · have hi : itemRuns i ≠ [] := fun h => hr ((itemRuns_eq_nil i).mp h)
      simp [textBlock?, hi, hr]

theorem contribution_eq (p : Passage) :
    contribution p =
      match p.overlong? with
      | some n => .error n
      | none =>
        .ok ⟨p.elements, p.note?, p.report?.toList, p.report?.toList.map .badShape⟩ := by
  cases p with
  | paragraph text phrases =>
    cases hf : formOf text with
    | shape name options =>
      rcases hs : parseShape name options with n | e | shape <;>
        simp [contribution, paragraphContribution, Passage.overlong?, Passage.shape?,
          Passage.elements, Passage.note?, Passage.report?, Contribution.report, Except.map, hf, hs]
    | note s | picture p | text =>
      simp [contribution, paragraphContribution, Passage.overlong?, Passage.shape?,
        Passage.elements, Passage.note?, Passage.report?, textBlock?, hf]
  | list ordered items =>
    simp [contribution, listBlocks_eq ordered, Passage.overlong?, Passage.shape?, Passage.note?,
      Passage.report?]
  | heading depth text | table header rows | rule | other kind => rfl

def Slide.extend (s : Slide) (ps : List Passage) : Slide :=
  { s with
    elements := s.elements ++ ps.flatMap Passage.elements
    notes := (ps.filterMap Passage.note?).getLast?.or s.notes }

theorem extend_cons (s : Slide) (p : Passage) (ps : List Passage) (ds : List String)
    (ns : List Notice) : s.extend (p :: ps) = (s.add ⟨p.elements, p.note?, ds, ns⟩).extend ps := by
  cases hn : p.note? with
  | none => simp [Slide.extend, Slide.add, hn]
  | some n => simp [Slide.extend, Slide.add, hn, List.getLast?_cons]

theorem extend_new (s : Segment) : Slide.extend { title := s.title } s.body = s.slide := by
  simp [Slide.extend, Segment.slide]

theorem overlong?_of_opens {p : Passage} (h : p.opens) : p.overlong? = none := by
  obtain ⟨title, rfl⟩ := (opens_iff p).mp h
  rfl

theorem report?_of_opens {p : Passage} (h : p.opens) : p.report? = none := by
  obtain ⟨title, rfl⟩ := (opens_iff p).mp h
  rfl

/-- The reports among passages up to the one at which building stops. -/
def reportsOf (ps : List Passage) : List String :=
  (ps.takeWhile (·.overlong?.isNone)).filterMap Passage.report?

theorem reportsOf_cons {p : Passage} (ps : List Passage) (h : p.overlong? = none) :
    reportsOf (p :: ps) = p.report?.toList ++ reportsOf ps := by
  cases hr : p.report? <;> simp [reportsOf, h, hr]

theorem reportsOf_eq {ps : List Passage} (h : ps.findSome? Passage.overlong? = none) :
    reportsOf ps = ps.filterMap Passage.report? := by
  rw [List.findSome?_eq_none_iff] at h
  have ht : ps.takeWhile (·.overlong?.isNone) = ps :=
    List.takeWhile_eq_self_iff.mpr fun p hp => by simp [h p hp]
  rw [reportsOf, ht]

theorem reportsOf_append {ps : List Passage} (qs : List Passage)
    (h : ps.findSome? Passage.overlong? = none) :
    reportsOf (ps ++ qs) = reportsOf ps ++ reportsOf qs := by
  rw [reportsOf_eq h]
  rw [List.findSome?_eq_none_iff] at h
  rw [reportsOf, List.takeWhile_append_of_pos fun p hp => by simp [h p hp], List.filterMap_append]
  rfl

theorem filterMap_report?_opened (ps : List Passage) :
    (opened ps).filterMap Passage.report? = (segments ps).flatMap Segment.reports := by
  rw [opened_eq, List.filterMap_flatMap]
  rfl

theorem buildFrom_cons (slide : Slide) {p : Passage} (ps : List Passage) (h : ¬p.opens) :
    buildFrom (some slide) (p :: ps) =
      match p.overlong? with
      | some n => ⟨.error n, [], []⟩
      | none =>
        let rest := buildFrom (some (slide.add
          ⟨p.elements, p.note?, p.report?.toList, p.report?.toList.map .badShape⟩)) ps
        { rest with
          diagnostics := p.report?.toList ++ rest.diagnostics
          notices := p.report?.toList.map .badShape ++ rest.notices } := by
  rw [buildFrom]
  · rw [contribution_eq]
    cases p.overlong? <;> rfl
  · intro title hp
    exact h ((opens_iff p).mpr ⟨title, hp⟩)

theorem buildFrom_some (slide : Slide) (ps : List Passage) :
    buildFrom (some slide) ps =
      ⟨match ps.findSome? Passage.overlong? with
        | some n => .error n
        | none => .ok (slide.extend (preamble ps) :: (segments ps).map Segment.slide),
       reportsOf ps, (reportsOf ps).map .badShape⟩ := by
  induction ps generalizing slide with
  | nil => simp [buildFrom, reportsOf, preamble, segments, Slide.extend]
  | cons p ps ih =>
    by_cases ho : p.opens
    · have hl := overlong?_of_opens ho
      have hr := report?_of_opens ho
      obtain ⟨title, rfl⟩ := (opens_iff p).mp ho
      have hp : preamble (.heading 1 title :: ps) = [] := rfl
      rw [buildFrom, ih, reportsOf_cons ps hl, hr, hp, segments, List.findSome?_cons, hl,
        List.map_cons, ← extend_new]
      cases ps.findSome? Passage.overlong? <;> simp [Except.map, Slide.extend]
    · rw [buildFrom_cons slide ps ho, List.findSome?_cons, preamble_cons ps ho, segments_cons ps ho]
      cases hl : p.overlong? with
      | some n => simp [reportsOf, hl]
      | none =>
        rw [ih, reportsOf_cons ps hl, List.map_append]
        rw [← extend_cons]

/-- What is built from passages, all told: nothing before the first opening heading counts, and an
overlong number stops the build. -/
theorem build_eq (ps : List Passage) :
    build ps =
      ⟨match (opened ps).findSome? Passage.overlong? with
        | some n => .error n
        | none => .ok ((segments ps).map Segment.slide),
       reportsOf (opened ps), (reportsOf (opened ps)).map .badShape⟩ := by
  induction ps with
  | nil => rfl
  | cons p ps ih =>
    by_cases ho : p.opens
    · have hl := overlong?_of_opens ho
      have hr := report?_of_opens ho
      have hp : opened (p :: ps) = p :: ps := by simp [opened, ho]
      rw [hp, reportsOf_cons ps hl, hr, List.findSome?_cons, hl]
      obtain ⟨title, rfl⟩ := (opens_iff p).mp ho
      rw [build, buildFrom, buildFrom_some, segments, List.map_cons, ← extend_new]
      cases ps.findSome? Passage.overlong? <;> simp [Except.map]
    · have hp : opened (p :: ps) = opened ps := by simp [opened, ho]
      rw [hp, segments_cons ps ho, ← ih, build, buildFrom, build]
      intro title he
      exact ho ((opens_iff p).mpr ⟨title, he⟩)

theorem build_slides_eq_ok {ps : List Passage} {slides : List Slide} :
    (build ps).slides = .ok slides ↔
      (opened ps).findSome? Passage.overlong? = none ∧
        slides = (segments ps).map Segment.slide := by
  rw [build_eq]
  cases (opened ps).findSome? Passage.overlong? with
  | some n => simp
  | none => simp [eq_comm]

theorem build_append_slides {q : Passage} (ps qs : List Passage) (h : q.opens) :
    (build (ps ++ q :: qs)).slides =
      (build ps).slides.bind fun slides => (build (q :: qs)).slides.map (slides ++ ·) := by
  rw [build_eq, build_eq, build_eq, opened_append ps qs h, segments_append ps qs h,
    List.findSome?_append, List.map_append]
  cases (opened ps).findSome? Passage.overlong? with
  | some n => rfl
  | none => cases (opened (q :: qs)).findSome? Passage.overlong? <;> rfl

theorem build_append_diagnostics {q : Passage} {ps : List Passage} {slides : List Slide}
    (qs : List Passage) (h : q.opens) (hps : (build ps).slides = .ok slides) :
    (build (ps ++ q :: qs)).diagnostics =
      (build ps).diagnostics ++ (build (q :: qs)).diagnostics := by
  rw [build_eq, build_eq, build_eq, opened_append ps qs h]
  exact reportsOf_append _ (build_slides_eq_ok.mp hps).1

/-- The slides are those of the segments, and the diagnostics their reports. So what is built from
a stream that goes on with an opening heading is built from its two parts one after the other. -/
theorem build_segments (ps : List Passage) :
    (preamble ps ++ (segments ps).flatMap Segment.passages = ps ∧
      (∀ p ∈ preamble ps, ¬p.opens) ∧ ∀ s ∈ segments ps, ∀ p ∈ s.body, ¬p.opens) ∧
    (∀ slides, (build ps).slides = .ok slides →
      slides = (segments ps).map Segment.slide ∧
        (build ps).diagnostics = (segments ps).flatMap Segment.reports) ∧
    ∀ q qs, q.opens →
      (build (ps ++ q :: qs)).slides =
        (build ps).slides.bind (fun slides => (build (q :: qs)).slides.map (slides ++ ·)) ∧
      ∀ slides, (build ps).slides = .ok slides →
        (build (ps ++ q :: qs)).diagnostics =
          (build ps).diagnostics ++ (build (q :: qs)).diagnostics := by
  refine ⟨⟨preamble_append_segments ps, fun p hp => not_opens_of_mem_preamble hp,
    fun s hs => not_opens_of_mem_body hs⟩, ?_, ?_⟩
  · intro slides h
    obtain ⟨hn, hs⟩ := build_slides_eq_ok.mp h
    refine ⟨hs, ?_⟩
    rw [← filterMap_report?_opened, ← reportsOf_eq hn, build_eq]
  · intro q qs hq
    exact ⟨build_append_slides ps qs hq, fun slides h => build_append_diagnostics qs hq h⟩

/-- What stands before the first slide is lost, and of two notes the last one counts. -/
def twoSlides : List Passage :=
  [.paragraph "lost" [.text "lost"], .heading 1 "A", .paragraph "> Note: first" [],
    .paragraph "!shape[blob](1)" [], .paragraph "x" [.text "x"], .rule, .heading 2 "sub",
    .paragraph "> Note: last" [], .heading 1 "B"]

theorem build_segments_twoSlides :
    (build twoSlides).slides =
      .ok [⟨"A", [.textBlock [⟨"x", {}⟩], .columnBreak], some "last"⟩, ⟨"B", [], none⟩] ∧
    [⟨"A", [.textBlock [⟨"x", {}⟩], .columnBreak], some "last"⟩, ⟨"B", [], none⟩] =
      (segments twoSlides).map Segment.slide ∧
    (build twoSlides).diagnostics = ["Invalid shape name: blob in '!shape[blob](1)'"] ∧
    (build (twoSlides ++ [.heading 1 "C"])).diagnostics =
      (build twoSlides).diagnostics ++ (build [.heading 1 "C"]).diagnostics :=
  have h : (build twoSlides).slides =
      .ok [⟨"A", [.textBlock [⟨"x", {}⟩], .columnBreak], some "last"⟩, ⟨"B", [], none⟩] := rfl
  ⟨h, ((build_segments twoSlides).2.1 _ h).1, rfl,
    ((build_segments twoSlides).2.2 (.heading 1 "C") [] rfl).2 _ h⟩

/-- A slide with a single shape. -/
theorem build_shape (title : String) {text name options : String} {shape : Shape}
    (phrases : List Phrase) (hform : formOf text = .shape name options)
    (hparse : parseShape name options = .ok (.ok shape)) :
    (build [.heading 1 title, .paragraph text phrases]).slides =
      .ok [⟨title, [.shape shape], none⟩] := by
  rw [build, buildFrom, buildFrom, contribution, paragraphContribution, hform]
  · dsimp only
    rw [hparse]
    rfl
  · rintro title ⟨⟩

end SlideDeck.Deck
