import SlideDeck.Proofs.Deck.BadShapes

/-!
Shapes on a line of their own. A shape that can be read adds itself to the open slide and nothing
else, unless its options hold a `](`, at which they are cut off.
-/

namespace SlideDeck.Deck

/-- The slides with one more element on one of them. -/
def insertElement (e : Element) (slide place : Nat) (slides : List Slide) : List Slide :=
  slides.modify slide fun s => { s with elements := s.elements.insertIdx place e }

/-- Wherever a slide is open, the passage puts an element behind those that the slide has so far.
All else that is built, kept and told is as without the passage. -/
def Passage.Adds (p : Passage) (e : Element) : Prop :=
  ∀ before after done s, (build before).slides = .ok (done ++ [s]) →
    build (before ++ p :: after) =
      { build (before ++ after) with
        slides := (build (before ++ after)).slides.map
          (insertElement e done.length s.elements.length) }

/-- Passages without an opening heading leave open what follows. -/
theorem preamble_segments_append {ps : List Passage} (h : segments ps = []) (qs : List Passage) :
    preamble (ps ++ qs) = ps ++ preamble qs ∧ segments (ps ++ qs) = segments qs := by
  induction ps with
  | nil => exact ⟨rfl, rfl⟩
  | cons p ps ih =>
    by_cases ho : p.opens
    · obtain ⟨title, rfl⟩ := (opens_iff p).mp ho
      rw [segments] at h
      cases h
    · obtain ⟨hpre, hseg⟩ := ih (segments_cons ps ho ▸ h)
      exact ⟨by rw [List.cons_append, preamble_cons _ ho, hpre, List.cons_append],
        by rw [List.cons_append, segments_cons _ ho, hseg]⟩

theorem preamble_append_of_ne_nil {ps : List Passage} (h : segments ps ≠ []) (qs : List Passage) :
    preamble (ps ++ qs) = preamble ps := by
  induction ps with
  | nil => exact absurd rfl h
  | cons p ps ih =>
    by_cases ho : p.opens
    · simp [preamble, ho]
    · rw [segments_cons ps ho] at h
      rw [List.cons_append, preamble_cons _ ho, preamble_cons _ ho, ih h]

/-- What follows goes to the last segment up to the next opening heading. -/
theorem segments_append_of_eq {ps : List Passage} {init : List Segment} {seg : Segment}
    (h : segments ps = init ++ [seg]) (qs : List Passage) :
    segments (ps ++ qs) = init ++ ⟨seg.title, seg.body ++ preamble qs⟩ :: segments qs := by
  induction ps generalizing init with
  | nil => cases init <;> cases h
  | cons p ps ih =>
    by_cases ho : p.opens
    · obtain ⟨title, rfl⟩ := (opens_iff p).mp ho
      rw [segments] at h
      rw [List.cons_append, segments]
      cases init with
      | nil =>
        obtain ⟨rfl, hnil⟩ := List.cons.inj h
        have hps := preamble_append_segments ps
        rw [hnil, List.flatMap_nil, List.append_nil] at hps
        obtain ⟨hpre, hseg⟩ := preamble_segments_append hnil qs
        rw [hpre, hseg, hps, List.nil_append]
      | cons first init =>
        obtain ⟨rfl, hrest⟩ := List.cons.inj h
        have hne : segments ps ≠ [] := by simp [hrest]
        rw [preamble_append_of_ne_nil hne, ih hrest, List.cons_append]
    · rw [segments_cons ps ho] at h
      rw [List.cons_append, segments_cons _ ho, ih h]

theorem insertIdx_length_append {α : Type} (xs ys : List α) (x : α) :
    (xs ++ ys).insertIdx xs.length x = xs ++ x :: ys := by
  induction xs with
  | nil => rfl
  | cons y xs ih => rw [List.cons_append, List.length_cons, List.insertIdx_succ_cons, ih]; rfl

theorem insertElement_append (e : Element) (done : List Slide) (s : Slide) (later : List Element)
    (notes : Option String) (rest : List Slide) :
    insertElement e done.length s.elements.length
        (done ++ ⟨s.title, s.elements ++ later, notes⟩ :: rest) =
      done ++ ⟨s.title, s.elements ++ e :: later, notes⟩ :: rest := by
  induction done with
  | nil =>
    simp [insertElement, insertIdx_length_append]
  | cons d done ih =>
    simpa [insertElement] using ih

theorem slides_insert_element {p : Passage} {e : Element} {before : List Passage}
    {done : List Slide} {s : Slide} (after : List Passage) (ho : ¬p.opens) (he : p.elements = [e])
    (hn : p.note? = none) (hs : (segments before).map Segment.slide = done ++ [s]) :
    (segments (before ++ p :: after)).map Segment.slide =
      insertElement e done.length s.elements.length
        ((segments (before ++ after)).map Segment.slide) := by
  obtain ⟨init, last, hseg, rfl, hlast⟩ := List.map_eq_append_iff.mp hs
  obtain ⟨seg, rfl, rfl⟩ := List.map_eq_singleton_iff.mp hlast
  have hslide (later : List Passage) : Segment.slide ⟨seg.title, seg.body ++ later⟩ =
      ⟨seg.slide.title, seg.slide.elements ++ later.flatMap Passage.elements,
        ((seg.body ++ later).filterMap Passage.note?).getLast?⟩ := by
    simp [Segment.slide]
  rw [segments_append_of_eq hseg, segments_append_of_eq hseg, preamble_cons after ho,
    segments_cons after ho, List.map_append, List.map_append, List.map_cons, List.map_cons, hslide,
    hslide, insertElement_append, List.flatMap_cons, he]
  simp [hn]

theorem opened_ne_nil {ps : List Passage} (h : segments ps ≠ []) : opened ps ≠ [] := by
  obtain ⟨seg, segs, hseg⟩ := List.exists_cons_of_ne_nil h
  rw [opened_eq, hseg, List.flatMap_cons, Segment.passages]
  exact List.cons_ne_nil _ _

theorem adds_of_elements {p : Passage} {e : Element} (ho : ¬p.opens) (hl : p.overlong? = none)
    (hr : p.report? = none) (hn : p.note? = none) (he : p.elements = [e]) : p.Adds e := by
  intro before after done s hs
  obtain ⟨hf, hslides⟩ := build_slides_eq_ok.mp hs
  have hopen : opened before ≠ [] := opened_ne_nil fun h => by simp [h] at hslides
  rw [build_eq, build_eq, opened_append_of_ne_nil _ hopen, opened_append_of_ne_nil _ hopen,
    reportsOf_append _ hf, reportsOf_append _ hf, reportsOf_cons after hl, hr,
    slides_insert_element after ho he hn hslides.symm, List.findSome?_append, List.findSome?_append,
    List.findSome?_cons, hl]
  cases (opened before).findSome? Passage.overlong? with
  | some n => rfl
  | none => cases after.findSome? Passage.overlong? <;> rfl

/-- What has to be reported adds nothing. -/
theorem not_adds_of_report {p : Passage} {r : String} (h : p.report? = some r) (e : Element) :
    ¬p.Adds e := by
  intro hadds
  obtain ⟨later, hwithout, hwith⟩ :=
    (build_insert_report [.heading 1 ""] [] h).2 [{ title := "" }] rfl (List.cons_ne_nil _ _)
  rw [hadds [.heading 1 ""] [] [] { title := "" } rfl] at hwith
  have hlen := congrArg List.length (hwithout.symm.trans hwith)
  simp at hlen

theorem isLower_of_shapeKind? {name : String} {kind : ShapeKind} (h : shapeKind? name = some kind) :
    name.toList.all Char.isLower := by
  unfold shapeKind? at h
  split at h
  · rfl
  · rfl
  · rfl
  · rfl
  · rfl
  · cases h

/-- No shape has a `](` in its name. -/
theorem shapeKind?_mark (name rest : String) : shapeKind? (name ++ "](" ++ rest) = none := by
  cases h : shapeKind? (name ++ "](" ++ rest) with
  | none => rfl
  | some kind =>
    have hlower := List.all_eq_true.mp (isLower_of_shapeKind? h) ']' (by simp)
    exact absurd hlower (by decide)

theorem exists_of_parseShape {name options : String} {shape : Shape}
    (h : parseShape name options = .ok (.ok shape)) : ∃ kind, shapeKind? name = some kind := by
  cases hk : shapeKind? name with
  | some kind => exact ⟨kind, rfl⟩
  | none =>
    rw [parseShape, hk] at h
    cases h

theorem formOf_writtenShape_of_parseShape {front back name options : String} {shape : Shape}
    (hfront : front.toList.all Text.isBlank) (hback : back.toList.all Text.isBlank)
    (hoptions : '\n' ∉ options.toList) (hshape : parseShape name options = .ok (.ok shape)) :
    formOf (front ++ "!shape[" ++ name ++ "](" ++ options ++ ")" ++ back) =
      match splitAtLast? options.toList with
      | some (a, b) => .shape (name ++ "](" ++ String.ofList a) (String.ofList b)
      | none => .shape name options := by
  obtain ⟨kind, hkind⟩ := exists_of_parseShape hshape
  have hlower := List.all_eq_true.mp (isLower_of_shapeKind? hkind)
  exact formOf_writtenShape name options hfront hback
    (fun h => absurd (hlower _ h) (by decide)) hoptions

/-- A shape as it is written, with white space around it. -/
def shapeText (front name options back : String) : String :=
  front ++ "!shape[" ++ name ++ "](" ++ options ++ ")" ++ back

theorem adds_of_not_mark {front back name options : String} {shape : Shape}
    (phrases : List Phrase) (hfront : front.toList.all Text.isBlank)
    (hback : back.toList.all Text.isBlank) (hoptions : '\n' ∉ options.toList)
    (hshape : parseShape name options = .ok (.ok shape))
    (hmark : ¬optionsMark <:+: options.toList) :
    (Passage.paragraph (shapeText front name options back) phrases).Adds (.shape shape) := by
  have hf : formOf (shapeText front name options back) = .shape name options := by
    rw [shapeText, formOf_writtenShape_of_parseShape hfront hback hoptions hshape,
      splitAtLast?_eq_none hmark]
  apply adds_of_elements
  · exact Bool.false_ne_true
  · simp [Passage.overlong?, Passage.shape?, hf, hshape]
  · simp [Passage.report?, Passage.shape?, hf, hshape]
  · simp [Passage.note?, hf]
  · simp [Passage.elements, hf, hshape]

/-- The part of the options up to the mark is taken for a part of the name. -/
theorem report_of_mark {front back name options : String} {shape : Shape}
    (phrases : List Phrase) (hfront : front.toList.all Text.isBlank)
    (hback : back.toList.all Text.isBlank) (hoptions : '\n' ∉ options.toList)
    (hshape : parseShape name options = .ok (.ok shape)) (hmark : optionsMark <:+: options.toList) :
    ∃ unread, (Passage.paragraph (shapeText front name options back) phrases).report? =
      some (shapeReport (.unknownName (name ++ "](" ++ unread))
        (shapeText front name options back)) := by
  obtain ⟨a, b, hab⟩ := hmark
  obtain ⟨⟨a', b'⟩, hsplit⟩ : ∃ parts, splitAtLast? options.toList = some parts := by
    rw [← hab, splitAtLast?_append]
    cases splitAtLast? b with
    | some parts => exact ⟨_, rfl⟩
    | none => exact ⟨_, rfl⟩
  have hf : formOf (shapeText front name options back) =
      .shape (name ++ "](" ++ String.ofList a') (String.ofList b') := by
    rw [shapeText, formOf_writtenShape_of_parseShape hfront hback hoptions hshape, hsplit]
  have hread : parseShape (name ++ "](" ++ String.ofList a') (String.ofList b') =
      .ok (.error (.unknownName (name ++ "](" ++ String.ofList a'))) := by
    rw [parseShape, shapeKind?_mark]
  exact ⟨String.ofList a', by simp [Passage.report?, Passage.shape?, hf, hread]⟩

/-- A shape that is written with options that can be read adds itself and nothing else exactly if
the options hold no `](`. Otherwise it is reported as one of an unknown name and adds nothing. -/
theorem adds_shape_iff {front back name options : String} {shape : Shape} (phrases : List Phrase)
    (hfront : front.toList.all Text.isBlank) (hback : back.toList.all Text.isBlank)
    (hoptions : '\n' ∉ options.toList) (hshape : parseShape name options = .ok (.ok shape)) :
    ((Passage.paragraph (shapeText front name options back) phrases).Adds (.shape shape) ↔
      ¬optionsMark <:+: options.toList) ∧
    (optionsMark <:+: options.toList →
      (Passage.paragraph (shapeText front name options back) phrases).elements = [] ∧
      ∃ unread, (Passage.paragraph (shapeText front name options back) phrases).report? =
        some (shapeReport (.unknownName (name ++ "](" ++ unread))
          (shapeText front name options back))) := by
  refine ⟨⟨fun hadds hmark => ?_, adds_of_not_mark phrases hfront hback hoptions hshape⟩,
    fun hmark => ?_⟩
  · obtain ⟨unread, hreport⟩ := report_of_mark phrases hfront hback hoptions hshape hmark
    exact not_adds_of_report hreport _ hadds
  · obtain ⟨unread, hreport⟩ := report_of_mark phrases hfront hback hoptions hshape hmark
    exact ⟨(elements_of_report hreport).2.2.1, unread, hreport⟩

/-- A bracket and a parenthesis that do not meet. -/
def apartOptions : String := "\x7b\"text\": \"a] (b)\"\x7d"

theorem adds_shape_iff_apartOptions :
    parseShape "oval" apartOptions = .ok (.ok ⟨.oval, [("text", .string "a] (b)")]⟩) ∧
    (Passage.paragraph (shapeText " " "oval" apartOptions "\t") []).Adds
      (.shape ⟨.oval, [("text", .string "a] (b)")]⟩) := by
  have hshape : parseShape "oval" apartOptions =
      .ok (.ok ⟨.oval, [("text", .string "a] (b)")]⟩) := by cbv
  have hblank : " ".toList.all Text.isBlank ∧ "\t".toList.all Text.isBlank := by decide
  exact ⟨hshape, (adds_shape_iff [] hblank.1 hblank.2 (by decide) hshape).1.mpr (by decide)⟩

/-- A bracket and a parenthesis that meet. -/
def markedOptions : String := "\x7b\"text\": \"a](b\"\x7d"

theorem not_forall_shape_adds :
    ¬∀ front back name options shape phrases, front.toList.all Text.isBlank →
      back.toList.all Text.isBlank → '\n' ∉ options.toList →
      parseShape name options = .ok (.ok shape) →
      (Passage.paragraph (shapeText front name options back) phrases).Adds (.shape shape) := by
  intro h
  have hshape : parseShape "rect" markedOptions =
      .ok (.ok ⟨.rectangle, [("text", .string "a](b")]⟩) := by cbv
  have hline : '\n' ∉ markedOptions.toList := by decide
  have hempty : "".toList.all Text.isBlank := rfl
  obtain ⟨unread, hreport⟩ := report_of_mark [] hempty hempty hline hshape (by decide)
  exact not_adds_of_report hreport _ (h "" "" _ _ _ [] hempty hempty hline hshape)

end SlideDeck.Deck
