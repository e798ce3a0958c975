import SlideDeck.Proofs.Conversion
import SlideDeck.Proofs.Layout.Answered
import SlideDeck.Proofs.Uploads

/-!
What the service answers. A request with a text is answered unless the text has no plan; and its
outline, unless the plan has a number that is not finite, or a surrogate in a text.
-/

namespace SlideDeck.Service

open Deck Layout Drawing Files Json

theorem outline_of_error {text : String} (h : text ≠ "") {e : PlanError}
    (hplan : (planDeck text).result = .error e) : outline (some text) = .error (.plan e) := by
  rw [outline, Option.filter_some, if_pos (decide_eq_true h)]
  dsimp only
  rw [hplan]

theorem outline_of_ok {text : String} (h : text ≠ "") {placed : List (PlacedSlide Float)}
    (hplan : (planDeck text).result = .ok placed) (r : Response) :
    outline (some text) = .ok r ↔
      CanBeSent (outlineValue (placed.map answeredSlide)
        ((planDeck text).notices.map Notice.text)) ∧
      r = .outline ((planDeck text).notices.map Notice.text) (placed.map answeredSlide) := by
  rw [outline, Option.filter_some, if_pos (decide_eq_true h)]
  dsimp only
  rw [hplan]
  dsimp only
  rw [CanBeSent]
  cases hfinite : isFinite (outlineValue (placed.map answeredSlide)
      ((planDeck text).notices.map Notice.text)) with
  | false => exact iff_of_false (by rintro ⟨⟩) (by rintro ⟨⟨⟨⟩, -⟩, -⟩)
  | true =>
    cases hfault : (write (outlineValue (placed.map answeredSlide)
        ((planDeck text).notices.map Notice.text))).fault? with
    | some f => exact iff_of_false (by rintro ⟨⟩) (by rintro ⟨⟨-, ⟨⟩⟩, -⟩)
    | none =>
      constructor
      · rintro ⟨⟩
        exact ⟨⟨rfl, rfl⟩, rfl⟩
      · rintro ⟨-, rfl⟩
        rfl

/-- A text has an outline if its shapes can be read and all slides of its plan can be answered. -/
theorem outline_eq_ok_iff {text : String} (h : text ≠ "") (r : Response) :
    outline (some text) = .ok r ↔ (∀ p ∈ opened (passages text), ¬p.IsOverlong) ∧
      ∃ placed, placeDeck (slidesOf text) = .ok placed ∧
        (∀ s ∈ placed, ∀ q ∈ s.elements, q.box.IsFinite ∧ HasPresentableOptions q.element) ∧
        r = .outline (reportsIn text) (placed.map answeredSlide) := by
  cases hplan : (planDeck text).result with
  | error e =>
    rw [outline_of_error h hplan]
    refine iff_of_false (by rintro ⟨⟩) ?_
    rintro ⟨hread, placed, hplaced, -⟩
    cases hplan.symm.trans ((planDeck_eq_ok_iff text placed).mpr ⟨hread, hplaced⟩)
  | ok placed =>
    obtain ⟨hread, hplaced⟩ := (planDeck_eq_ok_iff text placed).mp hplan
    rw [outline_of_ok h hplan, and_iff_right hread, hplaced, canBeSent_outlineValue_iff,
      notices_planDeck hread]
    simp only [Except.ok.injEq, exists_eq_left']

/-- From the first slide on, no shape has an overlong number among its options, and what the columns
come to has sizes in range, and options that can be answered. -/
structure HasOutline (text : String) : Prop where
  readable : ∀ p ∈ opened (passages text), ¬p.IsOverlong
  presentable : ∀ s ∈ slidesOf text, ∀ e, Reaches s e → InRange e ∧ HasPresentableOptions e

theorem outline_returns_iff {text : String} (h : text ≠ "") :
    (∃ r, outline (some text) = .ok r) ↔ HasOutline text := by
  simp only [outline_eq_ok_iff h]
  constructor
  · rintro ⟨r, hread, placed, hplaced, hpresentable, -⟩
    have hbox := (exists_placeDeck_iff _).mp
      ⟨placed, hplaced, fun s hs q hq => (hpresentable s hs q hq).1⟩
    have hoptions := (forall_placed_iff hplaced HasPresentableOptions).mp
      fun s hs q hq => (hpresentable s hs q hq).2
    exact ⟨hread, fun s hs e he => ⟨hbox s hs e he, hoptions s hs e he⟩⟩
  · rintro ⟨hread, hpresentable⟩
    obtain ⟨placed, hplaced, hbox⟩ :=
      (exists_placeDeck_iff _).mpr fun s hs e he => (hpresentable s hs e he).1
    have hoptions := (forall_placed_iff hplaced HasPresentableOptions).mpr
      fun s hs e he => (hpresentable s hs e he).2
    exact ⟨_, hread, placed, hplaced, fun s hs q hq => ⟨hbox s hs q hq, hoptions s hs q hq⟩, rfl⟩

/-- What is answered once a deck was made, or could not be made. -/
def made : Except DrawError Presentation → Response
  | .ok p => .deck p
  | .error e => .refused 500 (some ("Failed to build PowerPoint: " ++ e.message))

section

variable {reader : PictureReader} {files : FileTree Package} {limit : Float} {text : String}
  {upload : Option Upload}

theorem generate_of_refusal (h : text ≠ "") {u : Upload} (hu : sent? upload = some u)
    {refusal : Response} (hr : uploadRefusal? limit u = some refusal) :
    generate reader files limit (some text) upload = .ok refusal := by
  rw [sent?] at hu
  rw [generate, Option.filter_some, if_pos (decide_eq_true h)]
  dsimp only
  rw [hu, Option.bind_some, hr]

theorem generate_of_error (h : text ≠ "") (hu : IsAccepted limit (sent? upload)) {e : PlanError}
    (hplan : (planDeck text).result = .error e) :
    generate reader files limit (some text) upload = .error (.plan e) := by
  have hr := refusal_of_accepted hu
  rw [sent?] at hr
  rw [generate, Option.filter_some, if_pos (decide_eq_true h)]
  dsimp only
  rw [hr]
  dsimp only
  rw [hplan]

theorem generate_of_ok (h : text ≠ "") (hu : IsAccepted limit (sent? upload))
    {placed : List (PlacedSlide Float)} (hplan : (planDeck text).result = .ok placed) :
    generate reader files limit (some text) upload = .ok (made
      (drawDeck ⟨files, none, reader⟩ ((sent? upload).map Upload.package) placed).result) := by
  have hr := refusal_of_accepted hu
  rw [sent?] at hr ⊢
  rw [generate, Option.filter_some, if_pos (decide_eq_true h)]
  dsimp only
  rw [hr]
  dsimp only
  rw [hplan]
  dsimp only
  cases (drawDeck ⟨files, none, reader⟩ ((upload.filter fun u => u.name ≠ "").map Upload.package)
    placed).result <;> rfl

/-- With a usable template or none, a request is answered if and only if its text has a plan. -/
theorem generate_returns_iff (h : text ≠ "") (hu : IsAccepted limit (sent? upload)) :
    (∃ r, generate reader files limit (some text) upload = .ok r) ↔ HasPlan text := by
  rw [← exists_planDeck_iff]
  cases hplan : (planDeck text).result with
  | error e =>
    rw [generate_of_error h hu hplan]
    exact iff_of_false (by rintro ⟨r, ⟨⟩⟩) (by rintro ⟨r, ⟨⟩⟩)
  | ok placed => exact iff_of_true ⟨_, generate_of_ok h hu hplan⟩ ⟨placed, rfl⟩

end

/-- A request without a text is refused. Otherwise the outline of the text is that of its plan, if
the plan can be answered, and all of it but for members that are left out; and its deck is refused
for the name of the template, then for the size of the template, then for a fault of its making, and
is sent if nothing is wrong. What goes unanswered is a text without a plan, and the outline of one
whose plan has a number that is not finite or a text with a surrogate. -/
theorem service_answers (text : String) :
    (text = "" → outline (some text) = .ok (.refused 422 none) ∧
      ∀ reader files limit upload,
        generate reader files limit (some text) upload = .ok (.refused 422 none)) ∧
    (text ≠ "" →
      ((∃ r, outline (some text) = .ok r) ↔ HasOutline text) ∧
      (∀ r, outline (some text) = .ok r → ∃ placed, (planDeck text).result = .ok placed ∧
        (planDeck text).notices.map Notice.text = reportsIn text ∧
        r = .outline (reportsIn text) (placed.map answeredSlide) ∧
        ((∀ s ∈ placed, ∀ q ∈ s.elements, KeepsOptions q.element) →
          r = .outline (reportsIn text) placed)) ∧
      ∀ reader files limit upload,
        (∀ u, sent? upload = some u → ¬HasAllowedName u →
          ∃ detail, generate reader files limit (some text) upload =
            .ok (.refused 400 (some detail))) ∧
        (∀ u, sent? upload = some u → HasAllowedName u → IsTooLarge limit u →
          ∃ detail, generate reader files limit (some text) upload =
            .ok (.refused 413 (some detail))) ∧
        (IsAccepted limit (sent? upload) →
          ((∃ r, generate reader files limit (some text) upload = .ok r) ↔ HasPlan text) ∧
          ∀ placed, (planDeck text).result = .ok placed →
            let drawn := drawDeck ⟨files, none, reader⟩ ((sent? upload).map Upload.package) placed
            (∀ p, drawn.result = .ok p →
              generate reader files limit (some text) upload = .ok (.deck p)) ∧
            ∀ e, drawn.result = .error e →
              generate reader files limit (some text) upload =
                .ok (.refused 500 (some ("Failed to build PowerPoint: " ++ e.message))))) := by
  constructor
  · rintro rfl
    have hempty : (some "").filter (fun t => decide (t ≠ "")) = none := rfl
    constructor
    · rw [outline, hempty, noText]
    · intro reader files limit upload
      rw [generate, hempty, noText]
  · intro h
    refine ⟨outline_returns_iff h, fun r hr => ?_, fun reader files limit upload => ⟨?_, ?_, ?_⟩⟩
    · obtain ⟨hread, placed, hplaced, -, rfl⟩ := (outline_eq_ok_iff h r).mp hr
      refine ⟨placed, (planDeck_eq_ok_iff text placed).mpr ⟨hread, hplaced⟩,
        notices_planDeck hread, rfl, fun hkept => ?_⟩
      have hsame : placed.map answeredSlide = placed :=
        (List.map_congr_left fun s hs => answeredSlide_eq_self (hkept s hs)).trans
          (List.map_id placed)
      rw [hsame]
    · intro u hu hname
      obtain ⟨detail, hdetail⟩ := (uploadRefusal?_spec limit u).1 hname
      exact ⟨detail, generate_of_refusal h hu hdetail⟩
    · intro u hu hname hlarge
      obtain ⟨detail, hdetail⟩ := (uploadRefusal?_spec limit u).2.1 hname hlarge
      exact ⟨detail, generate_of_refusal h hu hdetail⟩
    · intro hu
      refine ⟨generate_returns_iff h hu, fun placed hplan => ⟨fun p hp => ?_, fun e he => ?_⟩⟩
      · rw [generate_of_ok h hu hplan, hp, made]
      · rw [generate_of_ok h hu hplan, he, made]

def shortSource : String := "# T\n\nhi"

theorem passages_shortSource :
    passages shortSource = [.heading 1 "T", .paragraph "hi" [.text "hi"]] := by
  cbv

theorem slidesOf_shortSource : slidesOf shortSource = [⟨"T", [.textBlock [⟨"hi", {}⟩]], none⟩] := by
  rw [slidesOf, passages_shortSource]
  rfl

theorem hasOutline_shortSource : HasOutline shortSource where
  readable := by
    rw [← overlong_eq_none_iff, passages_shortSource]
    rfl
  presentable := by
    rw [slidesOf_shortSource, List.forall_mem_singleton]
    intro e he
    obtain rfl := List.mem_singleton.mp (mem_of_reaches he)
    exact ⟨trivial, by rintro s ⟨⟩⟩

def misnamedUpload : Upload := ⟨"a.txt", 3, .octets []⟩

def largeUpload : Upload := ⟨"a.POTX", 1048577, .octets []⟩

theorem service_answers_shortSource :
    (∃ placed, outline (some shortSource) = .ok (.outline [] placed)) ∧
    (∃ detail, generate PictureFormat.verdict {} 1.0 (some shortSource) (some misnamedUpload) =
      .ok (.refused 400 (some detail))) ∧
    (∃ detail, generate PictureFormat.verdict {} 1.0 (some shortSource) (some largeUpload) =
      .ok (.refused 413 (some detail))) ∧
    ∃ r, generate PictureFormat.verdict {} 1.0 (some shortSource) none = .ok r := by
  obtain ⟨houtline, hanswer, hgenerate⟩ := (service_answers shortSource).2 (by decide)
  obtain ⟨r, hr⟩ := houtline.mpr hasOutline_shortSource
  obtain ⟨placed, hplan, -, rfl, -⟩ := hanswer r hr
  have hreports : reportsIn shortSource = [] := by
    rw [reportsIn, passages_shortSource]
    rfl
  have hname : ¬HasAllowedName misnamedUpload := by
    have hsuffix : suffix (Text.lower misnamedUpload.name.toList) = ['.', 't', 'x', 't'] := by
      decide +kernel
    rw [← suffix_mem_iff, hsuffix]
    decide
  have hallowed : HasAllowedName largeUpload :=
    ⟨".potx", List.mem_cons_self, [], 'a', 0, by decide +kernel, by decide, by decide⟩
  have hlarge : IsTooLarge 1.0 largeUpload := by
    unfold IsTooLarge
    decide +kernel
  have haccepted : IsAccepted 1.0 (sent? none) := by rintro u ⟨⟩
  refine ⟨⟨_, by rw [hr, hreports]⟩, ?_, ?_, ?_⟩
  · exact (hgenerate PictureFormat.verdict {} 1.0 (some misnamedUpload)).1 misnamedUpload rfl hname
  · exact (hgenerate PictureFormat.verdict {} 1.0 (some largeUpload)).2.1 largeUpload rfl hallowed
      hlarge
  · have hasPlan : HasPlan shortSource := (exists_planDeck_iff _).mp ⟨placed, hplan⟩
    exact ((hgenerate PictureFormat.verdict {} 1.0 none).2.2 haccepted).1.mpr hasPlan

/-- A shape with an option that is no number. -/
def strangeSource : String := "# T\n\n!shape[rect](\x7b\"x\": NaN\x7d)"

def strangeOptions : String := "\x7b\"x\": NaN\x7d"

def strangeShape : Shape := ⟨.rectangle, [("x", .float (0 / 0))]⟩

theorem parse_strangeOptions :
    Json.parse strangeOptions.toList = .ok (.object strangeShape.options) := by
  have h : strangeOptions.toList =
      ['\x7b', '"', 'x', '"', ':', ' ', 'N', 'a', 'N', '\x7d'] := by
    decide +kernel
  rw [h]
  rfl

theorem slides_strangeSource :
    ∃ title, slidesOf strangeSource = [⟨title, [.shape strangeShape], none⟩] := by
  have hblocks : (Markdown.Document.parse strangeSource).blocks =
      [.heading 1 "T", .paragraph "!shape[rect](\x7b\"x\": NaN\x7d)"] := by cbv
  have hform : formOf "!shape[rect](\x7b\"x\": NaN\x7d)" = .shape "rect" strangeOptions := by
    decide +kernel
  have hparse : parseShape "rect" strangeOptions = .ok (.ok strangeShape) := by
    rw [parseShape, parse_strangeOptions]
    rfl
  obtain ⟨title, phrases, hpassages⟩ : ∃ title phrases, passages strangeSource =
      [.heading 1 title, .paragraph "!shape[rect](\x7b\"x\": NaN\x7d)" phrases] := by
    rw [passages, hblocks, List.map_cons, List.map_cons, List.map_nil, passage, passage]
    exact ⟨_, _, rfl⟩
  rw [slidesOf, hpassages]
  exact ⟨title, (build_slides_eq_ok.mp (build_shape title phrases hform hparse)).2.symm⟩

/-- An option that nothing reads can leave an outline unanswered. -/
theorem not_forall_outline :
    ¬∀ text, text ≠ "" → ∃ diagnostics placed,
      outline (some text) = .ok (.outline diagnostics placed) := by
  intro h
  have hne : strangeSource ≠ "" := by decide
  obtain ⟨diagnostics, placed, hr⟩ := h strangeSource hne
  obtain ⟨-, hfinite⟩ := (outline_returns_iff hne).mp ⟨_, hr⟩
  obtain ⟨title, hslides⟩ := slides_strangeSource
  rw [hslides, List.forall_mem_singleton] at hfinite
  obtain ⟨-, hoptions⟩ := hfinite _ ⟨_, List.mem_cons_self, .here (by decide +kernel)⟩
  have hnan : ¬(0 / 0 : Float).isFinite := by decide +kernel
  have hkey : ¬IsLeftOut "x" := by
    unfold IsLeftOut
    decide
  exact hnan (hoptions _ rfl _ (.member List.mem_cons_self hkey .whole))

end SlideDeck.Service
