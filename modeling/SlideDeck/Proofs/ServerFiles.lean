import SlideDeck.Proofs.Drawing.PictureFiles
import SlideDeck.Proofs.Service

/-!
What a request learns of the files of the server: the pictures that stand at the addresses of its
own, and what ends the drawing there. Nothing else makes a difference to the answer.
-/

namespace SlideDeck.Service

open Deck Layout Drawing Files

/-- A picture that the plan of a text has on one of its slides. -/
def Places (text : String) (pic : Picture) : Prop :=
  ∃ placed, (planDeck text).result = .ok placed ∧
    ∃ s ∈ placed, ∃ q ∈ s.elements, q.element = .picture pic

section

variable {reader : PictureReader} {files files' : FileTree Package} {limit : Float} {text : String}
  {upload : Option Upload}

/-- The gallery of the service: pictures are looked up in its working directory. -/
def gallery (reader : PictureReader) (files : FileTree Package) : Gallery := ⟨files, none, reader⟩

/-- A file is accepted or refused. -/
theorem isAccepted_or_exists_refusal (limit : Float) (upload : Option Upload) :
    IsAccepted limit upload ∨ ∃ u status detail, upload = some u ∧
      uploadRefusal? limit u = some (.refused status (some detail)) := by
  cases upload with
  | none => exact Or.inl (by rintro u ⟨⟩)
  | some u =>
    obtain ⟨hname, hsize, -⟩ := uploadRefusal?_spec limit u
    by_cases hallowed : HasAllowedName u
    · by_cases hlarge : IsTooLarge limit u
      · obtain ⟨detail, hrefusal⟩ := hsize hallowed hlarge
        exact Or.inr ⟨u, _, detail, rfl, hrefusal⟩
      · exact Or.inl (by rintro _ ⟨⟩; exact ⟨hallowed, hlarge⟩)
    · obtain ⟨detail, hrefusal⟩ := hname hallowed
      exact Or.inr ⟨u, _, detail, rfl, hrefusal⟩

/-- The answer is the same whatever files there are, and no deck, unless a plan of the text is
drawn. -/
theorem generate_cases (reader : PictureReader) (limit : Float) (text : String)
    (upload : Option Upload) :
    (∃ r, (∀ p, r ≠ .ok (.deck p)) ∧
      ∀ files, generate reader files limit (some text) upload = r) ∨
    ∃ placed template, (planDeck text).result = .ok placed ∧
      ∀ files, generate reader files limit (some text) upload =
        .ok (made (drawDeck (gallery reader files) template placed).result) := by
  by_cases hne : text = ""
  · subst hne
    exact Or.inl ⟨.ok noText, by rintro p ⟨⟩, fun _ => rfl⟩
  obtain haccepted | ⟨u, status, detail, hu, hrefusal⟩ :=
    isAccepted_or_exists_refusal limit (sent? upload)
  · cases hplan : (planDeck text).result with
    | error e =>
      exact Or.inl ⟨_, by rintro p ⟨⟩, fun _ => generate_of_error hne haccepted hplan⟩
    | ok placed =>
      exact Or.inr ⟨placed, _, rfl, fun _ => generate_of_ok hne haccepted hplan⟩
  · exact Or.inl ⟨_, by rintro p ⟨⟩, fun _ => generate_of_refusal hne hu hrefusal⟩

theorem generate_of_showAlike
    (h : ∀ pic, Places text pic →
      ShowAlike (gallery reader files) (gallery reader files') pic.href) :
    generate reader files limit (some text) upload =
      generate reader files' limit (some text) upload := by
  obtain ⟨r, -, hr⟩ | ⟨placed, template, hplan, hdrawn⟩ := generate_cases reader limit text upload
  · rw [hr, hr]
  · have hplaced := ((planDeck_eq_ok_iff text placed).mp hplan).2
    have halike : ∀ s ∈ placed, ∀ q ∈ s.elements, ∀ pic, q.element = .picture pic →
        ShowAlike (gallery reader files) (gallery reader files') pic.href :=
      fun s hs q hq pic he => h pic ⟨placed, hplan, s, hs, q, hq, he⟩
    rw [hdrawn, hdrawn, drawDeck_of_showAlike hplaced halike]

theorem exists_holds_of_generate {p : Presentation}
    (h : generate reader files limit (some text) upload = .ok (.deck p)) {d : DrawnSlide}
    (hd : d ∈ p.slides) {box : Box Int} {octets : List UInt8}
    (hmem : .picture box octets ∈ d.figures) :
    ∃ pic, Places text pic ∧ (gallery reader files).Holds pic.href octets := by
  obtain ⟨r, hr, hsame⟩ | ⟨placed, template, hplan, hdrawn⟩ :=
    generate_cases reader limit text upload
  · exact absurd ((hsame files).symm.trans h) (hr p)
  · rw [hdrawn] at h
    cases hresult : (drawDeck (gallery reader files) template placed).result with
    | error e =>
      rw [hresult] at h
      cases h
    | ok deck =>
      rw [hresult] at h
      cases h
      obtain ⟨s, hs, q, hq, pic, he, hholds⟩ := exists_holds_of_drawDeck hresult hd hmem
      exact ⟨pic, ⟨placed, hplan, s, hs, q, hq, he⟩, hholds⟩

/-- Two states in which an address leads to the same show the same there. -/
theorem showAlike_gallery {href : String}
    (hread : files.read (Path.ofString href) = files'.read (Path.ofString href))
    (hresolve : files.resolve (Path.ofString href) = files'.resolve (Path.ofString href)) :
    ShowAlike (gallery reader files) (gallery reader files') href := by
  have hrejects (k : FaultKind) :
      files.Rejects (Path.ofString href) k ↔ files'.Rejects (Path.ofString href) k := by
    rw [← FileTree.resolve_eq_error_iff, ← FileTree.resolve_eq_error_iff, hresolve]
  refine ⟨fun octets => ?_, fun e => ⟨fun h => ?_, fun h => ?_⟩⟩
  · change _ ∧ files.read (Path.ofString href) = _ ∧ _ ↔
      _ ∧ files'.read (Path.ofString href) = _ ∧ _
    rw [hread]
    rfl
  · cases h with
    | rejected hlocal h => exact .rejected hlocal ((hrejects _).mp h)
    | reader hlocal h hbroken => exact .reader hlocal (hread.symm.trans h) hbroken
  · cases h with
    | rejected hlocal h => exact .rejected hlocal ((hrejects _).mpr h)
    | reader hlocal h hbroken => exact .reader hlocal (hread.trans h) hbroken

end

/-- Two states of the files make no difference to the answer as long as they show the same at the
addresses of the placed pictures; so they never do if none of these addresses is looked up. And
every picture in a deck that is sent is one that stands at such an address. -/
theorem generate_reads (reader : PictureReader) (files : FileTree Package) (limit : Float)
    (text : String) (upload : Option Upload) :
    (∀ files', (∀ pic, Places text pic →
        ShowAlike (gallery reader files) (gallery reader files') pic.href) →
      generate reader files limit (some text) upload =
        generate reader files' limit (some text) upload) ∧
    ((∀ pic, Places text pic → ¬IsLocal pic.href) → ∀ files',
      generate reader files limit (some text) upload =
        generate reader files' limit (some text) upload) ∧
    ∀ p, generate reader files limit (some text) upload = .ok (.deck p) →
      ∀ d ∈ p.slides, ∀ box octets, .picture box octets ∈ d.figures →
        ∃ pic, Places text pic ∧ (gallery reader files).Holds pic.href octets := by
  refine ⟨fun files' h => generate_of_showAlike h, fun h files' => ?_, ?_⟩
  · exact generate_of_showAlike fun pic hpic => showAlike_of_not_isLocal _ _ (h pic hpic)
  · exact fun p hp d hd box octets hmem => exists_holds_of_generate hp hd hmem

/-- A text with one picture. -/
def pictureSource : String := "# T\n\n![a](a.gif)"

def placedPicture : List (PlacedSlide Float) :=
  [⟨"T", none, [⟨.picture ⟨"a.gif", "a"⟩, ⟨0.5, 1.2, 9.0, 3.0⟩, 0⟩]⟩]

theorem passages_pictureSource : ∃ phrases, passages pictureSource =
    [.heading 1 "T", .paragraph "![a](a.gif)" phrases] := by
  have hblocks : (Markdown.Document.parse pictureSource).blocks =
      [.heading 1 "T", .paragraph "![a](a.gif)"] := by cbv
  have htitle : Text.trimmed (Markdown.Inline.wordsList
      ((Markdown.Document.parse pictureSource).inlines "T")) = "T" := by cbv
  rw [passages, hblocks, List.map_cons, List.map_cons, List.map_nil, passage, passage, htitle]
  exact ⟨_, rfl⟩

theorem planDeck_pictureSource : (planDeck pictureSource).result = .ok placedPicture := by
  obtain ⟨phrases, hpassages⟩ := passages_pictureSource
  have hslides : slidesOf pictureSource = [⟨"T", [.picture ⟨"a.gif", "a"⟩], none⟩] := by
    rw [slidesOf, hpassages]
    rfl
  refine (planDeck_eq_ok_iff pictureSource placedPicture).mpr ⟨?_, ?_⟩
  · rw [← overlong_eq_none_iff, hpassages]
    rfl
  · rw [hslides]
    exact placeDeck_picture _

theorem href_of_places_pictureSource {pic : Picture} (h : Places pictureSource pic) :
    pic.href = "a.gif" := by
  obtain ⟨placed, hplan, s, hs, q, hq, he⟩ := h
  obtain rfl := Except.ok.inj (planDeck_pictureSource.symm.trans hplan)
  obtain rfl := List.mem_singleton.mp hs
  obtain rfl := List.mem_singleton.mp hq
  cases he
  rfl

theorem not_places_shortSource (pic : Picture) : ¬Places shortSource pic := by
  rintro ⟨placed, hplan, s, hs, q, hq, he⟩
  have hplaced := ((planDeck_eq_ok_iff shortSource placed).mp hplan).2
  refine (forall_placed_iff hplaced fun e => e ≠ .picture pic).mpr ?_ s hs q hq he
  rw [slidesOf_shortSource, List.forall_mem_singleton]
  intro e hreached
  obtain rfl := List.mem_singleton.mp (mem_of_reaches hreached)
  rintro ⟨⟩

/-- A picture beside another file. -/
def crowdedFiles : FileTree Package where
  entries := (⟨.relative, ["b.md"]⟩, .file (.octets [])) :: smallFiles.entries

theorem showAlike_crowdedFiles :
    ShowAlike (gallery PictureFormat.verdict smallFiles)
      (gallery PictureFormat.verdict crowdedFiles) "a.gif" :=
  showAlike_gallery rfl rfl

def pictureOctets? : Figure → Option (List UInt8)
  | .picture _ octets => some octets
  | _ => none

/-- The pictures in a deck. -/
def picturesIn : Response → List (List UInt8)
  | .deck p => (p.slides.flatMap DrawnSlide.figures).filterMap pictureOctets?
  | _ => []

theorem exists_picture_of_mem_picturesIn {r : Response} {octets : List UInt8}
    (h : octets ∈ picturesIn r) :
    ∃ p, r = .deck p ∧ ∃ d ∈ p.slides, ∃ box, .picture box octets ∈ d.figures := by
  cases r with
  | deck p =>
    obtain ⟨f, hf, hoctets⟩ := List.mem_filterMap.mp h
    obtain ⟨d, hd, hmem⟩ := List.mem_flatMap.mp hf
    cases f with
    | picture box s =>
      obtain rfl := Option.some.inj hoctets
      exact ⟨p, rfl, d, hd, box, hmem⟩
    | _ => cases hoctets
  | _ => cases h

theorem generate_reads_pictureSource :
    generate PictureFormat.verdict smallFiles 1.0 (some pictureSource) none =
      generate PictureFormat.verdict crowdedFiles 1.0 (some pictureSource) none ∧
    generate PictureFormat.verdict smallFiles 1.0 (some shortSource) none =
      generate PictureFormat.verdict {} 1.0 (some shortSource) none ∧
    ∃ pic, Places pictureSource pic ∧
      (gallery PictureFormat.verdict smallFiles).Holds pic.href smallPicture := by
  have haccepted : IsAccepted 1.0 (sent? none) := by rintro u ⟨⟩
  have hanswer : generate PictureFormat.verdict smallFiles 1.0 (some pictureSource) none =
      .ok (made (drawDeck smallGallery none placedPicture).result) :=
    generate_of_ok (by decide) haccepted planDeck_pictureSource
  have hpictures :
      smallPicture ∈ picturesIn (made (drawDeck smallGallery none placedPicture).result) := by
    decide +kernel
  obtain ⟨p, hp, d, hd, box, hmem⟩ := exists_picture_of_mem_picturesIn hpictures
  obtain ⟨halike, -, hholds⟩ :=
    generate_reads PictureFormat.verdict smallFiles 1.0 pictureSource none
  obtain ⟨-, hplain, -⟩ := generate_reads PictureFormat.verdict smallFiles 1.0 shortSource none
  refine ⟨halike crowdedFiles fun pic hpic => ?_, hplain (fun pic hpic => ?_) {}, ?_⟩
  · rw [href_of_places_pictureSource hpic]
    exact showAlike_crowdedFiles
  · exact absurd hpic (not_places_shortSource pic)
  · exact hholds p (by rw [hanswer, hp]) d hd box smallPicture hmem

/-- Pictures that are looked up in the working directory tell of the files there. -/
theorem not_forall_generate :
    ¬∀ reader files files' limit text upload,
      generate reader files limit (some text) upload =
        generate reader files' limit (some text) upload := by
  intro h
  have hne : pictureSource ≠ "" := by decide
  have haccepted : IsAccepted 1.0 (sent? none) := by rintro u ⟨⟩
  have hsame := h PictureFormat.verdict smallFiles {} 1.0 pictureSource none
  rw [generate_of_ok hne haccepted planDeck_pictureSource,
    generate_of_ok hne haccepted planDeck_pictureSource] at hsame
  exact absurd (congrArg picturesIn (Except.ok.inj hsame)) (by decide +kernel)

end SlideDeck.Service
