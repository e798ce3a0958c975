import SlideDeck.Proofs.CommandLine.Execution
import SlideDeck.Proofs.Files.DeckPath

/-!
Where the deck goes when no output is asked for: beside the document, and never in its place.
-/

namespace SlideDeck.CommandLine

open Drawing Files FileTree

/-- The path of a deck beside a document with a name: `.pptx` stands in the place of a suffix `.md`,
whatever its letter case, and else behind the name. -/
structure IsBeside (p : Path) (name : String) (deck : Path) : Prop where
  parent : deck.parent = p.parent
  other : deck ≠ p
  plain : p.IsPlain → deck.IsPlain ∧ deck.text ≠ p.text
  spelled : ∀ s, p = Path.ofString s → deck.IsPlain ∧ deck.text ≠ p.text
  ending : ∃ front, deck.name? = some (front ++ ".pptx")
  replaced : ∀ stem suffix, HasSuffix name stem suffix →
    (deck.name? = some (stem ++ ".pptx") ↔ suffix ∈ documentSuffixes)
  appended : deck.name? = some (name ++ ".pptx") ↔
    ¬∃ stem suffix, HasSuffix name stem suffix ∧ suffix ∈ documentSuffixes

theorem isBeside_deckPath {p deck : Path} {name : String} (h : p.name? = some name)
    (hdeck : deckPath p = .ok deck) : IsBeside p name deck := by
  rw [deckPath, h] at hdeck
  obtain rfl := Except.ok.inj hdeck
  have hname : (p.withName (deckName name)).name? = some (deckName name) := by
    rw [Path.name?, Path.withName, List.getLast?_concat]
  have hother : p.withName (deckName name) ≠ p := by
    intro heq
    rw [heq, h] at hname
    exact deckName_ne name (Option.some.inj hname).symm
  have hspelled (hplain : p.IsPlain) : (p.withName (deckName name)).IsPlain ∧
      (p.withName (deckName name)).text ≠ p.text := by
    have hplain' : (p.withName (deckName name)).IsPlain := by
      intro c hc
      obtain hc | hc := List.mem_append.mp hc
      · exact hplain c (List.mem_of_mem_dropLast hc)
      · rw [List.mem_singleton.mp hc]
        exact isComponent_deckName (hplain name (List.mem_of_getLast? h))
    refine ⟨hplain', fun htext => hother ?_⟩
    rw [← Path.ofString_text hplain', htext, Path.ofString_text hplain]
  refine ⟨?_, hother, hspelled, fun s hs => hspelled (hs ▸ Path.isPlain_ofString s), ?_,
    fun stem suffix hsuffix => ?_, ?_⟩
  · rw [Path.parent, Path.withName, Path.parent, List.dropLast_concat]
  · obtain ⟨front, hfront, -⟩ := exists_deckName_eq name
    exact ⟨front, by rw [hname, hfront]⟩
  · rw [hname, Option.some.injEq, deckName_eq_stem_iff hsuffix]
  · rw [hname, Option.some.injEq, deckName_eq_append_iff]

theorem IsBeside.name?_ne {p deck : Path} {name : String} (h : IsBeside p name deck)
    (hname : p.name? = some name) : deck.name? ≠ p.name? :=
  fun heq => h.other (Path.eq_of_parent_eq hname (heq.trans hname) h.parent)

theorem goesTo_iff {w : Surroundings} {a : Arguments} (h : given a.output = none)
    (p deck : Path) : GoesTo w a p deck ↔ deckPath p = .ok deck := by
  have hnone := given_eq_none_iff.mp h
  refine ⟨fun hgoes => ?_, .beside hnone⟩
  cases hgoes with
  | asked hs _ => exact absurd hs (hnone _)
  | beside _ hdeck => exact hdeck

/-- A command without an output leaves its document as it is, however it ends. -/
theorem fileAt?_document {w : Surroundings} {arguments : List String} {a : Arguments} {p : Path}
    {name : String} (ha : readArguments arguments = .ok (.convert a)) (hp : w.path a.input = .ok p)
    (hname : p.name? = some name) (hgiven : given a.output = none) {place : Path}
    {content : Package} (hfile : w.files.resolve p = .ok (place, .file content)) :
    (execute w arguments).files.fileAt? place = some content := by
  have hbefore : w.files.fileAt? place = some content := by
    rw [fileAt?, get?_of_resolve hfile]
    rfl
  rcases hrun : (convertFile a).run { surroundings := w } with ⟨result, s⟩
  have hfiles : (execute w arguments).files = s.surroundings.files := by
    simp only [execute, ha, hrun]
  rw [hfiles]
  cases result with
  | error e => rw [convertFile_failsUnchanged a _ _ _ hrun place, hbefore]
  | ok written =>
    obtain ⟨_, ⟨a', input, _, _, ha', hinput, houtput, _⟩, _, -, place', hplace, hrest⟩ :=
      convertFile_written ha hrun
    rw [ha] at ha'
    obtain rfl := Request.convert.inj (Except.ok.inj ha')
    obtain rfl := Except.ok.inj (hp.symm.trans (path_eq_ok_iff.mpr hinput))
    have hbeside := isBeside_deckPath hname ((goesTo_iff hgiven _ _).mp houtput)
    have hne : place' ≠ place :=
      place_ne_of_name_ne hbeside.parent (hbeside.name?_ne hname) hfile hplace
    rw [hrest, if_neg hne.symm, hbefore]

/-- Every document with a name has a path for its deck beside it. That is where the deck goes if no
output is asked for, and the document stays as it is. -/
theorem deckPath_beside {p : Path} {name : String} (h : p.name? = some name) :
    ∃ deck, deckPath p = .ok deck ∧ IsBeside p name deck ∧
      ∀ (w : Surroundings) (arguments : List String) (a : Arguments),
        readArguments arguments = .ok (.convert a) → w.path a.input = .ok p →
        given a.output = none →
        outputPath w a p = .ok deck ∧
          ∀ place content, w.files.resolve p = .ok (place, .file content) →
            (execute w arguments).files.fileAt? place = some content := by
  have hdeck : deckPath p = .ok (p.withName (deckName name)) := by rw [deckPath, h]
  refine ⟨_, hdeck, isBeside_deckPath h hdeck, fun w arguments a ha hp hgiven => ⟨?_, ?_⟩⟩
  · exact outputPath_eq_ok_iff.mpr ((goesTo_iff hgiven p _).mpr hdeck)
  · exact fun place content hfile => fileAt?_document ha hp h hgiven hfile

/-- A document with its suffix in capital letters. -/
theorem deckPath_beside_capitals :
    let p : Path := ⟨.relative, ["talks", "Intro.MD"]⟩
    let w : Surroundings := ⟨{ entries := [(p, .file (.octets []))] }, fun _ => none,
      PictureFormat.verdict, fun _ => []⟩
    ∃ deck, deckPath p = .ok deck ∧ deck.parent = ⟨.relative, ["talks"]⟩ ∧
      deck.name? = some "Intro.pptx" ∧
      (execute w ["talks/Intro.MD"]).files.fileAt? p = some (.octets []) := by
  intro p w
  have hname : p.name? = some "Intro.MD" := rfl
  obtain ⟨deck, hdeck, hbeside, hkept⟩ := deckPath_beside hname
  have hsuffix : HasSuffix "Intro.MD" "Intro" ".MD" :=
    ⟨by decide +kernel, by decide, "MD", by decide +kernel, by decide, by decide +kernel⟩
  refine ⟨deck, hdeck, hbeside.parent, ?_, ?_⟩
  · exact (hbeside.replaced "Intro" ".MD" hsuffix).mpr (by decide)
  · have ha : readArguments ["talks/Intro.MD"] =
        .ok (.convert ⟨"talks/Intro.MD", none, none, false⟩) := by decide +kernel
    exact (hkept w _ _ ha (by decide +kernel) (by decide +kernel)).2 p (.octets []) rfl

end SlideDeck.CommandLine
