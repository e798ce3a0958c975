import SlideDeck.Proofs.CommandLine.Reading
import SlideDeck.Proofs.Drawing.Deck
import SlideDeck.Proofs.Files.Writing

/-!
What the command does to the files. All that may fail comes before the deck is written, and nothing
before it changes a file; so the command either ends well, and has written its deck and nothing
else, or it has changed no file.
-/

namespace SlideDeck.CommandLine

open Drawing Files FileTree

namespace Work

variable {α β : Type}

theorem bind_run (p : Work α) (f : α → Work β) (s : Standing) :
    (p >>= f).run s =
      match p.run s with
      | (.ok a, s') => (f a).run s'
      | (.error e, s') => (.error e, s') := by
  change (ExceptT.bindCont f (p.run s).1).run (p.run s).2 = _
  rcases p.run s with ⟨_ | a, s'⟩ <;> rfl

theorem bind_eq_ok {p : Work α} {f : α → Work β} {s s' : Standing} {b : β} :
    (p >>= f).run s = (.ok b, s') ↔
      ∃ a between, p.run s = (.ok a, between) ∧ (f a).run between = (.ok b, s') := by
  rw [bind_run]
  rcases p.run s with ⟨e | a, between⟩
  · exact ⟨nofun, nofun⟩
  · exact ⟨fun h => ⟨a, between, rfl, h⟩, by rintro ⟨_, _, ⟨⟩, h⟩; exact h⟩

theorem pure_eq_ok {a b : α} {s s' : Standing} :
    (pure a : Work α).run s = (.ok b, s') ↔ a = b ∧ s = s' := by
  change ((.ok a : Except CommandError α), s) = _ ↔ _
  rw [Prod.mk.injEq, Except.ok.injEq]

theorem look_eq_ok {f : Surroundings → Except CommandError α} {s s' : Standing} {a : α} :
    (look f).run s = (.ok a, s') ↔ f s.surroundings = .ok a ∧ s = s' := by
  change (f s.surroundings, s) = _ ↔ _
  rw [Prod.mk.injEq]

theorem tell_eq_ok {n : Notice} {s s' : Standing} :
    (tell n).run s = (.ok (), s') ↔ { s with notices := s.notices ++ [n] } = s' := by
  change ((.ok () : Except CommandError Unit), { s with notices := s.notices ++ [n] }) = _ ↔ _
  rw [Prod.mk.injEq, and_iff_right rfl]

theorem workOut_eq_ok {f : Surroundings → Logged CommandError α} {s s' : Standing} {a : α} :
    (workOut f).run s = (.ok a, s') ↔
      (f s.surroundings).result = .ok a ∧
        s' = { s with notices := s.notices ++ (f s.surroundings).notices } := by
  change ((f s.surroundings).result,
    { s with notices := s.notices ++ (f s.surroundings).notices }) = _ ↔ _
  rw [Prod.mk.injEq, eq_comm (a := s')]

theorem changeFiles_eq_ok {f : FileTree Package → FileTree Package × Except Fault α}
    {s s' : Standing} {a : α} :
    (changeFiles f).run s = (.ok a, s') ↔
      (f s.surroundings.files).2 = .ok a ∧
        s' = { s with surroundings :=
          { s.surroundings with files := (f s.surroundings.files).1 } } := by
  change (((f s.surroundings.files).2.mapError CommandError.file),
    { s with surroundings := { s.surroundings with files := (f s.surroundings.files).1 } }) = _ ↔ _
  rw [Prod.mk.injEq, Logged.mapError_eq_ok, eq_comm (a := s')]

/-- However it ends, all files are as before. -/
def Keeps (p : Work α) : Prop :=
  ∀ s, SameFiles s.surroundings.files (p.run s).2.surroundings.files

/-- If it fails, all files are as before. -/
def FailsUnchanged (p : Work α) : Prop :=
  ∀ s e s', p.run s = (.error e, s') → SameFiles s.surroundings.files s'.surroundings.files

theorem keeps_look (f : Surroundings → Except CommandError α) : Keeps (look f) :=
  fun s => .refl s.surroundings.files

theorem keeps_tell (n : Notice) : Keeps (tell n) :=
  fun s => .refl s.surroundings.files

theorem keeps_workOut (f : Surroundings → Logged CommandError α) : Keeps (workOut f) :=
  fun s => .refl s.surroundings.files

theorem keeps_changeFiles {f : FileTree Package → FileTree Package × Except Fault α}
    (h : ∀ t, SameFiles t (f t).1) : Keeps (changeFiles f) :=
  fun s => h s.surroundings.files

/-- What keeps all files may come first. -/
theorem Keeps.bind {p : Work α} {f : α → Work β} (hp : Keeps p)
    (hf : ∀ a, FailsUnchanged (f a)) : FailsUnchanged (p >>= f) := by
  intro s e s' h
  have hs := hp s
  rw [bind_run] at h
  rcases hrun : p.run s with ⟨e | a, between⟩ <;> rw [hrun] at h hs
  · cases h
    exact hs
  · exact hs.trans (hf a between e s' h)

/-- What cannot fail may come last. -/
theorem FailsUnchanged.bind_pure {p : Work α} (h : FailsUnchanged p) (f : α → β) :
    FailsUnchanged (p >>= fun a => pure (f a)) := by
  intro s e s' hbind
  rw [bind_run] at hbind
  rcases hrun : p.run s with ⟨e | a, between⟩ <;> rw [hrun] at hbind
  · cases hbind
    exact h s e s' hrun
  · cases hbind

theorem failsUnchanged_attempt (f : FileTree Package → Except Fault (FileTree Package)) :
    FailsUnchanged (changeFiles fun t => t.attempt (f t)) := by
  intro s e s' h
  change (((s.surroundings.files.attempt (f s.surroundings.files)).2.mapError CommandError.file),
    { s with surroundings := { s.surroundings with
      files := (s.surroundings.files.attempt (f s.surroundings.files)).1 } }) = _ at h
  cases hf : f s.surroundings.files with
  | ok changed =>
    rw [hf] at h
    cases h
  | error fault =>
    rw [hf] at h
    cases h
    exact .refl s.surroundings.files

end Work

open Work

theorem keeps_makeDirectories (p : Path) :
    Keeps (changeFiles (·.makeDirectories p)) :=
  keeps_changeFiles fun t => sameFiles_makeDirectoriesWithin p.parts.length t p

theorem writeDeck_failsUnchanged (output : Path) (deck : Package) :
    FailsUnchanged (writeDeck output deck) :=
  (keeps_look _).bind fun _ => (keeps_makeDirectories _).bind fun _ =>
    (keeps_look _).bind fun _ => failsUnchanged_attempt _

/-- Wherever the command fails, it has changed no file. -/
theorem convertFile_failsUnchanged (a : Arguments) : FailsUnchanged (convertFile a) :=
  (keeps_look _).bind fun _ => (keeps_look _).bind fun _ => (keeps_look _).bind fun _ =>
    (keeps_look _).bind fun _ => (keeps_tell _).bind fun _ => (keeps_workOut _).bind fun _ =>
      (writeDeck_failsUnchanged _ _).bind_pure _

/-- The second tree differs from the first in one file only: the path leads to it, and it has the
given content. -/
def Written {α : Type} (t t' : FileTree α) (p : Path) (content : α) : Prop :=
  ∃ place, t'.resolve p = .ok (place, .file content) ∧
    ∀ q, t'.fileAt? q = if q = place then some content else t.fileAt? q

theorem writeDeck_written {output : Path} {deck : Package} {s s' : Standing}
    (h : (writeDeck output deck).run s = (.ok (), s')) :
    Written s.surroundings.files s'.surroundings.files output deck := by
  obtain ⟨_, _, hparent, h⟩ := bind_eq_ok.mp h
  obtain ⟨-, rfl⟩ := look_eq_ok.mp hparent
  obtain ⟨_, made, hmake, h⟩ := bind_eq_ok.mp h
  have hmade : SameFiles s.surroundings.files made.surroundings.files := by
    have hkeeps := keeps_makeDirectories output.parent s
    rwa [hmake] at hkeeps
  obtain ⟨_, _, houtput, h⟩ := bind_eq_ok.mp h
  obtain ⟨-, rfl⟩ := look_eq_ok.mp houtput
  obtain ⟨hwrite, rfl⟩ := changeFiles_eq_ok.mp h
  cases hresult : made.surroundings.files.write output deck with
  | error fault =>
    rw [hresult] at hwrite
    cases hwrite
  | ok changed =>
    obtain ⟨place, hplace, hfiles⟩ := write_eq_ok hresult
    refine ⟨place, hplace, fun q => ?_⟩
    rw [← hmade q]
    exact hfiles q

/-- A command line asks for a presentation at a path: that of the text in its document with its
template, and the pictures beside the document. -/
def AsksFor (w : Surroundings) (arguments : List String) (output : Path)
    (template : Option Package) (deck : Presentation) : Prop :=
  ∃ a input content text, readArguments arguments = .ok (.convert a) ∧
    Names w a.input input ∧ GoesTo w a input output ∧
    Reads w input content ∧ IsTextOf text (w.octets content) ∧ TemplateOf w a template ∧
    (convert ⟨w.files, some input.parent, w.reader⟩ template text).result = .ok deck

/-- A file holds a presentation that is made with a template: its page and its slides, and the
layouts of the template. -/
def HoldsDeck (template : Option Package) (deck : Presentation) (content : Package) : Prop :=
  ∃ t, openTemplate template = .ok t ∧
    content = .presentation ⟨deck.width, deck.height, t.layouts⟩ deck.slides

theorem holdsDeck_packageOf {g : Gallery} {template : Option Package} {text : String}
    {deck : Presentation} (h : (convert g template text).result = .ok deck) :
    HoldsDeck template deck (packageOf template deck) := by
  obtain ⟨_, placed, _, -, hdraw, -⟩ := Logged.bind_eq_ok.mp (Logged.eq_of_result h)
  have hresult : (drawDeck g template placed).result = .ok deck :=
    Logged.mapError_eq_ok.mp (congrArg Logged.result hdraw)
  obtain ⟨⟨t, _, ht, _⟩, -⟩ := drawDeck_ok (Logged.eq_of_result hresult)
  exact ⟨t, ht, by rw [packageOf, ht]; rfl⟩

theorem convertFile_written {w : Surroundings} {arguments : List String} {a : Arguments}
    (ha : readArguments arguments = .ok (.convert a)) {output : Path} {deck : Presentation}
    {s : Standing} (h : (convertFile a).run { surroundings := w } = (.ok (output, deck), s)) :
    ∃ template, AsksFor w arguments output template deck ∧
      ∃ content, HoldsDeck template deck content ∧
        Written w.files s.surroundings.files output content := by
  obtain ⟨input, _, hrun, h⟩ := bind_eq_ok.mp h
  obtain ⟨hinput, rfl⟩ := look_eq_ok.mp hrun
  obtain ⟨output', _, hrun, h⟩ := bind_eq_ok.mp h
  obtain ⟨houtput, rfl⟩ := look_eq_ok.mp hrun
  obtain ⟨text, _, hrun, h⟩ := bind_eq_ok.mp h
  obtain ⟨htext, rfl⟩ := look_eq_ok.mp hrun
  obtain ⟨template, _, hrun, h⟩ := bind_eq_ok.mp h
  obtain ⟨htemplate, rfl⟩ := look_eq_ok.mp hrun
  obtain ⟨_, _, hrun, h⟩ := bind_eq_ok.mp h
  obtain rfl := tell_eq_ok.mp hrun
  obtain ⟨deck', _, hrun, h⟩ := bind_eq_ok.mp h
  obtain ⟨hresult, rfl⟩ := workOut_eq_ok.mp hrun
  dsimp only [Logged.mapError] at hresult
  obtain ⟨_, _, hwrite, h⟩ := bind_eq_ok.mp h
  obtain ⟨hpair, rfl⟩ := pure_eq_ok.mp h
  obtain ⟨rfl, rfl⟩ := Prod.mk.inj hpair
  obtain ⟨content, hreads, htextOf⟩ := readText_eq_ok_iff.mp htext
  have hconvert := Logged.mapError_eq_ok.mp hresult
  exact ⟨template, ⟨a, input, content, text, ha, path_eq_ok_iff.mp hinput,
    outputPath_eq_ok_iff.mp houtput, hreads, htextOf, readTemplate?_eq_ok_iff.mp htemplate,
    hconvert⟩, _, holdsDeck_packageOf hconvert, writeDeck_written hwrite⟩

/-- The exit code, where the command gets so far as to return one. -/
def Execution.code? (x : Execution) : Option Nat :=
  match x.answer with
  | .ok (.ended o) => some o.code
  | _ => none

/-- Where the command returns the code 0, it has written the deck that it was asked for, and no
other file is changed. Otherwise it returns 1 or passes a failure on, and no file is changed. -/
theorem execute_files (w : Surroundings) (arguments : List String) :
    let x := execute w arguments
    if x.code? = some 0 then
      ∃ output template deck content, AsksFor w arguments output template deck ∧
        HoldsDeck template deck content ∧ Written w.files x.files output content
    else (x.code? = some 1 ∨ x.code? = none) ∧ SameFiles w.files x.files := by
  intro x
  cases harguments : readArguments arguments with
  | error e =>
    have hx : x = ⟨w.files, .ok (.usage e)⟩ := by simp only [x, execute, harguments]
    rw [hx, if_neg nofun]
    exact ⟨.inr rfl, .refl w.files⟩
  | ok request =>
    cases request with
    | help =>
      have hx : x = ⟨w.files, .ok .help⟩ := by simp only [x, execute, harguments]
      rw [hx, if_neg nofun]
      exact ⟨.inr rfl, .refl w.files⟩
    | convert a =>
      rcases hrun : (convertFile a).run { surroundings := w } with ⟨e | ⟨output, deck⟩, s⟩
      · have hsame := convertFile_failsUnchanged a _ _ _ hrun
        have hx : x = ⟨s.surroundings.files, (outcome a (.error e) s).map .ended⟩ := by
          simp only [x, execute, harguments, hrun]
        have hcode : x.code? = some 1 ∨ x.code? = none := by
          rw [hx, outcome]
          cases e.isReported with
          | true => exact .inl rfl
          | false => exact .inr rfl
        have hnot : x.code? ≠ some 0 := by
          rintro h0
          rcases hcode with h | h <;> simp [h0] at h
        rw [if_neg hnot]
        exact ⟨hcode, by rw [hx]; exact hsame⟩
      · have hx : x = ⟨s.surroundings.files, (outcome a (.ok (output, deck)) s).map .ended⟩ := by
          simp only [x, execute, harguments, hrun]
        obtain ⟨template, hasked, content, hholds, hwritten⟩ := convertFile_written harguments hrun
        have hcode : x.code? = some 0 := by
          rw [hx]
          rfl
        rw [if_pos hcode, hx]
        exact ⟨output, template, deck, content, hasked, hholds, hwritten⟩

example :
    (execute ⟨{}, fun _ => none, PictureFormat.verdict, fun _ => []⟩ ["talk.md"]).code? =
      some 1 := by rfl

end SlideDeck.CommandLine
