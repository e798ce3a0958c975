import SlideDeck.Proofs.CommandLine.Execution
import SlideDeck.Proofs.Text.Quoted

/-!
Documents that cannot be read. The command tells of them in one line and returns 1, provided that it
comes to open the document at all: before that it works out where the deck goes, and a failure to do
so is passed on, as is a path that no file can have.
-/

namespace SlideDeck.CommandLine

open Drawing Files Text Work

/-- A path leads to a file with a text in UTF-8. -/
def HoldsText (w : Surroundings) (p : Path) : Prop :=
  '\x00' ∉ p.text.toList ∧
    ∃ content, w.files.read p = .ok content ∧
      ∃ s : List Char, w.octets content = s.flatMap String.utf8EncodeChar

/-- The document of a command cannot be read as a text. -/
def IsUnreadable (w : Surroundings) (a : Arguments) : Prop :=
  ∀ input, w.path a.input = .ok input → ¬HoldsText w input

theorem isUnreadable_of_fault {w : Surroundings} {a : Arguments} {p : Path} {f : Fault}
    (hpath : w.path a.input = .ok p) (hread : w.files.read p = .error f) : IsUnreadable w a := by
  intro input hinput hholds
  obtain rfl := Except.ok.inj (hpath.symm.trans hinput)
  obtain ⟨-, _, hcontent, -⟩ := hholds
  cases hcontent.symm.trans hread

/-- The command comes so far as to open its document: it knows the path, which may be that of a
file, and a path for the deck as well. -/
structure Opens (w : Surroundings) (a : Arguments) (input : Path) : Prop where
  known : w.path a.input = .ok input
  output : ∀ s, given a.output = some s → w.KnowsHome s
  named : given a.output = none → input.parts ≠ []
  plain : '\x00' ∉ input.text.toList

theorem outputPath_eq_error {w : Surroundings} {a : Arguments} {input : Path} {e : CommandError}
    (h : outputPath w a input = .error e) : e.isReported = false := by
  rw [outputPath] at h
  split at h
  · rw [path_eq_error h]
    rfl
  · cases hdeck : deckPath input with
    | ok deck =>
      rw [hdeck] at h
      cases h
    | error f =>
      rw [hdeck] at h
      cases h
      rfl

theorem exists_deckPath_iff (p : Path) : (∃ deck, deckPath p = .ok deck) ↔ p.parts ≠ [] := by
  rw [deckPath, Path.name?]
  cases hname : p.parts.getLast? with
  | none =>
    exact iff_of_false (by rintro ⟨_, ⟨⟩⟩) (not_not.mpr (List.getLast?_eq_none_iff.mp hname))
  | some name =>
    refine iff_of_true ⟨_, rfl⟩ fun hparts => ?_
    rw [hparts] at hname
    cases hname

theorem exists_outputPath_iff (w : Surroundings) (a : Arguments) (input : Path) :
    (∃ output, outputPath w a input = .ok output) ↔
      (∀ s, given a.output = some s → w.KnowsHome s) ∧
        (given a.output = none → input.parts ≠ []) := by
  rw [outputPath]
  cases given a.output with
  | some s => simp [exists_path_iff]
  | none => simp [Logged.mapError_eq_ok, exists_deckPath_iff]

theorem exists_readText_iff (w : Surroundings) (p : Path) :
    (∃ t, readText w p = .ok t) ↔ HoldsText w p := by
  simp only [readText_eq_ok_iff, Reads, IsTextOf, HoldsText]
  constructor
  · rintro ⟨_, content, ⟨hnul, hread⟩, s, hs, -⟩
    exact ⟨hnul, content, hread, s, hs⟩
  · rintro ⟨hnul, content, hread, s, hs⟩
    exact ⟨_, content, ⟨hnul, hread⟩, s, hs, rfl⟩

theorem isOneLine_message_fault (f : Fault) : IsOneLine f.message.toList := by
  have hkind : IsOneLine f.kind.text.toList := by
    cases f.kind <;> decide +kernel
  have hcolon : IsOneLine ": ".toList := by decide +kernel
  rw [Fault.message, String.toList_append, String.toList_append, isOneLine_append,
    isOneLine_append]
  exact ⟨⟨hkind, hcolon⟩, isOneLine_quoted _⟩

/-- A document is reported as unreadable wherever it is opened, and in one line. -/
theorem readText_eq_error {w : Surroundings} {p : Path} {e : CommandError}
    (h : readText w p = .error e) :
    (e.isReported ↔ '\x00' ∉ p.text.toList) ∧ IsOneLine e.message.toList := by
  rw [readText_eq] at h
  split at h
  · rename_i hnul
    cases h
    exact ⟨iff_of_false nofun (not_not.mpr hnul), by decide +kernel⟩
  · rename_i hnul
    split at h
    · rename_i f _
      cases h
      exact ⟨iff_of_true rfl hnul, isOneLine_message_fault f⟩
    · rename_i content _
      cases htext : documentText (w.octets content) with
      | ok t =>
        rw [htext] at h
        cases h
      | error f =>
        rw [htext] at h
        cases h
        exact ⟨iff_of_true rfl hnul, f.isOneLine_message⟩

namespace Work

variable {α β : Type}

theorem look_bind_ok {f : Surroundings → Except CommandError α} {s : Standing} {a : α}
    (h : f s.surroundings = .ok a) (g : α → Work β) : (look f >>= g).run s = (g a).run s := by
  rw [bind_run, look_eq_ok.mpr ⟨h, rfl⟩]

theorem look_bind_error {f : Surroundings → Except CommandError α} {s : Standing} {e : CommandError}
    (h : f s.surroundings = .error e) (g : α → Work β) :
    (look f >>= g).run s = (.error e, s) := by
  have hrun : (look f).run s = (.error e, s) := congrArg (·, s) h
  rw [bind_run, hrun]

end Work

/-- An unreadable document ends the command before it does anything. The failure is the one to read
the document if the document is opened. -/
theorem convertFile_unreadable {w : Surroundings} {a : Arguments} (h : IsUnreadable w a) :
    ∃ e, (convertFile a).run { surroundings := w } = (.error e, { surroundings := w }) ∧
      (e.isReported ↔ ∃ input, Opens w a input) ∧
      ∀ input, Opens w a input → readText w input = .error e := by
  rw [convertFile]
  cases hinput : w.path a.input with
  | error e =>
    have hopens (input : Path) : ¬Opens w a input := fun ho => by
      rw [ho.known] at hinput
      cases hinput
    obtain rfl := path_eq_error hinput
    exact ⟨_, look_bind_error hinput _, iff_of_false nofun fun ⟨p, hp⟩ => hopens p hp,
      fun p hp => absurd hp (hopens p)⟩
  | ok input =>
    have hself {p : Path} (ho : Opens w a p) : p = input :=
      Except.ok.inj (ho.known.symm.trans hinput)
    rw [look_bind_ok hinput]
    cases houtput : outputPath w a input with
    | error e =>
      have hopens (p : Path) : ¬Opens w a p := fun ho => by
        obtain rfl := hself ho
        obtain ⟨output, hok⟩ := (exists_outputPath_iff w a p).mpr ⟨ho.output, ho.named⟩
        rw [hok] at houtput
        cases houtput
      have hreported : e.isReported = false := outputPath_eq_error houtput
      exact ⟨e, look_bind_error houtput _,
        iff_of_false (by rw [hreported]; nofun) fun ⟨p, hp⟩ => hopens p hp,
        fun p hp => absurd hp (hopens p)⟩
    | ok output =>
      rw [look_bind_ok houtput]
      cases htext : readText w input with
      | ok t => exact absurd ((exists_readText_iff w input).mp ⟨t, htext⟩) (h input hinput)
      | error e =>
        obtain ⟨hknown, hnamed⟩ := (exists_outputPath_iff w a input).mp ⟨output, houtput⟩
        refine ⟨e, look_bind_error htext _, (readText_eq_error htext).1.trans ?_, fun p hp => ?_⟩
        · exact ⟨fun hplain => ⟨input, hinput, hknown, hnamed, hplain⟩,
            fun ⟨p, hp⟩ => hself hp ▸ hp.plain⟩
        · rw [hself hp, htext]

/-- A command whose document cannot be read answers if and only if it opens the document, and then
it writes one line to tell why, returns 1, and leaves the files as they are. -/
theorem run_unreadable {w : Surroundings} {arguments : List String} {a : Arguments}
    (ha : readArguments arguments = .ok (.convert a)) (h : IsUnreadable w a) :
    ((∃ answer, run w arguments = .ok answer) ↔ ∃ input, Opens w a input) ∧
    ∀ input, Opens w a input → ∃ e, readText w input = .error e ∧
      IsOneLine e.message.toList ∧
      run w arguments =
        .ok (.ended ⟨1, "", ["[FATAL ERROR] " ++ e.message], w.files, none⟩) := by
  obtain ⟨e, hrun, hreported, htext⟩ := convertFile_unreadable h
  have hanswer : run w arguments =
      if e.isReported then .ok (.ended ⟨1, "", ["[FATAL ERROR] " ++ e.message], w.files, none⟩)
      else .error e := by
    have hexecute : execute w arguments =
        ⟨w.files, (outcome a (.error e) { surroundings := w }).map .ended⟩ := by
      simp only [execute, ha, hrun]
    rw [run, hexecute, outcome]
    split <;> rfl
  refine ⟨?_, fun input ho => ⟨e, htext input ho, (readText_eq_error (htext input ho)).2, ?_⟩⟩
  · rw [← hreported, hanswer]
    split
    · rename_i htold
      exact iff_of_true ⟨_, rfl⟩ htold
    · rename_i htold
      exact iff_of_false (by rintro ⟨_, ⟨⟩⟩) htold
  · rw [hanswer, if_pos (hreported.mpr ⟨input, ho⟩)]

/-- A document that is missing. -/
theorem run_unreadable_missing :
    let w : Surroundings := ⟨{}, fun _ => none, PictureFormat.verdict, fun _ => []⟩
    let a : Arguments := ⟨"absent.md", none, none, false⟩
    readArguments ["absent.md"] = .ok (.convert a) ∧ IsUnreadable w a ∧
      Opens w a ⟨.relative, ["absent.md"]⟩ ∧
      run w ["absent.md"] = .ok (.ended ⟨1, "",
        ["[FATAL ERROR] [Errno 2] No such file or directory: 'absent.md'"], {}, none⟩) := by
  intro w a
  have ha : readArguments ["absent.md"] = .ok (.convert a) := by decide +kernel
  have hpath : w.path a.input = .ok ⟨.relative, ["absent.md"]⟩ := by decide +kernel
  have hunreadable : IsUnreadable w a :=
    isUnreadable_of_fault (f := ⟨.missing, ⟨.relative, ["absent.md"]⟩⟩) hpath rfl
  have hopens : Opens w a ⟨.relative, ["absent.md"]⟩ :=
    ⟨hpath, nofun, fun _ => List.cons_ne_nil _ _, by decide +kernel⟩
  refine ⟨ha, hunreadable, hopens, ?_⟩
  obtain ⟨e, he, -, hrun⟩ := (run_unreadable ha hunreadable).2 _ hopens
  have hmissing : readText w ⟨.relative, ["absent.md"]⟩ =
      .error (.file ⟨.missing, ⟨.relative, ["absent.md"]⟩⟩) := by rfl
  obtain rfl := Except.error.inj (hmissing.symm.trans he)
  have hmessage : Fault.message ⟨.missing, ⟨.relative, ["absent.md"]⟩⟩ =
      "[Errno 2] No such file or directory: 'absent.md'" := by decide +kernel
  rw [hrun, CommandError.message, hmessage]
  rfl

/-- The working directory is no document, and has no name beside which a deck could stand. -/
theorem not_forall_run_unreadable :
    ¬∀ (w : Surroundings) (arguments : List String) (a : Arguments),
      readArguments arguments = .ok (.convert a) → IsUnreadable w a →
      ∃ message, IsOneLine message.toList ∧
        run w arguments = .ok (.ended ⟨1, "", ["[FATAL ERROR] " ++ message], w.files, none⟩) := by
  intro h
  let w : Surroundings := ⟨{}, fun _ => none, PictureFormat.verdict, fun _ => []⟩
  let a : Arguments := ⟨".", none, none, false⟩
  have ha : readArguments ["."] = .ok (.convert a) := by decide +kernel
  have hpath : w.path a.input = .ok ⟨.relative, []⟩ := by decide +kernel
  have hunreadable : IsUnreadable w a :=
    isUnreadable_of_fault (f := ⟨.isDirectory, ⟨.relative, []⟩⟩) hpath rfl
  obtain ⟨message, -, hrun⟩ := h w ["."] a ha hunreadable
  have hnameless : run w ["."] = .error (.namelessPath ⟨⟨.relative, []⟩⟩) := by rfl
  cases hnameless.symm.trans hrun

end SlideDeck.CommandLine
