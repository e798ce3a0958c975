import SlideDeck.CommandLine.Command
import SlideDeck.Proofs.Logged
import SlideDeck.Proofs.Text.Octets

/-!
What a command line names and what is read for it, told by the files and the home directories there
are: the paths, the text of the document, and the template.
-/

namespace SlideDeck.CommandLine

open Drawing Files Text

theorem expand_home (w : Surroundings) (user : String) (rest : List String) :
    w.expand ⟨.relative, ("~" ++ user) :: rest⟩ =
      match w.home? user with
      | some home => .ok { home with parts := home.parts ++ rest }
      | none => .error .unknownHome := by
  have hfirst : ("~" ++ user).toList = '~' :: user.toList := by
    rw [String.toList_append]
    rfl
  cases hknown : w.home? user <;>
    simp [Surroundings.expand, hfirst, String.ofList_toList, hknown]

/-- Any other path stays as it is. -/
theorem expand_of_ne_home (w : Surroundings) {p : Path}
    (h : ∀ user rest, p ≠ ⟨.relative, ("~" ++ user) :: rest⟩) : w.expand p = .ok p := by
  obtain ⟨root, parts⟩ := p
  rw [Surroundings.expand]
  split
  · rename_i first rest hroot hparts
    dsimp only at hroot hparts
    subst hroot hparts
    split
    · rename_i user huser
      obtain rfl : first = "~" ++ String.ofList user := String.toList_inj.mp (by simp [huser])
      exact absurd rfl (h (String.ofList user) rest)
    · rfl
  · rfl

/-- The path that an argument names. One that starts with `~` and the name of a user goes on from
the home directory of that user. -/
inductive Names (w : Surroundings) (s : String) : Path → Prop where
  | home {user : String} {rest : List String} {home : Path}
    (h : Path.ofString s = ⟨.relative, ("~" ++ user) :: rest⟩) (hhome : w.home? user = some home) :
    Names w s { home with parts := home.parts ++ rest }
  | plain (h : ∀ user rest, Path.ofString s ≠ ⟨.relative, ("~" ++ user) :: rest⟩) :
    Names w s (Path.ofString s)

theorem home_injective {user user' : String} {rest rest' : List String}
    (h : (⟨.relative, ("~" ++ user) :: rest⟩ : Path) = ⟨.relative, ("~" ++ user') :: rest'⟩) :
    user = user' ∧ rest = rest' := by
  injection h with _ hparts
  simpa using hparts

theorem path_eq_ok_iff {w : Surroundings} {s : String} {p : Path} :
    w.path s = .ok p ↔ Names w s p := by
  rw [Surroundings.path]
  by_cases hhome : ∃ user rest, Path.ofString s = ⟨.relative, ("~" ++ user) :: rest⟩
  · obtain ⟨user, rest, hs⟩ := hhome
    rw [hs, expand_home]
    constructor
    · intro h
      split at h <;> cases h
      rename_i hknown
      exact .home hs hknown
    · intro h
      cases h with
      | home h hknown =>
        obtain ⟨rfl, rfl⟩ := home_injective (hs.symm.trans h)
        rw [hknown]
      | plain h => exact absurd hs (h user rest)
  · have hne : ∀ user rest, Path.ofString s ≠ ⟨.relative, ("~" ++ user) :: rest⟩ :=
      fun user rest hs => hhome ⟨user, rest, hs⟩
    rw [expand_of_ne_home w hne]
    constructor
    · rintro ⟨⟩
      exact .plain hne
    · intro h
      cases h with
      | home h _ => exact absurd h (hne _ _)
      | plain _ => rfl

/-- The home directory that a path starts in, if it starts in one, is known. -/
def Surroundings.KnowsHome (w : Surroundings) (s : String) : Prop :=
  ∀ user rest, Path.ofString s = ⟨.relative, ("~" ++ user) :: rest⟩ → (w.home? user).isSome

theorem exists_path_iff (w : Surroundings) (s : String) :
    (∃ p, w.path s = .ok p) ↔ w.KnowsHome s := by
  simp only [path_eq_ok_iff]
  constructor
  · rintro ⟨_, hnames⟩ user rest hs
    cases hnames with
    | home h hknown =>
      obtain ⟨rfl, -⟩ := home_injective (hs.symm.trans h)
      rw [hknown]
      rfl
    | plain h => exact absurd hs (h user rest)
  · intro hknows
    by_cases hhome : ∃ user rest, Path.ofString s = ⟨.relative, ("~" ++ user) :: rest⟩
    · obtain ⟨user, rest, hs⟩ := hhome
      obtain ⟨home, hknown⟩ := Option.isSome_iff_exists.mp (hknows user rest hs)
      exact ⟨_, .home hs hknown⟩
    · exact ⟨_, .plain fun user rest hs => hhome ⟨user, rest, hs⟩⟩

theorem path_eq_error {w : Surroundings} {s : String} {e : CommandError}
    (h : w.path s = .error e) : e = .unknownHome := by
  rw [Surroundings.path] at h
  by_cases hhome : ∃ user rest, Path.ofString s = ⟨.relative, ("~" ++ user) :: rest⟩
  · obtain ⟨user, rest, hp⟩ := hhome
    rw [hp, expand_home] at h
    split at h <;> cases h
    rfl
  · rw [expand_of_ne_home w fun user rest hp => hhome ⟨user, rest, hp⟩] at h
    cases h

/-- An argument is given by a text that is not empty. -/
def IsGiven (argument : Option String) (s : String) : Prop := argument = some s ∧ s ≠ ""

theorem given_eq_some_iff {argument : Option String} {s : String} :
    given argument = some s ↔ IsGiven argument s := by
  rw [given, Option.filter_eq_some_iff, decide_eq_true_eq]
  rfl

theorem given_eq_none_iff {argument : Option String} :
    given argument = none ↔ ∀ s, ¬IsGiven argument s := by
  rw [Option.eq_none_iff_forall_ne_some]
  simp only [ne_eq, given_eq_some_iff]

/-- Where the deck of a document goes: where the arguments say, and else beside the document. -/
inductive GoesTo (w : Surroundings) (a : Arguments) (input : Path) : Path → Prop where
  | asked {s : String} {output : Path} (h : IsGiven a.output s) (hnames : Names w s output) :
    GoesTo w a input output
  | beside {output : Path} (h : ∀ s, ¬IsGiven a.output s) (hdeck : deckPath input = .ok output) :
    GoesTo w a input output

theorem outputPath_eq_ok_iff {w : Surroundings} {a : Arguments} {input output : Path} :
    outputPath w a input = .ok output ↔ GoesTo w a input output := by
  rw [outputPath]
  cases hgiven : given a.output with
  | some s =>
    have hs := given_eq_some_iff.mp hgiven
    refine path_eq_ok_iff.trans ⟨.asked hs, fun h => ?_⟩
    cases h with
    | asked h hnames =>
      obtain rfl := Option.some.inj (hs.1.symm.trans h.1)
      exact hnames
    | beside h _ => exact absurd hs (h s)
  | none =>
    have hnone := given_eq_none_iff.mp hgiven
    refine Logged.mapError_eq_ok.trans ⟨.beside hnone, fun h => ?_⟩
    cases h with
    | asked h _ => exact absurd h (hnone _)
    | beside _ hdeck => exact hdeck

/-- A path leads to a file with a content. -/
def Reads (w : Surroundings) (p : Path) (content : Package) : Prop :=
  '\x00' ∉ p.text.toList ∧ w.files.read p = .ok content

theorem readFile_eq (w : Surroundings) (p : Path) :
    readFile w p =
      if '\x00' ∈ p.text.toList then .error .nulInPath else (w.files.read p).mapError .file := by
  rw [readFile, checkPath]
  simp only [List.contains_iff_mem]
  split <;> rfl

theorem readFile_eq_ok_iff {w : Surroundings} {p : Path} {content : Package} :
    readFile w p = .ok content ↔ Reads w p content := by
  rw [readFile_eq, Reads]
  split
  · rename_i hnul
    exact iff_of_false nofun fun h => h.1 hnul
  · rename_i hnul
    rw [Logged.mapError_eq_ok, and_iff_right hnul]

/-- A file holds a text in UTF-8. All its line ends are read as line feeds. -/
def IsTextOf (text : String) (octets : List UInt8) : Prop :=
  ∃ s : List Char, octets = s.flatMap String.utf8EncodeChar ∧
    text = String.ofList (unifyLineEnds s)

theorem documentText_eq_ok_iff {octets : List UInt8} {text : String} :
    documentText octets = .ok text ↔ IsTextOf text octets := by
  rw [documentText, IsTextOf]
  simp only [← ofOctets_eq_ok_iff]
  cases ofOctets octets with
  | ok s =>
    constructor
    · rintro ⟨⟩
      exact ⟨s, rfl, rfl⟩
    · rintro ⟨_, ⟨⟩, rfl⟩
      rfl
  | error f => exact iff_of_false nofun (by rintro ⟨_, ⟨⟩, _⟩)

theorem readText_eq (w : Surroundings) (p : Path) :
    readText w p =
      if '\x00' ∈ p.text.toList then .error .nulInPath
      else match w.files.read p with
        | .error f => .error (.file f)
        | .ok content => (documentText (w.octets content)).mapError .noText := by
  rw [readText, readFile_eq]
  split
  · rfl
  · cases w.files.read p <;> rfl

theorem readText_eq_ok_iff {w : Surroundings} {p : Path} {text : String} :
    readText w p = .ok text ↔ ∃ content, Reads w p content ∧ IsTextOf text (w.octets content) := by
  simp only [readText_eq, Reads]
  split
  · rename_i hnul
    exact iff_of_false nofun (by rintro ⟨_, ⟨h, -⟩, -⟩; exact h hnul)
  · rename_i hnul
    simp only [and_iff_right hnul]
    cases w.files.read p with
    | error f => exact iff_of_false nofun (by rintro ⟨_, ⟨⟩, -⟩)
    | ok content =>
      simp only [Logged.mapError_eq_ok, documentText_eq_ok_iff, Except.ok.injEq, exists_eq_left']

/-- What a command line gives for a template: the content of a file, or nothing. -/
inductive TemplateOf (w : Surroundings) (a : Arguments) : Option Package → Prop where
  | none (h : ∀ s, ¬IsGiven a.template s) : TemplateOf w a none
  | file {s : String} {p : Path} {content : Package} (h : IsGiven a.template s)
    (hnames : Names w s p) (hreads : Reads w p content) : TemplateOf w a (some content)

theorem readTemplate?_eq_ok_iff {w : Surroundings} {a : Arguments} {template : Option Package} :
    readTemplate? w a = .ok template ↔ TemplateOf w a template := by
  rw [readTemplate?]
  cases hgiven : given a.template with
  | none =>
    have hnone := given_eq_none_iff.mp hgiven
    constructor
    · rintro ⟨⟩
      exact .none hnone
    · intro h
      cases h with
      | none _ => rfl
      | file h _ _ => exact absurd h (hnone _)
  | some s =>
    have hs := given_eq_some_iff.mp hgiven
    simp only [Logged.exceptBind_eq_ok, path_eq_ok_iff, readFile_eq_ok_iff]
    constructor
    · rintro ⟨p, hnames, content, hreads, ⟨⟩⟩
      exact .file hs hnames hreads
    · intro h
      cases h with
      | none h => exact absurd hs (h s)
      | file h hnames hreads =>
        obtain rfl := Option.some.inj (hs.1.symm.trans h.1)
        exact ⟨_, hnames, _, hreads, rfl⟩

end SlideDeck.CommandLine
