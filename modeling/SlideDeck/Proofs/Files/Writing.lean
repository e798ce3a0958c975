import SlideDeck.Proofs.Files.Following

/-!
What changes to a tree do to the files in it: making directories leaves all of them as they are, and
writing a file changes the one that its path leads to.
-/

namespace SlideDeck.Files

variable {α : Type}

def Entry.content? : Entry α → Option α
  | .directory => none
  | .file a => some a

namespace FileTree

variable {t t' : FileTree α}

/-- The file that stands at a place, with no path followed. -/
def fileAt? (t : FileTree α) (place : Path) : Option α := (t.get? place).bind Entry.content?

/-- Both trees hold the same files, whatever directories they have. -/
def SameFiles (t t' : FileTree α) : Prop := ∀ place, t'.fileAt? place = t.fileAt? place

theorem SameFiles.refl (t : FileTree α) : SameFiles t t := fun _ => rfl

theorem SameFiles.trans {t'' : FileTree α} (h : SameFiles t t') (h' : SameFiles t' t'') :
    SameFiles t t'' :=
  fun place => (h' place).trans (h place)

/-- Only entries count. -/
theorem fileAt?_eq (t : FileTree α) (place : Path) :
    t.fileAt? place =
      if place.parts.isEmpty then none else (t.entries.lookup place).bind Entry.content? := by
  rw [fileAt?, get?]
  split
  · rfl
  · cases t.entries.lookup place with
    | some e => rfl
    | none =>
      dsimp only
      split <;> rfl

theorem sameFiles_add_directory (t : FileTree α) (p : Path) :
    SameFiles t (t.add p .directory) := by
  intro place
  rw [fileAt?_eq, fileAt?_eq, add, List.lookup_append]
  cases t.entries.lookup place with
  | some e => rfl
  | none => cases hp : place == p <;> simp [List.lookup_cons, hp, Entry.content?]

theorem sameFiles_of_makeDirectory {p : Path} (h : t.makeDirectory p = .ok t') :
    SameFiles t t' := by
  rw [makeDirectory] at h
  split at h
  · rename_i place _
    cases h
    exact sameFiles_add_directory t place
  · split at h
    · cases h
      exact SameFiles.refl t
    · cases h

theorem sameFiles_attempt {r : Except Fault (FileTree α)} (h : ∀ t', r = .ok t' → SameFiles t t') :
    SameFiles t (t.attempt r).1 := by
  cases r with
  | ok changed => exact h changed rfl
  | error f => exact SameFiles.refl t

theorem sameFiles_attempt_makeDirectory (t : FileTree α) (p : Path) :
    SameFiles t (t.attempt (t.makeDirectory p)).1 :=
  sameFiles_attempt fun _ h => sameFiles_of_makeDirectory h

/-- Directories change no file, not even where one of them cannot be made. -/
theorem sameFiles_makeDirectoriesWithin (fuel : Nat) (t : FileTree α) (p : Path) :
    SameFiles t (makeDirectoriesWithin fuel t p).1 := by
  induction fuel generalizing p with
  | zero => exact sameFiles_attempt_makeDirectory t p
  | succ fuel ih =>
    rw [makeDirectoriesWithin]
    split
    · split
      · exact SameFiles.refl t
      · have habove := ih p.parent
        split
        · rename_i hmade
          rw [hmade] at habove
          exact habove.trans (sameFiles_attempt_makeDirectory _ p)
        · exact habove
    · exact sameFiles_attempt_makeDirectory t p

/-- The second tree has the directories of the first, and perhaps more, and they can be searched
alike. -/
structure Extends (t t' : FileTree α) : Prop where
  mayRead : t'.mayRead = t.mayRead
  directory : ∀ p, t.get? p = some .directory → t'.get? p = some .directory

theorem Extends.leads (h : Extends t t') {here next : Path} {c : String}
    (hl : t.Leads here c next) : t'.Leads here c next := by
  cases hl with
  | up hread hc => exact .up (h.mayRead ▸ hread) hc
  | down hl => exact .down { hl with
      read := h.mayRead ▸ hl.read
      entry := h.directory _ hl.entry }

/-- The directories that paths led to are still there. -/
theorem Extends.walk (h : Extends t t') {here there : Path} {cs : List String}
    (hw : t.walk here cs = .ok (there, .directory)) :
    t'.walk here cs = .ok (there, .directory) := by
  induction cs generalizing here with
  | nil => rwa [walk_nil] at hw ⊢
  | cons c cs ih =>
    obtain ⟨next, hleads, hrest⟩ := walk_cons_directory_iff.mp hw
    exact walk_cons_directory_iff.mpr ⟨next, h.leads hleads, ih hrest⟩

/-- The directory that components lead to is told by them alone. -/
theorem walk_directory_unique {here there there' : Path} {cs : List String}
    (h : t.walk here cs = .ok (there, .directory))
    (h' : t'.walk here cs = .ok (there', .directory)) : there = there' := by
  induction cs generalizing here with
  | nil =>
    rw [walk_nil] at h h'
    exact (Prod.mk.inj (Except.ok.inj h)).1.symm.trans (Prod.mk.inj (Except.ok.inj h')).1
  | cons c cs ih =>
    obtain ⟨next, hleads, hrest⟩ := walk_cons_directory_iff.mp h
    obtain ⟨next', hleads', hrest'⟩ := walk_cons_directory_iff.mp h'
    obtain rfl := hleads.unique hleads'
    exact ih hrest hrest'

/-- The last name of a path to a file is that of the file, in the directory that the others lead
to. -/
theorem walk_eq_file_iff (t : FileTree α) (here : Path) (cs : List String) (place : Path) (a : α) :
    t.walk here cs = .ok (place, .file a) ↔
      ∃ front c there, cs = front ++ [c] ∧ t.walk here front = .ok (there, .directory) ∧
        t.LooksUp there c (some (.file a)) ∧ place = within there c := by
  constructor
  · intro h
    induction cs generalizing here with
    | nil =>
      rw [walk_nil] at h
      cases h
    | cons c cs ih =>
      obtain ⟨next, hleads⟩ | ⟨k, hbars⟩ | hnone | ⟨b, hfile⟩ := component_cases t here c
      · obtain ⟨front, d, there, rfl, hfront, hd⟩ := ih next ((hleads.walk cs).symm.trans h)
        exact ⟨c :: front, d, there, rfl, (hleads.walk front).trans hfront, hd⟩
      · cases (hbars.walk cs).symm.trans h
      · cases (hnone.walk_none cs).symm.trans h
      · rw [hfile.walk_file] at h
        cases cs with
        | nil =>
          cases h
          exact ⟨[], c, here, rfl, walk_nil t here, hfile, rfl⟩
        | cons d ds => cases h
  · rintro ⟨front, c, there, rfl, hfront, hfile, rfl⟩
    exact (walk_append [c] hfront).trans (hfile.walk_file [])

theorem get?_of_resolve {p place : Path} {a : α} (h : t.resolve p = .ok (place, .file a)) :
    t.get? place = some (.file a) := by
  rw [resolve] at h
  split at h
  · cases h
  · obtain ⟨front, c, there, -, -, hfile, rfl⟩ := (walk_eq_file_iff ..).mp h
    exact hfile.entry

/-- Two names in one directory are those of two files. -/
theorem place_ne_of_name_ne {p q place place' : Path} {a b : α} (hparent : q.parent = p.parent)
    (hname : q.name? ≠ p.name?) (hp : t.resolve p = .ok (place, .file a))
    (hq : t'.resolve q = .ok (place', .file b)) : place' ≠ place := by
  rw [resolve] at hp hq
  split at hp
  · cases hp
  split at hq
  · cases hq
  obtain ⟨front, c, there, hparts, hfront, -, rfl⟩ := (walk_eq_file_iff ..).mp hp
  obtain ⟨front', c', there', hparts', hfront', -, rfl⟩ := (walk_eq_file_iff ..).mp hq
  have hroot : q.parent.root = p.parent.root := congrArg Path.root hparent
  have hstart : start q = start p := by
    rw [Path.parent, Path.parent] at hroot
    rw [start, start, hroot]
  have hfronts : front' = front := by
    have hdrop : q.parent.parts = p.parent.parts := congrArg Path.parts hparent
    rwa [Path.parent, Path.parent, hparts, hparts', List.dropLast_concat,
      List.dropLast_concat] at hdrop
  rw [hstart, hfronts] at hfront'
  obtain rfl := walk_directory_unique hfront hfront'
  intro heq
  have hlast : c' = c := by
    have := congrArg (fun x : Path => x.parts.getLast?) heq
    simpa [within] using this
  rw [Path.name?, Path.name?, hparts, hparts', hlast, List.getLast?_concat,
    List.getLast?_concat] at hname
  exact hname rfl

/-- Where a path leads to a file, it still does so if that file has another content and there are
at least the same directories. -/
theorem Extends.resolve_file (hext : Extends t t') {p place : Path} {a b : α}
    (hfile : t'.get? place = some (.file b)) (h : t.resolve p = .ok (place, .file a)) :
    t'.resolve p = .ok (place, .file b) := by
  rw [resolve] at h ⊢
  split at h
  · cases h
  · rename_i hshort
    obtain ⟨front, c, there, hparts, hfront, hold, rfl⟩ := (walk_eq_file_iff ..).mp h
    have hnew : t'.LooksUp there c (some (.file b)) :=
      { hold with read := hext.mayRead ▸ hold.read, entry := hfile }
    rw [if_neg hshort]
    exact (walk_eq_file_iff ..).mpr ⟨front, c, there, hparts, hext.walk hfront, hnew, rfl⟩

theorem lookup_replace (es : List (Path × Entry α)) (place : Path) (e : Entry α) (q : Path) :
    (es.map fun x => if x.1 = place then (place, e) else x).lookup q =
      if q = place then (es.lookup place).map fun _ => e else es.lookup q := by
  induction es with
  | nil => simp
  | cons x es ih =>
    obtain ⟨p, d⟩ := x
    rw [List.map_cons, List.lookup_cons]
    by_cases hp : p = place
    · subst hp
      by_cases hq : q = p
      · simp [hq]
      · have hne : (q == p) = false := beq_false_of_ne hq
        simp [List.lookup_cons, hne, hq, ih]
    · have hne : (place == p) = false := beq_false_of_ne fun h => hp h.symm
      rw [if_neg hp, List.lookup_cons, List.lookup_cons, ih, hne]
      by_cases hq : q = place
      · subst hq
        rw [hne, if_pos rfl]
      · rw [if_neg hq, if_neg hq]

/-- A file that is written in the place of another one. -/
theorem get?_replace {place : Path} {a b : α} (h : t.get? place = some (.file a)) (q : Path) :
    (t.replace place (.file b)).get? q = if q = place then some (.file b) else t.get? q := by
  have hpaths : (t.entries.map fun x => if x.1 = place then (place, Entry.file b) else x).any
      (fun e => isAbove q e.1) = t.entries.any fun e => isAbove q e.1 := by
    rw [List.any_map]
    congr 1
    funext x
    by_cases hx : x.1 = place <;> simp [hx]
  rw [get?, replace, lookup_replace, hpaths]
  by_cases hq : q = place
  · subst hq
    rw [get?] at h
    split at h
    · cases h
    · rename_i hparts
      cases hlookup : t.entries.lookup q with
      | none =>
        rw [hlookup] at h
        dsimp only at h
        split at h <;> cases h
      | some e => simp [hparts]
  · rw [if_neg hq, if_neg hq, get?]

/-- A file that is written where nothing was. -/
theorem get?_add_file {place : Path} {a : α} (h : t.get? place = none) (q : Path) :
    (t.add place (.file a)).get? q =
      if q = place then some (.file a)
      else if (t.get? q).isNone && isAbove q place then some .directory else t.get? q := by
  rw [get?, add, List.lookup_append, List.any_append]
  by_cases hq : q = place
  · subst hq
    rw [get?] at h
    split at h
    · cases h
    · rename_i hparts
      cases hlookup : t.entries.lookup q with
      | some e => simp [hlookup] at h
      | none => simp [hparts]
  · have hne : (q == place) = false := beq_false_of_ne hq
    rw [if_neg hq, get?]
    cases hparts : q.parts.isEmpty with
    | true => simp
    | false =>
      cases t.entries.lookup q with
      | some e => simp
      | none =>
        by_cases hany : t.entries.any fun e => isAbove q e.1
        · simp [List.lookup_cons, hne, hany]
        · by_cases habove : isAbove q place <;> simp [List.lookup_cons, hne, hany, habove]

theorem vacancy_eq_ok {p place : Path} (h : t.vacancy p = .ok place) :
    ∃ there name, t.resolve p = .error .missing ∧ p.name? = some name ∧
      t.resolve p.parent = .ok (there, .directory) ∧ place = within there name := by
  rw [vacancy] at h
  split at h
  · cases h
  · cases h
  · rename_i name hmissing hname
    split at h
    · rename_i there hparent
      split at h
      · cases h
        exact ⟨there, name, hmissing, hname, hparent, rfl⟩
      · cases h
    · cases h
    · cases h
  · cases h

theorem looksUp_of_walk_eq_missing {there : Path} {name : String}
    (h : t.walk there [name] = .error .missing) : t.LooksUp there name none := by
  obtain ⟨next, hleads⟩ | ⟨k, hbars⟩ | hnone | ⟨a, hfile⟩ := component_cases t there name
  · rw [hleads.walk, walk_nil] at h
    cases h
  · cases (hbars.walk []).symm.trans h
    simpa using hbars.kind
  · exact hnone
  · cases (hfile.walk_file []).symm.trans h

/-- Where there is room for a new entry, nothing stands yet, and the path leads to what is put
there. -/
theorem resolve_of_vacancy {p place : Path} (h : t.vacancy p = .ok place) :
    t.get? place = none ∧
      ∀ t' : FileTree α, Extends t t' →
        ∀ a, t'.get? place = some (.file a) → t'.resolve p = .ok (place, .file a) := by
  obtain ⟨there, name, hmissing, hname, hparent, rfl⟩ := vacancy_eq_ok h
  have hparts : p.parts = p.parent.parts ++ [name] := by
    obtain ⟨front, hfront⟩ := List.getLast?_eq_some_iff.mp hname
    rw [Path.parent, hfront, List.dropLast_concat]
  have hstart : start p = start p.parent := rfl
  rw [resolve] at hmissing hparent
  split at hmissing
  · cases hmissing
  · rename_i hshort
    split at hparent
    · cases hparent
    · rw [hparts, hstart, walk_append [name] hparent] at hmissing
      have hvacant := looksUp_of_walk_eq_missing hmissing
      refine ⟨hvacant.entry, fun t' hext a ha => ?_⟩
      have hfile : t'.LooksUp there name (some (.file a)) :=
        { hvacant with read := hext.mayRead ▸ hvacant.read, entry := ha }
      rw [resolve, if_neg hshort, hparts]
      exact (walk_eq_file_iff ..).mpr ⟨_, name, there, rfl, hext.walk hparent, hfile, rfl⟩

/-- A file that is written stands where its path leads to, and all other files are as before. -/
theorem write_eq_ok {p : Path} {a : α} (h : t.write p a = .ok t') :
    ∃ place, t'.resolve p = .ok (place, .file a) ∧
      ∀ q, t'.fileAt? q = if q = place then some a else t.fileAt? q := by
  rw [write] at h
  split at h
  · cases h
  · rename_i place b hfile
    split at h
    · cases h
      have hentry := get?_of_resolve hfile
      have hget := get?_replace (b := a) hentry
      have hext : Extends t (t.replace place (.file a)) := by
        refine ⟨rfl, fun q hq => ?_⟩
        have hne : q ≠ place := by
          rintro rfl
          rw [hentry] at hq
          cases hq
        rw [hget, if_neg hne, hq]
      refine ⟨place, hext.resolve_file (by rw [hget, if_pos rfl]) hfile, fun q => ?_⟩
      rw [fileAt?, hget, fileAt?]
      split <;> rfl
    · cases h
  · split at h
    · rename_i place hvacant
      cases h
      obtain ⟨hnone, hresolve⟩ := resolve_of_vacancy hvacant
      have hget := get?_add_file (a := a) hnone
      have hext : Extends t (t.add place (.file a)) := by
        refine ⟨rfl, fun q hq => ?_⟩
        have hne : q ≠ place := by
          rintro rfl
          rw [hnone] at hq
          cases hq
        rw [hget, if_neg hne, hq]
        rfl
      refine ⟨place, hresolve _ hext a (by rw [hget, if_pos rfl]), fun q => ?_⟩
      rw [fileAt?, hget, fileAt?]
      split
      · rfl
      · split
        · rename_i habove
          rw [Bool.and_eq_true, Option.isNone_iff_eq_none] at habove
          rw [habove.1]
          rfl
        · rfl
    · cases h

end FileTree

end SlideDeck.Files
