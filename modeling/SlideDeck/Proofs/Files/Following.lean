import SlideDeck.Files.FileTree

/-!
What following a path comes to, told from what one component does: it leads to another directory, or
it cannot be looked up, or nothing or a file is found. A tree rejects a path for its length, or in a
directory that the components in front lead to: if that directory may not be searched, or if the
name that is looked up there is too long.
-/

namespace SlideDeck.Files.FileTree

variable {α : Type}

/-- Why no entry is looked up under a name: its directory may not be searched, or the name is too
long. -/
inductive Bars (t : FileTree α) (there : Path) (c : String) : FaultKind → Prop where
  | denied (h : t.mayRead there = false) : Bars t there c .denied
  | nameTooLong (hread : t.mayRead there) (h : maxComponent < c.utf8ByteSize) :
    Bars t there c .nameTooLong

/-- A path that a tree cannot follow: it is too long as a whole, or on its way, in a directory, a
name cannot be looked up. -/
inductive Rejects (t : FileTree α) (p : Path) : FaultKind → Prop where
  | nameTooLong (h : maxPath < p.text.utf8ByteSize) : Rejects t p .nameTooLong
  | barred {before after : List String} {c : String} {there : Path} {k : FaultKind}
    (hshort : p.text.utf8ByteSize ≤ maxPath) (hparts : p.parts = before ++ c :: after)
    (hwalk : t.walk (start p) before = .ok (there, .directory)) (h : t.Bars there c k) :
    Rejects t p k

/-- The path of what goes by a name in a directory. -/
def within (here : Path) (name : String) : Path := { here with parts := here.parts ++ [name] }

/-- A name is looked up in a directory, and what stands there is found, if anything does. -/
structure LooksUp (t : FileTree α) (here : Path) (c : String) (found : Option (Entry α)) :
    Prop where
  read : t.mayRead here
  name : c ≠ ".."
  short : c.utf8ByteSize ≤ maxComponent
  entry : t.get? (within here c) = found

/-- A component leads from one directory to another. -/
inductive Leads (t : FileTree α) (here : Path) (c : String) : Path → Prop where
  | up (hread : t.mayRead here) (hc : c = "..") : Leads t here c (above here)
  | down (h : t.LooksUp here c (some .directory)) : Leads t here c (within here c)

section

variable {t t' : FileTree α} {here there next next' : Path} {c : String} {k : FaultKind}

theorem Bars.kind (h : t.Bars there c k) : k = .nameTooLong ∨ k = .denied := by
  cases h with
  | denied _ => exact Or.inr rfl
  | nameTooLong _ _ => exact Or.inl rfl

theorem walk_nil (t : FileTree α) (here : Path) : t.walk here [] = .ok (here, .directory) := by
  rw [walk]

theorem walk_cons_eq (t : FileTree α) (here : Path) (c : String) (cs : List String) :
    t.walk here (c :: cs) =
      if t.mayRead here = false then .error .denied
      else if c = ".." then t.walk (above here) cs
      else if maxComponent < c.utf8ByteSize then .error .nameTooLong
      else match t.get? (within here c) with
        | none => .error .missing
        | some .directory => t.walk (within here c) cs
        | some (.file a) =>
          if cs.isEmpty then .ok (within here c, .file a) else .error .notDirectory := by
  rw [walk]
  cases t.mayRead here <;> rfl

theorem Bars.walk (h : t.Bars here c k) (cs : List String) : t.walk here (c :: cs) = .error k := by
  rw [walk_cons_eq]
  cases h with
  | denied hread => rw [if_pos hread]
  | nameTooLong hread hlong =>
    have hup : c ≠ ".." := by
      rintro rfl
      exact absurd hlong (by decide)
    rw [if_neg (by simp [hread]), if_neg hup, if_pos hlong]

theorem LooksUp.walk {found : Option (Entry α)} (h : t.LooksUp here c found) (cs : List String) :
    t.walk here (c :: cs) =
      match t.get? (within here c) with
      | none => .error .missing
      | some .directory => t.walk (within here c) cs
      | some (.file a) =>
        if cs.isEmpty then .ok (within here c, .file a) else .error .notDirectory := by
  rw [walk_cons_eq, if_neg (by simp [h.read]), if_neg h.name, if_neg (Nat.not_lt.mpr h.short)]

theorem LooksUp.walk_none (h : t.LooksUp here c none) (cs : List String) :
    t.walk here (c :: cs) = .error .missing := by
  rw [h.walk, h.entry]

theorem LooksUp.walk_file {a : α} (h : t.LooksUp here c (some (.file a))) (cs : List String) :
    t.walk here (c :: cs) =
      if cs.isEmpty then .ok (within here c, .file a) else .error .notDirectory := by
  rw [h.walk, h.entry]

theorem Leads.walk (h : t.Leads here c next) (cs : List String) :
    t.walk here (c :: cs) = t.walk next cs := by
  cases h with
  | up hread hc => rw [walk_cons_eq, if_neg (by simp [hread]), if_pos hc]
  | down h => rw [h.walk, h.entry]

/-- What one component does: it leads to a directory, or it cannot be looked up, or nothing or a
file is found. -/
theorem component_cases (t : FileTree α) (here : Path) (c : String) :
    (∃ next, t.Leads here c next) ∨ (∃ k, t.Bars here c k) ∨
      t.LooksUp here c none ∨ ∃ a, t.LooksUp here c (some (.file a)) := by
  cases hread : t.mayRead here with
  | false => exact .inr (.inl ⟨_, .denied hread⟩)
  | true =>
    by_cases hup : c = ".."
    · exact .inl ⟨_, .up hread hup⟩
    · by_cases hlong : maxComponent < c.utf8ByteSize
      · exact .inr (.inl ⟨_, .nameTooLong hread hlong⟩)
      · have hfound : t.LooksUp here c (t.get? (within here c)) :=
          ⟨hread, hup, Nat.le_of_not_lt hlong, rfl⟩
        cases hentry : t.get? (within here c) with
        | none => exact .inr (.inr (.inl (hentry ▸ hfound)))
        | some entry =>
          rw [hentry] at hfound
          cases entry with
          | directory => exact .inl ⟨_, .down hfound⟩
          | file a => exact .inr (.inr (.inr ⟨a, hfound⟩))

/-- Where a component leads to is told by the component and its directory alone. -/
theorem Leads.unique (h : t.Leads here c next) (h' : t'.Leads here c next') : next = next' := by
  cases h with
  | up _ hc =>
    cases h' with
    | up _ _ => rfl
    | down h' => exact absurd hc h'.name
  | down h =>
    cases h' with
    | up _ hc => exact absurd hc h.name
    | down _ => rfl

/-- Components lead to a directory one by one. -/
theorem walk_cons_directory_iff {cs : List String} :
    t.walk here (c :: cs) = .ok (there, .directory) ↔
      ∃ next, t.Leads here c next ∧ t.walk next cs = .ok (there, .directory) := by
  refine ⟨fun h => ?_, fun ⟨next, hleads, h⟩ => (hleads.walk cs).trans h⟩
  obtain ⟨next, hleads⟩ | ⟨k, hbars⟩ | hnone | ⟨a, hfile⟩ := component_cases t here c
  · exact ⟨next, hleads, (hleads.walk cs).symm.trans h⟩
  · cases (hbars.walk cs).symm.trans h
  · cases (hnone.walk_none cs).symm.trans h
  · rw [hfile.walk_file] at h
    split at h <;> cases h

/-- Behind a directory, following goes on from there. -/
theorem walk_append {front : List String} (cs : List String)
    (h : t.walk here front = .ok (there, .directory)) :
    t.walk here (front ++ cs) = t.walk there cs := by
  induction front generalizing here with
  | nil =>
    rw [walk_nil] at h
    cases h
    rfl
  | cons c front ih =>
    obtain ⟨next, hleads, hrest⟩ := walk_cons_directory_iff.mp h
    rw [List.cons_append, hleads.walk, ih hrest]

end

/-- Following components comes to a name that cannot be looked up if and only if those in front of
it lead to its directory. -/
theorem walk_eq_error_iff (t : FileTree α) (here : Path) (cs : List String) (k : FaultKind) :
    (t.walk here cs = .error k ∧ (k = .nameTooLong ∨ k = .denied)) ↔
      ∃ before c after there, cs = before ++ c :: after ∧
        t.walk here before = .ok (there, .directory) ∧ t.Bars there c k := by
  constructor
  · rintro ⟨h, hk⟩
    induction cs generalizing here with
    | nil =>
      rw [walk_nil] at h
      cases h
    | cons c cs ih =>
      obtain ⟨next, hleads⟩ | ⟨k', hbars⟩ | hnone | ⟨a, hfile⟩ := component_cases t here c
      · obtain ⟨before, d, after, there, rfl, hb, hd⟩ := ih next ((hleads.walk cs).symm.trans h)
        exact ⟨c :: before, d, after, there, rfl, (hleads.walk before).trans hb, hd⟩
      · cases (hbars.walk cs).symm.trans h
        exact ⟨[], c, cs, here, rfl, walk_nil t here, hbars⟩
      · cases (hnone.walk_none cs).symm.trans h
        simp at hk
      · rw [hfile.walk_file] at h
        split at h <;> cases h
        simp at hk
  · rintro ⟨before, c, after, there, rfl, hb, hd⟩
    exact ⟨(walk_append (c :: after) hb).trans (hd.walk after), hd.kind⟩

theorem resolve_eq_error_iff (t : FileTree α) (p : Path) (k : FaultKind) :
    (t.resolve p = .error k ∧ (k = .nameTooLong ∨ k = .denied)) ↔ t.Rejects p k := by
  rw [resolve]
  split
  · rename_i hlong
    constructor
    · rintro ⟨⟨⟩, -⟩
      exact .nameTooLong hlong
    · intro h
      cases h with
      | nameTooLong _ => exact ⟨rfl, .inl rfl⟩
      | barred hshort _ _ _ => exact absurd hlong (Nat.not_lt.mpr hshort)
  · rename_i hshort
    rw [walk_eq_error_iff]
    constructor
    · rintro ⟨before, c, after, there, hparts, hwalk, hbars⟩
      exact .barred (Nat.le_of_not_lt hshort) hparts hwalk hbars
    · intro h
      cases h with
      | nameTooLong hlong => exact absurd hlong hshort
      | barred _ hparts hwalk hbars => exact ⟨_, _, _, _, hparts, hwalk, hbars⟩

/-- Looking for a file fails only at a path that is rejected. -/
theorem isFile_eq_error_iff (t : FileTree α) (p : Path) (f : Fault) :
    t.isFile p = .error f ↔ ∃ k, t.Rejects p k ∧ f = ⟨k, p⟩ := by
  simp only [← resolve_eq_error_iff, isFile]
  cases t.resolve p with
  | ok place => obtain ⟨q, _ | a⟩ := place <;> simp
  | error k => cases k <;> simp [eq_comm, and_assoc]

/-- What can be read is a file. -/
theorem isFile_of_read {t : FileTree α} {p : Path} {a : α} (h : t.read p = .ok a) :
    t.isFile p = .ok true := by
  rw [read] at h
  rw [isFile]
  split at h
  · rename_i place entry hresolve
    rw [hresolve]
    split at h
    · cases h
    · cases entry with
      | file b => rfl
      | directory => cases h
  · cases h

end SlideDeck.Files.FileTree
