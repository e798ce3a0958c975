import Mathlib.Data.List.Infix
import SlideDeck.Deck.Workshop
import SlideDeck.Proofs.Deck.Build

/-!
A builder that is used again. A build only adds to what was made before, and touches nothing of it
but the slides and the list that it starts itself; so it comes to what a new builder would come to,
and what callers hold on to changes by their own hands only.
-/

namespace SlideDeck.Deck

namespace Workshop

/-- What callers do: they have slides built, and they change slides that they hold on to. -/
inductive Act where
  | build (ps : List Passage)
  | change (place : Nat) (f : Slide → Slide)

def act (w : Workshop) : Act → Workshop
  | .build ps => (w.build ps).2
  | .change place f => w.change place f

def after (w : Workshop) (acts : List Act) : Workshop := acts.foldl act w

/-- What an act makes of the slide at a place. -/
def Act.changed (place : Nat) (s : Slide) : Act → Slide
  | .build _ => s
  | .change p f => if p = place then f s else s

/-- Messages are told, and put into the list of the builder. -/
def tell (w : Workshop) (messages : List String) : Workshop :=
  { w with
    lists := w.lists.modify w.kept (· ++ messages)
    notices := w.notices ++ messages.map .badShape }

@[simp]
theorem tell_nil (w : Workshop) : w.tell [] = w := by
  have hlists : w.lists.modify w.kept (· ++ []) = w.lists := by
    simp only [List.append_nil]
    exact List.modify_id _ _
  rw [tell, hlists, List.map_nil, List.append_nil]

@[simp]
theorem tell_tell (w : Workshop) (first second : List String) :
    (w.tell first).tell second = w.tell (first ++ second) := by
  have hlists : (w.lists.modify w.kept (· ++ first)).modify w.kept (· ++ second) =
      w.lists.modify w.kept (· ++ (first ++ second)) := by
    rw [List.modify_modify_eq]
    simp only [Function.comp_def, List.append_assoc]
  simp only [tell, hlists, List.map_append, List.append_assoc]

theorem foldl_report (w : Workshop) (messages : List String) :
    messages.foldl report w = w.tell messages := by
  induction messages generalizing w with
  | nil => exact (tell_nil w).symm
  | cons m ms ih =>
    have hreport : w.report m = w.tell [m] := rfl
    rw [List.foldl_cons, ih, hreport, tell_tell, List.singleton_append]

theorem modify_length_append {α : Type} (xs : List α) (x : α) (f : α → α) :
    (xs ++ [x]).modify xs.length f = xs ++ [f x] := by
  induction xs with
  | nil => rfl
  | cons y xs ih => rw [List.cons_append, List.length_cons, List.modify_succ_cons, ih]; rfl

/-- A passage changes the slide that was opened last. -/
theorem add_last (older : List Slide) (s : Slide) (lists : List (List String)) (kept : Nat)
    (notices : List Notice) (c : Contribution) :
    add ⟨older ++ [s], lists, kept, notices⟩ older.length c =
      tell ⟨older ++ [s.add c], lists, kept, notices⟩ c.diagnostics := by
  rw [add, foldl_report, change, modify_length_append]

theorem toList_place (current : Option Slide) (place : Nat) :
    (current.map fun _ => place).toList = List.range' place current.toList.length := by
  cases current <;> rfl

/-- A build makes its slides one behind the other, behind all that there are. It stops where the
passages stop it, and all that it tells is its diagnostics. -/
theorem buildOn_eq (current : Option Slide) (ps : List Passage) (older : List Slide)
    (lists : List (List String)) (kept : Nat) (notices : List Notice) (done : List Nat) :
    ∃ made, buildOn ⟨older ++ current.toList, lists, kept, notices⟩ done
        (current.map fun _ => older.length) ps =
      ((buildFrom current ps).slides.map fun slides =>
          done ++ List.range' older.length slides.length,
        tell ⟨older ++ made, lists, kept, notices⟩ (buildFrom current ps).diagnostics) ∧
      ∀ slides, (buildFrom current ps).slides = .ok slides → made = slides := by
  fun_induction buildFrom current ps generalizing older lists notices done with
  | case1 current =>
    refine ⟨current.toList, ?_, fun slides h => Except.ok.inj h⟩
    rw [buildOn, toList_place, tell_nil]
    rfl
  | case2 current title ps rest ih =>
    obtain ⟨made, hbuild, hmade⟩ := ih (older ++ current.toList) lists notices
      (done ++ List.range' older.length current.toList.length)
    refine ⟨current.toList ++ made, ?_, fun slides h => ?_⟩
    · rw [buildOn, toList_place, openSlide]
      refine hbuild.trans ?_
      simp only [rest, List.append_assoc older]
      cases (buildFrom (some { title }) ps).slides <;> simp [Except.map]
    · cases hrest : rest.slides with
      | error n => simp [hrest, Except.map] at h
      | ok slides' =>
        simp only [hrest, Except.map, Except.ok.injEq] at h
        rw [← h, hmade slides' hrest]
  | case3 p ps h ih =>
    obtain ⟨made, hbuild, hmade⟩ := ih older lists notices done
    refine ⟨made, ?_, hmade⟩
    rw [← hbuild, Option.map_none, buildOn]
    exact h
  | case4 slide p ps h n hp =>
    refine ⟨[slide], ?_, fun slides h => nomatch h⟩
    rw [Option.map_some, buildOn, hp, tell_nil]
    · rfl
    · exact h
  | case5 slide p ps h c hp rest ih =>
    obtain ⟨made, hbuild, hmade⟩ := ih older
      (lists.modify kept (· ++ c.diagnostics)) (notices ++ c.diagnostics.map .badShape) done
    refine ⟨made, ?_, hmade⟩
    rw [Option.map_some, buildOn, hp, Option.toList_some]
    · simp only [add_last]
      refine hbuild.trans ?_
      have htell := tell_tell ⟨older ++ made, lists, kept, notices⟩ c.diagnostics rest.diagnostics
      exact Prod.ext rfl htell
    · exact h

/-- What a build leaves: new slides, and a new list with what was told. -/
theorem exists_build (w : Workshop) (ps : List Passage) :
    ∃ made, w.build ps =
      ((Deck.build ps).slides.map fun slides => List.range' w.slides.length slides.length,
        ⟨w.slides ++ made, w.lists ++ [(Deck.build ps).diagnostics], w.lists.length,
          w.notices ++ (Deck.build ps).diagnostics.map .badShape⟩) ∧
      ∀ slides, (Deck.build ps).slides = .ok slides → made = slides := by
  obtain ⟨made, hbuild, hmade⟩ :=
    buildOn_eq none ps w.slides (w.lists ++ [[]]) w.lists.length w.notices []
  refine ⟨made, ?_, hmade⟩
  rw [Option.toList_none, List.append_nil, tell, modify_length_append] at hbuild
  exact hbuild

theorem filterMap_range' {α : Type} (xs ys : List α) :
    (List.range' xs.length ys.length).filterMap ((xs ++ ys)[·]?) = ys := by
  induction ys generalizing xs with
  | nil => rfl
  | cons y ys ih =>
    have hrest := ih (xs ++ [y])
    rw [List.length_append, List.length_singleton, List.append_assoc] at hrest
    have hfirst : (xs ++ y :: ys)[xs.length]? = some y := by simp
    rw [List.length_cons, List.range'_succ, List.filterMap_cons_some hfirst]
    exact congrArg (y :: ·) hrest

/-- The slides of a build and its diagnostics are those of its passages, whatever was made
before. -/
theorem build_read (w : Workshop) (ps : List Passage) :
    (w.build ps).1.map (w.build ps).2.slidesAt = (Deck.build ps).slides ∧
      (w.build ps).2.diagnostics = (Deck.build ps).diagnostics := by
  obtain ⟨made, hbuild, hmade⟩ := exists_build w ps
  rw [hbuild]
  constructor
  · cases hslides : (Deck.build ps).slides with
    | error n => rfl
    | ok slides =>
      rw [hmade slides hslides]
      exact congrArg Except.ok (filterMap_range' w.slides slides)
  · simp [diagnostics]

theorem isPrefix_mapIdx {α : Type} {xs ys : List α} (f : Nat → α → α) (h : xs <+: ys) :
    xs.mapIdx f <+: ys.mapIdx f := by
  obtain ⟨zs, rfl⟩ := h
  rw [List.mapIdx_append]
  exact List.prefix_append _ _

theorem modify_eq_mapIdx {α : Type} (xs : List α) (place : Nat) (f : α → α) :
    xs.modify place f = xs.mapIdx fun i x => if place = i then f x else x := by
  apply List.ext_getElem?
  intro i
  rw [List.getElem?_modify, List.getElem?_mapIdx]
  split <;> rfl

theorem mapIdx_eq_self {α : Type} (xs : List α) : xs.mapIdx (fun _ x => x) = xs := by
  rw [List.mapIdx_eq_iff]
  intro i
  rw [Option.map_id']

/-- An act changes nothing that is there but the slide that a caller changes. -/
theorem isPrefix_act (w : Workshop) (a : Act) :
    w.slides.mapIdx (fun i s => a.changed i s) <+: (w.act a).slides ∧
      w.lists <+: (w.act a).lists := by
  cases a with
  | build ps =>
    obtain ⟨made, hbuild, -⟩ := exists_build w ps
    have hsame : w.slides.mapIdx (fun i s => (Act.build ps).changed i s) = w.slides :=
      mapIdx_eq_self w.slides
    rw [hsame, act, hbuild]
    exact ⟨List.prefix_append _ _, List.prefix_append _ _⟩
  | change place f =>
    rw [act, change, modify_eq_mapIdx]
    exact ⟨List.prefix_rfl, List.prefix_rfl⟩

/-- What is there stays there, slides as their holders change them. -/
theorem isPrefix_after (w : Workshop) (acts : List Act) :
    w.slides.mapIdx (fun i s => acts.foldl (Act.changed i) s) <+: (w.after acts).slides ∧
      w.lists <+: (w.after acts).lists := by
  induction acts generalizing w with
  | nil =>
    have hsame : w.slides.mapIdx (fun i s => [].foldl (Act.changed i) s) = w.slides :=
      mapIdx_eq_self w.slides
    rw [hsame]
    exact ⟨List.prefix_rfl, List.prefix_rfl⟩
  | cons a acts ih =>
    obtain ⟨hslides, hlists⟩ := isPrefix_act w a
    obtain ⟨hslides', hlists'⟩ := ih (w.act a)
    refine ⟨?_, hlists.trans hlists'⟩
    have hfirst := isPrefix_mapIdx (fun i s => acts.foldl (Act.changed i) s) hslides
    rw [List.mapIdx_mapIdx] at hfirst
    exact hfirst.trans hslides'

/-- Whatever a builder was used for before, a build comes to what a new builder comes to: the slides
of its passages, or the number at which they stop it, and the reports up to there. These are what it
tells, as errors. What was made before stays as it is, and what the build makes is new, and changes
later on by the hands of its holders only. -/
theorem build_alone (w : Workshop) (before : List Act) (ps : List Passage) (later : List Act) :
    let first := w.after before
    let made := (first.build ps).2
    let last := made.after later
    let fresh := ({} : Workshop).build ps
    ((first.build ps).1.map made.slidesAt = fresh.1.map fresh.2.slidesAt ∧
      made.diagnostics = fresh.2.diagnostics) ∧
    (fresh.1.map fresh.2.slidesAt = (Deck.build ps).slides ∧
      fresh.2.diagnostics = reportsOf (opened ps)) ∧
    (∃ told, made.notices = first.notices ++ told ∧
      told.map (fun n => (n.level, n.text)) = made.diagnostics.map fun d => (Level.error, d)) ∧
    ((first.build ps).1 = (Deck.build ps).slides.map (fun slides =>
        List.range' first.slides.length slides.length) ∧ made.kept = first.lists.length ∧
      first.slides <+: made.slides ∧ first.lists <+: made.lists) ∧
    made.slides.mapIdx (fun i s => later.foldl (Act.changed i) s) <+: last.slides ∧
      made.lists <+: last.lists := by
  intro first made last fresh
  obtain ⟨hslides, hdiagnostics⟩ := build_read first ps
  obtain ⟨hfresh, hfreshDiagnostics⟩ := build_read {} ps
  obtain ⟨new, hbuild, -⟩ := exists_build first ps
  have hmade : made = ⟨first.slides ++ new, first.lists ++ [(Deck.build ps).diagnostics],
      first.lists.length, first.notices ++ (Deck.build ps).diagnostics.map .badShape⟩ :=
    congrArg Prod.snd hbuild
  refine ⟨⟨hslides.trans hfresh.symm, hdiagnostics.trans hfreshDiagnostics.symm⟩,
    ⟨hfresh, ?_⟩, ⟨(Deck.build ps).diagnostics.map .badShape, ?_, ?_⟩,
    ⟨congrArg Prod.fst hbuild, ?_, ?_, ?_⟩, isPrefix_after made later⟩
  · rw [hfreshDiagnostics, build_eq]
  · rw [hmade]
  · rw [hdiagnostics, List.map_map]
    rfl
  · rw [hmade]
  · rw [hmade]
    exact List.prefix_append _ _
  · rw [hmade]
    exact List.prefix_append _ _

/-- The report of one build is none of the next. -/
example :
    let first := (({} : Workshop).build [.heading 1 "T", .paragraph "!shape[nope](1)" []]).2
    first.diagnostics.length = 1 ∧ (first.build [.heading 1 "T"]).2.diagnostics = [] := by
  decide +kernel

end Workshop

end SlideDeck.Deck
