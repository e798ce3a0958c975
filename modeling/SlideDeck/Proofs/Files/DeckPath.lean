import SlideDeck.Files.Path
import SlideDeck.Proofs.Text.Ascii
import SlideDeck.Proofs.Text.Lines

/-!
The path of the deck that is made from a document. A path that is read from a text is told by its
text, so two such paths differ as soon as their names do.
-/

namespace SlideDeck.Files

open Text

namespace Path

/-- What a component of a path can be. -/
def IsComponent (c : String) : Prop := c ≠ "" ∧ c ≠ "." ∧ '/' ∉ c.toList

/-- A path of the form that is read from texts. -/
def IsPlain (p : Path) : Prop := ∀ c ∈ p.parts, IsComponent c

/-- The components between the slashes of a text. -/
def components (s : List Char) : List String :=
  ((splitOn '/' s).map String.ofList).filter fun c => c ≠ "" && c ≠ "."

theorem isPlain_ofString (s : String) : (ofString s).IsPlain := by
  intro c hc
  obtain ⟨hpart, hnot⟩ := List.mem_filter.mp hc
  obtain ⟨part, hmem, rfl⟩ := List.mem_map.mp hpart
  simp only [ne_eq, Bool.and_eq_true, decide_eq_true_eq] at hnot
  refine ⟨hnot.1, hnot.2, ?_⟩
  rw [String.toList_ofList]
  exact not_mem_of_mem_splitOn hmem

theorem components_slash (s : List Char) : components ('/' :: s) = components s := by
  rw [components, splitOn_cons, if_pos (beq_self_eq_true _)]
  rfl

/-- Components that stand between slashes are found again. -/
theorem components_intercalate {cs : List String} (h : ∀ c ∈ cs, IsComponent c) :
    components (String.intercalate "/" cs).toList = cs := by
  have hself : cs.filter (fun c => c ≠ "" && c ≠ ".") = cs :=
    List.filter_eq_self.mpr fun c hc => by simp [(h c hc).1, (h c hc).2.1]
  by_cases hcs : cs = []
  · subst hcs
    decide +kernel
  · have hslash : ∀ l ∈ cs.map String.toList, '/' ∉ l := by
      rw [List.forall_mem_map]
      exact fun c hc => (h c hc).2.2
    have hsplit : splitOn '/' (String.intercalate "/" cs).toList = cs.map String.toList := by
      rw [String.toList_intercalate, splitOn_eq]
      exact List.splitOn_intercalate '/' hslash (mt List.map_eq_nil_iff.mp hcs)
    rw [components, hsplit, List.map_map]
    simpa [Function.comp_def] using hself

theorem head?_intercalate {cs : List String} (h : ∀ c ∈ cs, IsComponent c) :
    (String.intercalate "/" cs).toList.head? ≠ some '/' := by
  cases cs with
  | nil => nofun
  | cons c cs =>
    obtain ⟨hne, -, hslash⟩ := h c List.mem_cons_self
    obtain ⟨d, ds, hd⟩ := List.exists_cons_of_ne_nil (mt String.toList_eq_nil_iff.mp hne)
    have hfront : ∃ s, (String.intercalate "/" (c :: cs)).toList = c.toList ++ s := by
      cases cs with
      | nil => exact ⟨[], by rw [String.intercalate_singleton, List.append_nil]⟩
      | cons e cs =>
        rw [String.intercalate_cons_cons, String.toList_append, String.toList_append,
          List.append_assoc]
        exact ⟨_, rfl⟩
    obtain ⟨s, hs⟩ := hfront
    rw [hs, hd, List.cons_append, List.head?_cons, ne_eq, Option.some.injEq]
    rintro rfl
    exact hslash (hd ▸ List.mem_cons_self)

/-- The slashes in front are the root. -/
theorem ofString_append (root : Root) {s : String} (h : s.toList.head? ≠ some '/') :
    ofString (root.text ++ s) = ⟨root, components s.toList⟩ := by
  have hnone : s.toList.takeWhile (· == '/') = [] := by
    cases hs : s.toList with
    | nil => rfl
    | cons c cs =>
      rw [hs] at h
      exact List.takeWhile_cons_of_neg (by simpa using h)
  have hslash (t : List Char) :
      ('/' :: t).takeWhile (· == '/') = '/' :: t.takeWhile (· == '/') := rfl
  have hof (t : String) : ofString t =
      ⟨if (t.toList.takeWhile (· == '/')).length = 0 then .relative
        else if (t.toList.takeWhile (· == '/')).length = 2 then .double else .single,
        components t.toList⟩ := rfl
  rw [hof, String.toList_append]
  cases root with
  | relative =>
    have htext : Root.relative.text.toList = [] := rfl
    rw [htext, List.nil_append, hnone]
    rfl
  | single =>
    have htext : Root.single.text.toList = ['/'] := rfl
    rw [htext, List.singleton_append, components_slash, hslash, hnone]
    rfl
  | double =>
    have htext : Root.double.text.toList = ['/', '/'] := rfl
    rw [htext, List.cons_append, List.singleton_append, components_slash, components_slash,
      hslash, hslash, hnone]
    rfl

/-- Such a path is read back from its text. -/
theorem ofString_text {p : Path} (h : p.IsPlain) : ofString p.text = p := by
  obtain ⟨root, parts⟩ := p
  rw [text]
  split
  · rename_i hempty
    rw [Bool.and_eq_true, decide_eq_true_eq, List.isEmpty_iff] at hempty
    obtain ⟨rfl, rfl⟩ := hempty
    decide +kernel
  · rw [ofString_append root (head?_intercalate h), components_intercalate h]

/-- A path with a name is told by it and by the directory. -/
theorem eq_of_parent_eq {p q : Path} {name : String} (hp : p.name? = some name)
    (hq : q.name? = some name) (h : q.parent = p.parent) : q = p := by
  obtain ⟨root, parts⟩ := p
  obtain ⟨root', parts'⟩ := q
  obtain ⟨front, rfl⟩ : ∃ front, parts = front ++ [name] := List.getLast?_eq_some_iff.mp hp
  obtain ⟨front', rfl⟩ : ∃ front', parts' = front' ++ [name] := List.getLast?_eq_some_iff.mp hq
  obtain ⟨rfl, hfront⟩ := Path.mk.inj h
  rw [List.dropLast_concat, List.dropLast_concat] at hfront
  rw [hfront]

end Path

/-- The suffix of a name starts with the last dot, which is neither the first nor the last character
of the name. -/
structure HasSuffix (name stem suffix : String) : Prop where
  eq : name = stem ++ suffix
  stem : stem ≠ ""
  suffix : ∃ tail, suffix = "." ++ tail ∧ tail ≠ "" ∧ '.' ∉ tail.toList

/-- The suffix `.md` in every letter case. -/
def documentSuffixes : List String := [".md", ".mD", ".Md", ".MD"]

theorem lower_eq_iff_mem (suffix : String) :
    lower suffix.toList = ".md".toList ↔ suffix ∈ documentSuffixes := by
  constructor
  · intro h
    have hplain : ∀ c ∈ lower suffix.toList, c ∉ ['σ', 'ς', '\u0307'] := by
      have hmd : ".md".toList = ['.', 'm', 'd'] := rfl
      rw [h, hmd]
      simp
    have hletters : suffix.toList.map lowerChar = ['.', 'm', 'd'] :=
      (lower_eq_map hplain).symm.trans h
    obtain ⟨a, s, hs, ha, h⟩ := List.map_eq_cons_iff.mp hletters
    obtain ⟨b, s, rfl, hb, h⟩ := List.map_eq_cons_iff.mp h
    obtain ⟨c, s, rfl, hc, h⟩ := List.map_eq_cons_iff.mp h
    obtain rfl := List.map_eq_nil_iff.mp h
    obtain rfl : a = '.' := or_self_iff.mp (eq_or_eq_of_lowerChar ha (by decide) (by decide))
    have hm : b = 'm' ∨ b = 'M' := eq_or_eq_of_lowerChar hb (by decide) (by decide)
    have hd : c = 'd' ∨ c = 'D' := eq_or_eq_of_lowerChar hc (by decide) (by decide)
    rw [← String.ofList_toList (s := suffix), hs]
    rcases hm with rfl | rfl <;> rcases hd with rfl | rfl <;> decide +kernel
  · have hall : ∀ s ∈ documentSuffixes, lower s.toList = ".md".toList := by decide +kernel
    exact hall suffix

theorem splitSuffix_append {stem tail : List Char} (h : '.' ∉ tail) :
    splitSuffix (stem ++ '.' :: tail) =
      if stem = [] ∨ tail = [] then (stem ++ '.' :: tail, []) else (stem, '.' :: tail) := by
  have hdot : (stem ++ '.' :: tail).contains '.' = true := by simp
  rw [splitSuffix, reverse_takeWhile_reverse h, take_length_sub, hdot, Bool.true_and]
  cases stem <;> cases tail <;> simp

theorem splitSuffix_of_hasSuffix {name stem suffix : String} (h : HasSuffix name stem suffix) :
    splitSuffix name.toList = (stem.toList, suffix.toList) := by
  obtain ⟨rfl, hstem, tail, rfl, htail, hdot⟩ := h
  have hname : (stem ++ ("." ++ tail)).toList = stem.toList ++ '.' :: tail.toList := by
    rw [String.toList_append, String.toList_append]
    rfl
  rw [hname, splitSuffix_append hdot, if_neg]
  · rw [String.toList_append]
    rfl
  · rw [String.toList_eq_nil_iff, String.toList_eq_nil_iff, not_or]
    exact ⟨hstem, htail⟩

theorem splitSuffix_of_not_hasSuffix {name : String}
    (h : ∀ stem suffix, ¬HasSuffix name stem suffix) :
    splitSuffix name.toList = (name.toList, []) := by
  by_cases hdot : '.' ∈ name.toList
  · obtain ⟨before, after, hname, hafter⟩ := exists_last_of_mem hdot
    rw [hname, splitSuffix_append hafter, if_pos]
    by_contra hne
    rw [not_or] at hne
    refine h (String.ofList before) ("." ++ String.ofList after) ⟨?_, ?_, _, rfl, ?_, ?_⟩
    · rw [← String.toList_inj, hname]
      simp
    · simpa using hne.1
    · simpa using hne.2
    · simpa using hafter
  · rw [splitSuffix]
    simp [hdot]

theorem deckName_of_mem {name stem suffix : String} (h : HasSuffix name stem suffix)
    (hmem : suffix ∈ documentSuffixes) : deckName name = stem ++ ".pptx" := by
  rw [deckName, splitSuffix_of_hasSuffix h]
  dsimp only
  rw [if_pos ((lower_eq_iff_mem suffix).mpr hmem), String.ofList_toList]

theorem deckName_of_not_mem {name : String}
    (h : ∀ stem suffix, HasSuffix name stem suffix → suffix ∉ documentSuffixes) :
    deckName name = name ++ ".pptx" := by
  rw [deckName]
  by_cases hsuffix : ∃ stem suffix, HasSuffix name stem suffix
  · obtain ⟨stem, suffix, hname⟩ := hsuffix
    rw [splitSuffix_of_hasSuffix hname]
    dsimp only
    rw [if_neg (mt (lower_eq_iff_mem suffix).mp (h stem suffix hname))]
  · rw [splitSuffix_of_not_hasSuffix fun stem suffix hname => hsuffix ⟨stem, suffix, hname⟩]
    exact if_neg (by decide +kernel)

theorem HasSuffix.length_lt {name stem suffix : String} (h : HasSuffix name stem suffix) :
    stem.length < name.length := by
  obtain ⟨rfl, -, tail, rfl, -⟩ := h
  have hdot : ".".length = 1 := rfl
  rw [String.length_append, String.length_append, hdot]
  omega

theorem deckName_eq_stem_iff {name stem suffix : String} (h : HasSuffix name stem suffix) :
    deckName name = stem ++ ".pptx" ↔ suffix ∈ documentSuffixes := by
  refine ⟨fun hdeck => ?_, deckName_of_mem h⟩
  by_contra hmem
  have hother {stem' suffix' : String} (h' : HasSuffix name stem' suffix') :
      suffix' ∉ documentSuffixes := by
    have hsplit := (splitSuffix_of_hasSuffix h').symm.trans (splitSuffix_of_hasSuffix h)
    obtain rfl := String.toList_inj.mp (Prod.mk.inj hsplit).2
    exact hmem
  have hlt := h.length_lt
  rw [deckName_of_not_mem fun _ _ => hother, String.append_left_inj] at hdeck
  rw [hdeck] at hlt
  exact lt_irrefl _ hlt

theorem deckName_eq_append_iff (name : String) :
    deckName name = name ++ ".pptx" ↔
      ¬∃ stem suffix, HasSuffix name stem suffix ∧ suffix ∈ documentSuffixes := by
  constructor
  · rintro hdeck ⟨stem, suffix, h, hmem⟩
    have hlt := h.length_lt
    rw [deckName_of_mem h hmem, String.append_left_inj] at hdeck
    rw [hdeck] at hlt
    exact lt_irrefl _ hlt
  · intro h
    exact deckName_of_not_mem fun stem suffix hname hmem => h ⟨stem, suffix, hname, hmem⟩

/-- The name of the deck is the front of that of the document, and its suffix. -/
theorem exists_deckName_eq (name : String) :
    ∃ front, deckName name = front ++ ".pptx" ∧ front.toList ⊆ name.toList := by
  by_cases h : ∃ stem suffix, HasSuffix name stem suffix ∧ suffix ∈ documentSuffixes
  · obtain ⟨stem, suffix, hname, hmem⟩ := h
    refine ⟨stem, deckName_of_mem hname hmem, ?_⟩
    rw [hname.eq, String.toList_append]
    exact List.subset_append_left _ _
  · exact ⟨name, (deckName_eq_append_iff name).mpr h, List.Subset.refl _⟩

theorem deckName_ne (name : String) : deckName name ≠ name := by
  intro hdeck
  by_cases h : ∃ stem suffix, HasSuffix name stem suffix ∧ suffix ∈ documentSuffixes
  · obtain ⟨stem, suffix, hname, hmem⟩ := h
    rw [deckName_of_mem hname hmem, hname.eq, String.append_right_inj] at hdeck
    subst hdeck
    exact absurd hmem (by decide)
  · rw [(deckName_eq_append_iff name).mpr h] at hdeck
    have hlength := congrArg String.length hdeck
    have hsuffix : ".pptx".length = 5 := by decide +kernel
    rw [String.length_append, hsuffix] at hlength
    omega

theorem isComponent_deckName {name : String} (h : Path.IsComponent name) :
    Path.IsComponent (deckName name) := by
  obtain ⟨front, hfront, hsubset⟩ := exists_deckName_eq name
  have hlength : 5 ≤ (deckName name).length := by
    have hsuffix : ".pptx".length = 5 := by decide +kernel
    rw [hfront, String.length_append, hsuffix]
    omega
  refine ⟨?_, ?_, ?_⟩
  · intro hempty
    rw [hempty] at hlength
    exact absurd hlength (by decide +kernel)
  · intro hdot
    rw [hdot] at hlength
    exact absurd hlength (by decide +kernel)
  · rw [hfront, String.toList_append, List.mem_append, not_or]
    exact ⟨fun hslash => h.2.2 (hsubset hslash), by decide +kernel⟩

end SlideDeck.Files
