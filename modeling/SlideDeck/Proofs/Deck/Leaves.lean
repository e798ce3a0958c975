import SlideDeck.Proofs.Deck.ShownText

/-!
Runs told from the leaves of a forest of phrases. A leaf shows in the style of the spans that it
stands in and of nothing beside them; bold, italic and linked spans change how a text looks and
not what it says.
-/

namespace SlideDeck.Deck

/-- A span around phrases. Wrapping phrases gives them no style. -/
inductive Enclosure where
  | bold
  | italic
  | link (url : String) (title : Option String)
  | wrapped (s : String)
deriving DecidableEq, Repr

/-- A phrase with nothing inside. -/
inductive Leaf where
  | code (s : String)
  | text (s : String)
  | lineBreak
  | raw (s : String)
deriving DecidableEq, Repr

namespace Enclosure

def around : Enclosure → List Phrase → Phrase
  | .bold, inner => .bold inner
  | .italic, inner => .italic inner
  | .link url title, inner => .link url title inner
  | .wrapped s, inner => .wrapped s inner

/-- The link that a span is. It shows its title, if there is one to show, and else its address. -/
def link? : Enclosure → Option Hyperlink
  | .link url title => some ⟨url, (title.filter (!·.isEmpty)).getD url⟩
  | _ => none

end Enclosure

namespace Leaf

def phrase : Leaf → Phrase
  | .code s => .code s
  | .text s => .text s
  | .lineBreak => .lineBreak
  | .raw s => .raw s

/-- Raw text makes a run only if there is any. -/
def isBlank : Leaf → Bool
  | .raw s => s.isEmpty
  | _ => false

/-- The run of a leaf inside spans of a given style. Raw text keeps no style. -/
def run (style : Style) : Leaf → Run
  | .code s => ⟨" " ++ s ++ " ", { style with monospace := true }⟩
  | .text s => ⟨s, style⟩
  | .lineBreak => ⟨"\n", { style with breaksLine := true }⟩
  | .raw s => ⟨s, {}⟩

end Leaf

/-- A leaf and the spans that it stands in, the outermost first. -/
structure PlacedLeaf where
  path : List Enclosure
  leaf : Leaf
deriving DecidableEq, Repr

def PlacedLeaf.under (e : Enclosure) (l : PlacedLeaf) : PlacedLeaf := ⟨e :: l.path, l.leaf⟩

mutual

/-- The leaves of a phrase from left to right. -/
def leaves : Phrase → List PlacedLeaf
  | .bold inner => (allLeaves inner).map (.under .bold)
  | .italic inner => (allLeaves inner).map (.under .italic)
  | .code s => [⟨[], .code s⟩]
  | .link url title inner => (allLeaves inner).map (.under (.link url title))
  | .text s => [⟨[], .text s⟩]
  | .wrapped s inner => (allLeaves inner).map (.under (.wrapped s))
  | .lineBreak => [⟨[], .lineBreak⟩]
  | .raw s => if s.isEmpty then [] else [⟨[], .raw s⟩]

def allLeaves : List Phrase → List PlacedLeaf
  | [] => []
  | p :: ps => leaves p ++ allLeaves ps

end

/-- The style at the end of a path of spans. The innermost link counts. -/
def Style.inside (style : Style) (path : List Enclosure) : Style :=
  { style with
    bold := style.bold || decide (.bold ∈ path)
    italic := style.italic || decide (.italic ∈ path)
    hyperlink := (path.filterMap Enclosure.link?).getLast?.or style.hyperlink }

def PlacedLeaf.run (style : Style) (l : PlacedLeaf) : Run := l.leaf.run (style.inside l.path)

/-- Where phrases stand in a forest: among others, or inside a span that has others beside it. -/
inductive Place where
  | here (before after : List Phrase)
  | inside (before : List Phrase) (e : Enclosure) (place : Place) (after : List Phrase)

namespace Place

def fill : Place → List Phrase → List Phrase
  | .here before after, inner => before ++ inner ++ after
  | .inside before e place after, inner => before ++ e.around (place.fill inner) :: after

def path : Place → List Enclosure
  | .here _ _ => []
  | .inside _ e place _ => e :: place.path

end Place

theorem allLeaves_append (ps qs : List Phrase) :
    allLeaves (ps ++ qs) = allLeaves ps ++ allLeaves qs := by
  induction ps with
  | nil => rfl
  | cons p ps ih => rw [List.cons_append, allLeaves, allLeaves, ih, List.append_assoc]

theorem allLeaves_singleton (p : Phrase) : allLeaves [p] = leaves p := by
  rw [allLeaves, allLeaves, List.append_nil]

theorem leaves_around (e : Enclosure) (inner : List Phrase) :
    leaves (e.around inner) = (allLeaves inner).map (.under e) := by
  cases e <;> rw [Enclosure.around, leaves]

theorem leaves_phrase (l : Leaf) : leaves l.phrase = if l.isBlank then [] else [⟨[], l⟩] := by
  cases l <;> simp [Leaf.phrase, Leaf.isBlank, leaves]

/-- The leaves at a place are those put there, below its path; the others are as they were. -/
theorem allLeaves_fill (place : Place) :
    ∃ before after, ∀ inner, allLeaves (place.fill inner) =
      before ++ (allLeaves inner).map (fun l => ⟨place.path ++ l.path, l.leaf⟩) ++ after := by
  induction place with
  | here before after =>
    exact ⟨allLeaves before, allLeaves after, fun inner => by
      simp [Place.fill, Place.path, allLeaves_append]⟩
  | inside before e place after ih =>
    obtain ⟨before', after', h⟩ := ih
    refine ⟨allLeaves before ++ before'.map (.under e), after'.map (.under e) ++ allLeaves after,
      fun inner => ?_⟩
    rw [Place.fill, allLeaves_append, allLeaves, leaves_around, h]
    simp [Place.path, PlacedLeaf.under]

/-- Whether a leaf stands in a forest, with the path that it has. -/
def PlacedLeaf.Stands (l : PlacedLeaf) (ps : List Phrase) : Prop :=
  ∃ place : Place, place.path = l.path ∧ place.fill [l.leaf.phrase] = ps

theorem stands_leaf (l : Leaf) : PlacedLeaf.Stands ⟨[], l⟩ [l.phrase] := ⟨.here [] [], rfl, rfl⟩

theorem PlacedLeaf.Stands.beside {l : PlacedLeaf} {ps : List Phrase} (h : l.Stands ps)
    (before after : List Phrase) : l.Stands (before ++ ps ++ after) := by
  obtain ⟨place, hpath, rfl⟩ := h
  cases place with
  | here b a => exact ⟨.here (before ++ b) (a ++ after), hpath, by simp [Place.fill]⟩
  | inside b e place a =>
    exact ⟨.inside (before ++ b) e place (a ++ after), hpath, by simp [Place.fill]⟩

theorem PlacedLeaf.Stands.under {l : PlacedLeaf} {inner : List Phrase} (h : l.Stands inner)
    (e : Enclosure) : (l.under e).Stands [e.around inner] := by
  obtain ⟨place, hpath, rfl⟩ := h
  exact ⟨.inside [] e place [], congrArg (e :: ·) hpath, rfl⟩

theorem stands_of_mem_under {inner : List Phrase} (e : Enclosure)
    (h : ∀ l ∈ allLeaves inner, l.leaf.isBlank = false ∧ l.Stands inner) :
    ∀ l ∈ (allLeaves inner).map (PlacedLeaf.under e),
      l.leaf.isBlank = false ∧ l.Stands [e.around inner] := by
  intro l hl
  obtain ⟨m, hm, rfl⟩ := List.mem_map.mp hl
  exact ⟨(h m hm).1, (h m hm).2.under e⟩

mutual

theorem stands_of_mem_leaves :
    (p : Phrase) → ∀ l ∈ leaves p, l.leaf.isBlank = false ∧ l.Stands [p]
  | .bold inner => by
    rw [leaves]
    exact stands_of_mem_under .bold (stands_of_mem_allLeaves inner)
  | .italic inner => by
    rw [leaves]
    exact stands_of_mem_under .italic (stands_of_mem_allLeaves inner)
  | .link url title inner => by
    rw [leaves]
    exact stands_of_mem_under (.link url title) (stands_of_mem_allLeaves inner)
  | .wrapped s inner => by
    rw [leaves]
    exact stands_of_mem_under (.wrapped s) (stands_of_mem_allLeaves inner)
  | .code s => by
    rw [leaves, List.forall_mem_singleton]
    exact ⟨rfl, stands_leaf (.code s)⟩
  | .text s => by
    rw [leaves, List.forall_mem_singleton]
    exact ⟨rfl, stands_leaf (.text s)⟩
  | .lineBreak => by
    rw [leaves, List.forall_mem_singleton]
    exact ⟨rfl, stands_leaf .lineBreak⟩
  | .raw s => by
    rw [leaves]
    split
    · exact List.forall_mem_nil _
    · rename_i hs
      rw [List.forall_mem_singleton]
      exact ⟨Bool.eq_false_iff.mpr hs, stands_leaf (.raw s)⟩

theorem stands_of_mem_allLeaves :
    (ps : List Phrase) → ∀ l ∈ allLeaves ps, l.leaf.isBlank = false ∧ l.Stands ps
  | [] => by
    rw [allLeaves]
    exact List.forall_mem_nil _
  | p :: ps => by
    intro l hl
    rw [allLeaves, List.mem_append] at hl
    obtain hl | hl := hl
    · obtain ⟨hblank, hstands⟩ := stands_of_mem_leaves p l hl
      exact ⟨hblank, hstands.beside [] ps⟩
    · obtain ⟨hblank, hstands⟩ := stands_of_mem_allLeaves ps l hl
      have h := hstands.beside [p] []
      rw [List.append_nil] at h
      exact ⟨hblank, h⟩

end

/-- The leaves of a forest are the phrases in it that have nothing inside, blank ones left out. -/
theorem mem_allLeaves_iff {l : PlacedLeaf} {ps : List Phrase} :
    l ∈ allLeaves ps ↔ l.leaf.isBlank = false ∧ l.Stands ps := by
  constructor
  · exact stands_of_mem_allLeaves ps l
  · rintro ⟨hblank, place, hpath, rfl⟩
    obtain ⟨before, after, h⟩ := allLeaves_fill place
    rw [h, allLeaves_singleton, leaves_phrase, hblank]
    simp [hpath]

@[simp]
theorem inside_nil (style : Style) : style.inside [] = style := by
  simp [Style.inside]

theorem inside_append (style : Style) (path path' : List Enclosure) :
    style.inside (path ++ path') = (style.inside path).inside path' := by
  simp [Style.inside, List.getLast?_append, Option.or_assoc, Bool.or_assoc]

theorem run_under (style : Style) (e : Enclosure) (l : PlacedLeaf) :
    (l.under e).run style = l.run (style.inside [e]) := by
  rw [PlacedLeaf.run, PlacedLeaf.run, ← inside_append]
  rfl

theorem inside_link (style : Style) (url : String) (title : Option String) :
    style.inside [.link url title] = { style with hyperlink := some (.to url title) } := by
  have h : Hyperlink.to url title = ⟨url, (title.filter (!·.isEmpty)).getD url⟩ := by
    cases title with
    | none => rfl
    | some t => by_cases ht : t.isEmpty <;> simp [Hyperlink.to, Option.filter, ht]
  simp [Style.inside, Enclosure.link?, h]

theorem inside_bold (style : Style) : style.inside [.bold] = { style with bold := true } := by
  simp [Style.inside, Enclosure.link?]

theorem inside_italic (style : Style) : style.inside [.italic] = { style with italic := true } := by
  simp [Style.inside, Enclosure.link?]

theorem inside_wrapped (style : Style) (s : String) : style.inside [.wrapped s] = style := by
  simp [Style.inside, Enclosure.link?]

theorem resolve_around (style : Style) (e : Enclosure) (inner : List Phrase) :
    resolve style (e.around inner) = resolveAll (style.inside [e]) inner := by
  cases e with
  | bold => rw [Enclosure.around, resolve, inside_bold]
  | italic => rw [Enclosure.around, resolve, inside_italic]
  | link url title => rw [Enclosure.around, resolve, inside_link]
  | wrapped s => rw [Enclosure.around, resolve, inside_wrapped]

theorem map_run_under (style : Style) (e : Enclosure) (inner : List Phrase) :
    ((allLeaves inner).map (.under e)).map (PlacedLeaf.run style) =
      (allLeaves inner).map (PlacedLeaf.run (style.inside [e])) := by
  rw [List.map_map]
  exact List.map_congr_left fun l _ => run_under style e l

mutual

theorem resolve_eq_leaves (style : Style) :
    (p : Phrase) → resolve style p = (leaves p).map (PlacedLeaf.run style)
  | .bold inner => by
    rw [resolve, leaves, map_run_under, inside_bold]
    exact resolveAll_eq_allLeaves { style with bold := true } inner
  | .italic inner => by
    rw [resolve, leaves, map_run_under, inside_italic]
    exact resolveAll_eq_allLeaves { style with italic := true } inner
  | .link url title inner => by
    rw [resolve, leaves, map_run_under, inside_link]
    exact resolveAll_eq_allLeaves { style with hyperlink := some (.to url title) } inner
  | .wrapped s inner => by
    rw [resolve, leaves, map_run_under, inside_wrapped]
    exact resolveAll_eq_allLeaves style inner
  | .code s => by simp [resolve, leaves, PlacedLeaf.run, Leaf.run]
  | .text s => by simp [resolve, leaves, PlacedLeaf.run, Leaf.run]
  | .lineBreak => by simp [resolve, leaves, PlacedLeaf.run, Leaf.run]
  | .raw s => by
    rw [resolve, leaves]
    split
    · rfl
    · rfl

theorem resolveAll_eq_allLeaves (style : Style) :
    (ps : List Phrase) → resolveAll style ps = (allLeaves ps).map (PlacedLeaf.run style)
  | [] => rfl
  | p :: ps => by
    rw [resolveAll, allLeaves, List.map_append, resolve_eq_leaves style p,
      resolveAll_eq_allLeaves style ps]

end

/-- What stands at a place shows in the style of its path, between runs that do not depend on
it. -/
theorem resolveAll_fill (style : Style) (place : Place) :
    ∃ before after, ∀ inner, resolveAll style (place.fill inner) =
      before ++ resolveAll (style.inside place.path) inner ++ after := by
  obtain ⟨before, after, h⟩ := allLeaves_fill place
  refine ⟨before.map (PlacedLeaf.run style), after.map (PlacedLeaf.run style), fun inner => ?_⟩
  have hrun (l : PlacedLeaf) : PlacedLeaf.run style ⟨place.path ++ l.path, l.leaf⟩ =
      l.run (style.inside place.path) := by
    rw [PlacedLeaf.run, PlacedLeaf.run, inside_append]
  simp [resolveAll_eq_allLeaves, h, Function.comp_def, hrun]

theorem plainText_append (rs rs' : List Run) :
    plainText (rs ++ rs') = plainText rs ++ plainText rs' := by
  induction rs with
  | nil => rw [List.nil_append, plainText_nil, String.empty_append]
  | cons r rs ih =>
    rw [List.cons_append, plainText_cons, plainText_cons, ih, String.append_assoc]

theorem text_run (style style' : Style) (l : Leaf) : (l.run style).text = (l.run style').text := by
  cases l <;> rfl

/-- No style changes what phrases say. -/
theorem plainText_resolveAll (style style' : Style) (ps : List Phrase) :
    plainText (resolveAll style ps) = plainText (resolveAll style' ps) := by
  rw [resolveAll_eq_allLeaves, resolveAll_eq_allLeaves, plainText, plainText, List.map_map,
    List.map_map]
  exact congrArg String.join (List.map_congr_left fun l _ => text_run _ _ l.leaf)

/-- A span around phrases, wherever it is put or taken away, changes nothing of what is said. -/
theorem plainText_fill_around (style : Style) (place : Place) (e : Enclosure)
    (inner : List Phrase) :
    plainText (resolveAll style (place.fill [e.around inner])) =
      plainText (resolveAll style (place.fill inner)) := by
  obtain ⟨before, after, h⟩ := resolveAll_fill style place
  rw [h, h, resolveAll, resolveAll, List.append_nil, resolve_around]
  simp only [plainText_append]
  rw [plainText_resolveAll _ (style.inside place.path)]

/-- The runs of a forest of phrases are those of its leaves, from left to right and each in the
style at the end of its path. So a span styles nothing beside it, and what is said does not depend
on the spans. -/
theorem resolveAll_eq_runs_of_leaves (style : Style) (ps : List Phrase) :
    resolveAll style ps = (allLeaves ps).map (PlacedLeaf.run style) ∧
    (∀ l, l ∈ allLeaves ps ↔ l.leaf.isBlank = false ∧ l.Stands ps) ∧
    (∀ place : Place, ∃ before after, ∀ inner, resolveAll style (place.fill inner) =
      before ++ resolveAll (style.inside place.path) inner ++ after) ∧
    ∀ (place : Place) (e : Enclosure) (inner : List Phrase),
      plainText (resolveAll style (place.fill [e.around inner])) =
        plainText (resolveAll style (place.fill inner)) :=
  ⟨resolveAll_eq_allLeaves style ps, fun _ => mem_allLeaves_iff, resolveAll_fill style,
    plainText_fill_around style⟩

/-- Raw text and the second link in a bold span. -/
example :
    resolveAll { isBullet := true } [.bold [.link "a" (some "") [.link "b" (some "t") [.code "x"]],
      .raw "~"], .text "y"] =
      [⟨" x ", { bold := true, monospace := true, hyperlink := some ⟨"b", "t"⟩, isBullet := true }⟩,
        ⟨"~", {}⟩, ⟨"y", { isBullet := true }⟩] := by
  decide +kernel

end SlideDeck.Deck
