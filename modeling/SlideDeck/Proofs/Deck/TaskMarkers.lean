import SlideDeck.Proofs.Deck.Forms
import SlideDeck.Proofs.Deck.LineBreaks

/-!
The two views of a list item: its text, and the phrases of its paragraphs. A task marker is looked
for in the joined text but cut out of the first paragraph alone, so the views agree unless its white
space runs past that paragraph.
-/

namespace SlideDeck.Deck

open Markdown

/-- The box of a task: what stands in it tells whether the task is done. -/
def IsBox (isDone : Bool) (box : List Char) : Prop :=
  ∃ c, box = ['[', c, ']'] ∧ (c = ' ' ∨ c = 'x' ∨ c = 'X') ∧ isDone = (c != ' ')

/-- A task marker: a box, and white space behind it. -/
def IsTaskMarker (isDone : Bool) (marker : List Char) : Prop :=
  ∃ box space, marker = box ++ space ∧ IsBox isDone box ∧ space ≠ [] ∧ space.all Text.isBlank

/-- The first paragraph is a box and nothing else, although there are paragraphs below it. -/
def StartsWithBareBox (contents : List String) : Prop :=
  ∃ isDone box space c below, contents = c :: below ∧ below ≠ [] ∧ c.toList = box ++ space ∧
    IsBox isDone box ∧ space.all Text.isBlank

/-- The paragraphs of an item as one text. -/
def joinedText (contents : List String) : String := String.intercalate "\n" contents

/-- The phrases of paragraphs of a document, one below the other. -/
def paragraphPhrases (d : Document) (contents : List String) : List Phrase :=
  joinParagraphs (contents.map fun c => phraseList (d.inlines c))

theorem not_mem_of_isBox {isDone : Bool} {box : List Char} (h : IsBox isDone box) :
    '\n' ∉ box := by
  obtain ⟨c, rfl, rfl | rfl | rfl, -⟩ := h <;> decide

theorem taskMarker?_eq_some_iff (s : List Char) (isDone : Bool) (n : Nat) :
    taskMarker? s = some (isDone, n) ↔
      ∃ marker rest, s = marker ++ rest ∧ IsTaskMarker isDone marker ∧
        (∀ c ∈ rest.head?, Text.isBlank c = false) ∧ n = marker.length := by
  constructor
  · intro h
    unfold taskMarker? at h
    split at h
    · rename_i c s
      dsimp only at h
      rw [Option.ite_none_right_eq_some] at h
      obtain ⟨hcondition, ⟨⟩⟩ := h
      simp only [Bool.and_eq_true, Bool.or_eq_true, decide_eq_true_eq, Bool.not_eq_true',
        List.isEmpty_eq_false_iff, or_assoc] at hcondition
      obtain ⟨hc, hspace⟩ := hcondition
      obtain ⟨hs, hblank, hhead⟩ := (cut_iff Text.isBlank s _ _).mp ⟨rfl, rfl⟩
      refine ⟨['[', c, ']'] ++ s.takeWhile Text.isBlank, s.dropWhile Text.isBlank, ?_,
        ⟨_, _, rfl, ⟨c, rfl, hc, rfl⟩, hspace, hblank⟩, hhead, ?_⟩
      · rw [List.append_assoc, ← hs]
        rfl
      · rw [List.length_append]
        rfl
    · cases h
  · rintro ⟨_, rest, rfl, ⟨_, space, rfl, ⟨c, rfl, hc, rfl⟩, hspace, hblank⟩, hhead, rfl⟩
    obtain ⟨htake, -⟩ := (cut_iff Text.isBlank (space ++ rest) _ _).mpr ⟨rfl, hblank, hhead⟩
    have hs : ['[', c, ']'] ++ space ++ rest = '[' :: c :: ']' :: (space ++ rest) := rfl
    rw [hs, taskMarker?, htake, List.length_append]
    simp [hc, hspace, or_assoc]

theorem joinedText_cons (c : String) {below : List String} (h : below ≠ []) :
    (joinedText (c :: below)).toList = c.toList ++ '\n' :: (joinedText below).toList := by
  rw [joinedText, String.intercalate_cons_of_ne_nil h, String.toList_append, String.toList_append,
    List.append_assoc]
  rfl

/-- What is cut off within the first paragraph may as well be cut off the joined text. -/
theorem drop_joinedText {c : String} {n : Nat} (h : n ≤ c.toList.length) (below : List String) :
    (joinedText (c :: below)).toList.drop n =
      (joinedText (String.ofList (c.toList.drop n) :: below)).toList := by
  by_cases hb : below = []
  · subst hb
    simp [joinedText]
  · rw [joinedText_cons _ hb, joinedText_cons _ hb, List.drop_append_of_le_length h,
      String.toList_ofList]

theorem paragraphPhrases_empty_cons (d : Document) {below : List String} (h : below ≠ []) :
    paragraphPhrases d ("" :: below) = .lineBreak :: paragraphPhrases d below := by
  have hempty : phraseList (d.inlines "") = [] := by
    rw [Document.inlines, Markdown.inlines, readNodes]
    dsimp only [maxNesting, Source.read]
    cbv
  obtain ⟨c, below, rfl⟩ := List.exists_cons_of_ne_nil h
  rw [paragraphPhrases, List.map_cons, hempty]
  rfl

theorem item_of_none (d : Document) {blocks : List Block}
    (h : taskMarker? (joinedText (paragraphs blocks)).toList = none) :
    (item d blocks).text = joinedText (paragraphs blocks) ∧ (item d blocks).isTask = false ∧
      itemParagraphs blocks = paragraphs blocks := by
  rw [joinedText] at h
  simp only [item, itemParagraphs, h, joinedText, and_self]

theorem item_of_some (d : Document) {blocks : List Block} {isDone : Bool} {n : Nat}
    (h : taskMarker? (joinedText (paragraphs blocks)).toList = some (isDone, n)) :
    (item d blocks).text = String.ofList ((joinedText (paragraphs blocks)).toList.drop n) ∧
      (item d blocks).isTask = true ∧ (item d blocks).isDone = isDone ∧
      itemParagraphs blocks =
        (paragraphs blocks).modifyHead fun c => String.ofList (c.toList.drop n) := by
  rw [joinedText] at h
  simp only [item, itemParagraphs, h, joinedText, and_self]

/-- Behind a bare box the white space of the marker runs into the paragraphs below. -/
theorem taskMarker?_of_bareBox {c : String} {below : List String}
    (h : StartsWithBareBox (c :: below)) :
    below ≠ [] ∧ ∃ isDone n, taskMarker? (joinedText (c :: below)).toList = some (isDone, n) ∧
      c.toList.length < n ∧
      (joinedText (c :: below)).toList.drop n =
        (joinedText below).toList.dropWhile Text.isBlank := by
  obtain ⟨isDone, box, space, _, _, ⟨⟩, hbelow, hc, hbox, hspace⟩ := h
  obtain ⟨ht, hfront, hhead⟩ :=
    (cut_iff Text.isBlank (joinedText below).toList _ _).mp ⟨rfl, rfl⟩
  let excess := (joinedText below).toList.takeWhile Text.isBlank
  let marker := box ++ (space ++ '\n' :: excess)
  have hjoined : (joinedText (c :: below)).toList =
      marker ++ (joinedText below).toList.dropWhile Text.isBlank := by
    rw [joinedText_cons c hbelow, hc]
    nth_rewrite 1 [ht]
    simp [marker, excess]
  have hmarker : IsTaskMarker isDone marker := by
    refine ⟨box, _, rfl, hbox, by simp, ?_⟩
    rw [List.all_append, List.all_cons, hspace, hfront]
    decide
  refine ⟨hbelow, isDone, marker.length,
    (taskMarker?_eq_some_iff _ _ _).mpr ⟨marker, _, hjoined, hmarker, hhead, rfl⟩, ?_, ?_⟩
  · rw [hc]
    simp [marker]
  · rw [hjoined, List.drop_left]

theorem bareBox_of_length_lt {c : String} {below : List String} {isDone : Bool} {n : Nat}
    (h : taskMarker? (joinedText (c :: below)).toList = some (isDone, n))
    (hn : c.toList.length < n) : StartsWithBareBox (c :: below) := by
  obtain ⟨_, rest, hs, ⟨box, space, rfl, hbox, -, hspace⟩, -, rfl⟩ :=
    (taskMarker?_eq_some_iff _ _ _).mp h
  have hbelow : below ≠ [] := by
    rintro rfl
    have hlength := congrArg List.length hs
    simp only [joinedText, String.intercalate_singleton, List.length_append] at hlength hn
    omega
  rw [joinedText_cons c hbelow] at hs
  obtain ⟨excess, hmarker⟩ : ∃ excess, box ++ space = c.toList ++ '\n' :: excess := by
    obtain ⟨excess, hmarker, hover⟩ | ⟨excess, hc, -⟩ := List.append_eq_append_iff.mp hs
    · cases excess with
      | nil =>
        rw [hmarker, List.append_nil] at hn
        exact absurd hn (Nat.lt_irrefl _)
      | cons x excess =>
        obtain ⟨rfl, -⟩ := List.cons.inj hover
        exact ⟨excess, hmarker⟩
    · rw [hc, List.length_append] at hn
      omega
  -- The line feed behind the paragraph stands behind the box, which holds none.
  obtain ⟨front, hc, hfront⟩ : ∃ front, c.toList = box ++ front ∧ front.all Text.isBlank := by
    obtain ⟨front, hc, rfl⟩ | ⟨x, hx, hfeed⟩ := List.append_eq_append_iff.mp hmarker
    · rw [List.all_append, Bool.and_eq_true] at hspace
      exact ⟨front, hc, hspace.1⟩
    · cases x with
      | nil => exact ⟨[], by rw [hx, List.append_nil, List.append_nil], rfl⟩
      | cons y x =>
        obtain ⟨rfl, -⟩ := List.cons.inj hfeed
        exact absurd (hx ▸ List.mem_append_right _ List.mem_cons_self) (not_mem_of_isBox hbox)
  exact ⟨isDone, box, front, c, below, rfl, hbelow, hc, hbox, hfront⟩

theorem taskMarker?_eq_none_iff (s : List Char) :
    taskMarker? s = none ↔
      ¬∃ isDone marker rest, s = marker ++ rest ∧ IsTaskMarker isDone marker := by
  rw [Option.eq_none_iff_forall_ne_some]
  constructor
  · rintro h ⟨isDone, _, rest, rfl, box, space, rfl, hbox, hne, hspace⟩
    obtain ⟨hrest, hfront, hhead⟩ := (cut_iff Text.isBlank rest _ _).mp ⟨rfl, rfl⟩
    have hs : box ++ space ++ rest =
        box ++ (space ++ rest.takeWhile Text.isBlank) ++ rest.dropWhile Text.isBlank := by
      nth_rewrite 1 [hrest]
      simp only [List.append_assoc]
    refine h _ ((taskMarker?_eq_some_iff _ isDone _).mpr
      ⟨_, _, hs, ⟨box, _, rfl, hbox, ?_, ?_⟩, hhead, rfl⟩)
    · exact List.append_ne_nil_of_left_ne_nil hne _
    · rw [List.all_append, hspace, hfront]
      rfl
  · rintro h ⟨isDone, n⟩ hn
    obtain ⟨marker, rest, hs, hmarker, -⟩ := (taskMarker?_eq_some_iff s isDone n).mp hn
    exact h ⟨isDone, marker, rest, hs, hmarker⟩

/-- An item carries paragraphs if they are its text, and their phrases are its phrases. -/
def Item.Carries (d : Document) (i : Item) (contents : List String) : Prop :=
  i.text = joinedText contents ∧ i.phrases = [.wrapped i.text (paragraphPhrases d contents)]

/-- Which paragraphs an item could carry is settled by its phrases. -/
theorem carries_itemParagraphs_iff (d : Document) (blocks : List Block) :
    (item d blocks).Carries d (itemParagraphs blocks) ↔
      (item d blocks).text = joinedText (itemParagraphs blocks) :=
  ⟨fun h => h.1, fun h => ⟨h, item_phrases d blocks⟩⟩

theorem not_bareBox_of_none {blocks : List Block}
    (h : taskMarker? (joinedText (paragraphs blocks)).toList = none) :
    ¬StartsWithBareBox (paragraphs blocks) := by
  intro hbox
  obtain ⟨_, _, _, c, below, hcontents, -⟩ := id hbox
  rw [hcontents] at hbox h
  obtain ⟨-, _, _, hsome, -⟩ := taskMarker?_of_bareBox hbox
  cases h.symm.trans hsome

/-- A marker that runs over takes the line feed from the text and leaves the line break. -/
theorem item_of_bareBox (d : Document) {blocks : List Block} {c : String} {below : List String}
    (hcontents : paragraphs blocks = c :: below) (h : StartsWithBareBox (c :: below)) :
    (item d blocks).isTask = true ∧
      (item d blocks).text.toList = (joinedText below).toList.dropWhile Text.isBlank ∧
      itemParagraphs blocks = "" :: below ∧
      (item d blocks).phrases =
        [.wrapped (item d blocks).text (.lineBreak :: paragraphPhrases d below)] := by
  obtain ⟨hbelow, isDone, n, hmarker, hn, hdrop⟩ := taskMarker?_of_bareBox h
  rw [← hcontents] at hmarker
  obtain ⟨htext, htask, -, hparagraphs⟩ := item_of_some d hmarker
  have hempty : itemParagraphs blocks = "" :: below := by
    rw [hparagraphs, hcontents, List.modifyHead_cons, List.drop_eq_nil_of_le hn.le]
  refine ⟨htask, ?_, hempty, ?_⟩
  · rw [htext, hcontents, hdrop, String.toList_ofList]
  · rw [← paragraphPhrases_empty_cons d hbelow, ← hempty]
    exact item_phrases d blocks

/-- A text without white space in front is not one that starts with a line feed. -/
theorem not_carries_of_bareBox (d : Document) {blocks : List Block} {c : String}
    {below : List String} (hcontents : paragraphs blocks = c :: below)
    (h : StartsWithBareBox (c :: below)) :
    ¬(item d blocks).Carries d (itemParagraphs blocks) := by
  obtain ⟨-, htext, hempty, -⟩ := item_of_bareBox d hcontents h
  obtain ⟨hbelow, -⟩ := taskMarker?_of_bareBox h
  rintro ⟨hjoined, -⟩
  rw [hjoined, hempty, joinedText_cons _ hbelow] at htext
  have hhead := List.head?_dropWhile_not Text.isBlank (joinedText below).toList
  rw [← htext] at hhead
  exact Bool.noConfusion hhead

/-- A marker starts the first paragraph unless it runs over. -/
theorem exists_body_of_some {c : String} {below : List String} {isDone : Bool} {marker : List Char}
    {rest : List Char} (hs : (joinedText (c :: below)).toList = marker ++ rest)
    (h : taskMarker? (joinedText (c :: below)).toList = some (isDone, marker.length))
    (hbare : ¬StartsWithBareBox (c :: below)) :
    marker.length ≤ c.toList.length ∧ ∃ body, c.toList = marker ++ body := by
  have hn : marker.length ≤ c.toList.length := by
    by_contra hlt
    exact hbare (bareBox_of_length_lt h (Nat.lt_of_not_le hlt))
  have hc : c.toList <+: (joinedText (c :: below)).toList := by
    by_cases hbelow : below = []
    · rw [hbelow, joinedText, String.intercalate_singleton]
    · rw [joinedText_cons c hbelow]
      exact List.prefix_append _ _
  have hmarker : marker <+: c.toList := List.prefix_of_prefix_length_le ⟨rest, hs.symm⟩ hc hn
  obtain ⟨body, hbody⟩ := hmarker
  exact ⟨hn, body, hbody.symm⟩

/-- A marker that ends within the first paragraph is cut out of both views. -/
theorem item_of_marker (d : Document) {blocks : List Block} {isDone : Bool} {n : Nat}
    (h : taskMarker? (joinedText (paragraphs blocks)).toList = some (isDone, n)) :
    ∃ marker c below, paragraphs blocks = c :: below ∧
      IsTaskMarker (item d blocks).isDone marker ∧
      (joinedText (paragraphs blocks)).toList = marker ++ (item d blocks).text.toList ∧
      (∀ x ∈ (item d blocks).text.toList.head?, Text.isBlank x = false) ∧
      (¬StartsWithBareBox (paragraphs blocks) →
        (item d blocks).Carries d (itemParagraphs blocks) ∧
          ∃ body, c.toList = marker ++ body ∧
            itemParagraphs blocks = String.ofList body :: below) := by
  obtain ⟨htext, -, hdone, hparagraphs⟩ := item_of_some d h
  obtain ⟨marker, rest, hs, hmarker, hhead, rfl⟩ := (taskMarker?_eq_some_iff _ _ _).mp h
  have hrest : (item d blocks).text.toList = rest := by
    rw [htext, hs, List.drop_left, String.toList_ofList]
  cases hcontents : paragraphs blocks with
  | nil =>
    obtain ⟨_, _, rfl, ⟨_, rfl, -⟩, -⟩ := hmarker
    rw [hcontents] at hs
    cases hs
  | cons c below =>
    rw [hcontents, List.modifyHead_cons] at hparagraphs
    refine ⟨marker, c, below, rfl, hdone ▸ hmarker, ?_, hrest ▸ hhead, fun hbare => ?_⟩
    · rw [hrest, ← hcontents, hs]
    · obtain ⟨hn, body, hbody⟩ := exists_body_of_some (hcontents ▸ hs) (hcontents ▸ h) hbare
      refine ⟨(carries_itemParagraphs_iff d blocks).mpr ?_, body, hbody, ?_⟩
      · rw [htext, hcontents, drop_joinedText hn, String.ofList_toList, hparagraphs]
      · rw [hparagraphs, hbody, List.drop_left]

/-- An item that is no task is left with all its paragraphs, and a task with its paragraphs without
the marker that starts the first of them. An item carries the paragraphs that it is left with unless
its first paragraph is a bare box above others: then its text starts with those, but its phrases
start with a line break. -/
theorem item_carries (d : Document) (blocks : List Block) :
    let i := item d blocks
    let contents := paragraphs blocks
    (i.isTask = true ↔ ∃ isDone marker rest, (joinedText contents).toList = marker ++ rest ∧
      IsTaskMarker isDone marker) ∧
    (i.isTask = false → itemParagraphs blocks = contents) ∧
    (i.isTask = true → ∃ marker c below, contents = c :: below ∧ IsTaskMarker i.isDone marker ∧
      (joinedText contents).toList = marker ++ i.text.toList ∧
      (∀ x ∈ i.text.toList.head?, Text.isBlank x = false) ∧
      (¬StartsWithBareBox contents →
        ∃ body, c.toList = marker ++ body ∧ itemParagraphs blocks = String.ofList body :: below)) ∧
    (i.Carries d (itemParagraphs blocks) ↔ ¬StartsWithBareBox contents) ∧
    (StartsWithBareBox contents → i.isTask = true ∧
      i.text.toList = (joinedText contents.tail).toList.dropWhile Text.isBlank ∧
      i.phrases = [.wrapped i.text (.lineBreak :: paragraphPhrases d contents.tail)]) := by
  intro i contents
  cases h : taskMarker? (joinedText contents).toList with
  | none =>
    obtain ⟨htext, htask, hparagraphs⟩ := item_of_none d h
    have hbare := not_bareBox_of_none h
    have hcarries : i.Carries d (itemParagraphs blocks) :=
      (carries_itemParagraphs_iff d blocks).mpr (hparagraphs.symm ▸ htext)
    refine ⟨iff_of_false (by simp [i, htask]) ((taskMarker?_eq_none_iff _).mp h),
      fun _ => hparagraphs, fun ht => ?_, iff_of_true hcarries hbare, fun hbox => absurd hbox hbare⟩
    cases htask.symm.trans ht
  | some found =>
    obtain ⟨-, htask, -⟩ := item_of_some d h
    obtain ⟨marker, rest, hs, hmarker, -⟩ := (taskMarker?_eq_some_iff _ _ _).mp h
    obtain ⟨marker', c, below, hcontents, hview⟩ := item_of_marker d h
    refine ⟨iff_of_true htask ⟨_, marker, rest, hs, hmarker⟩, fun ht => ?_, fun _ => ?_,
      ⟨fun hcarries hbox => ?_, fun hbare => (hview.2.2.2 hbare).1⟩, fun hbox => ?_⟩
    · cases htask.symm.trans ht
    · exact ⟨marker', c, below, hcontents, hview.1, hview.2.1, hview.2.2.1,
        fun hbare => (hview.2.2.2 hbare).2⟩
    · exact not_carries_of_bareBox d hcontents (hcontents ▸ hbox) hcarries
    · obtain ⟨ht, htext, -, hphrases⟩ := item_of_bareBox d hcontents (hcontents ▸ hbox)
      have htail : contents.tail = below := congrArg List.tail hcontents
      rw [htail]
      exact ⟨ht, htext, hphrases⟩

/-- A text on one line is that of one paragraph. -/
theorem contents_of_line {s : String} {contents : List String} (hs : s ≠ "")
    (hline : '\n' ∉ s.toList) (h : joinedText contents = s) : contents = [s] := by
  cases contents with
  | nil => exact absurd h.symm hs
  | cons c below =>
    by_cases hbelow : below = []
    · rw [hbelow, joinedText, String.intercalate_singleton] at h
      rw [hbelow, h]
    · rw [← h, joinedText_cons c hbelow] at hline
      exact absurd (List.mem_append_right _ List.mem_cons_self) hline

/-- A box alone in its paragraph, above another one. -/
def bareBoxItem : List Block := [.paragraph "[ ]", .paragraph "foo"]

/-- The text of the item is the paragraph below the box, whose phrases do not start with the line
break that those of the item start with. -/
theorem not_forall_item_carries :
    ¬∀ (d : Document) (blocks : List Block), ∃ contents, (item d blocks).Carries d contents := by
  intro h
  let d : Document := ⟨[], Definitions.empty⟩
  have hbox : StartsWithBareBox ["[ ]", "foo"] :=
    ⟨false, ['[', ' ', ']'], [], "[ ]", ["foo"], rfl, List.cons_ne_nil _ _, rfl,
      ⟨' ', rfl, .inl rfl, rfl⟩, rfl⟩
  have hcontents : paragraphs bareBoxItem = ["[ ]", "foo"] := rfl
  obtain ⟨-, hfoo, -, hbreak⟩ := item_of_bareBox d hcontents hbox
  obtain ⟨contents, htext, hphrases⟩ := h d bareBoxItem
  have hjoined : joinedText contents = "foo" := by
    rw [← htext, ← String.toList_inj, hfoo]
    decide
  obtain rfl : contents = ["foo"] := contents_of_line (by decide) (by decide) hjoined
  rw [hbreak, List.cons.injEq, Phrase.wrapped.injEq] at hphrases
  exact List.cons_ne_self _ _ hphrases.1.2

end SlideDeck.Deck
