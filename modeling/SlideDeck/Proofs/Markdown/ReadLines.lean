import SlideDeck.Proofs.Markdown.BlockEnds
import SlideDeck.Proofs.Text.Lines

/-!
Reading the blocks of a container takes at least one line and none beyond the last. So the source
of a quote is a range of the lines of its document.
-/

namespace SlideDeck.Markdown

theorem le_columnAfter (origin column : Int) (s : List Char) :
    column ≤ columnAfter origin column s := by
  induction s generalizing column with
  | nil => exact Int.le_refl _
  | cons c s ih =>
    have hadvance : column ≤ advance origin column c := by
      rw [advance]
      split <;> omega
    exact Int.le_trans hadvance (ih _)

/-- The content of a quote starts at column zero or behind it. -/
theorem indent_of_unquote? {l inner : Line} (h : l.unquote? = some inner) : 0 ≤ inner.indent := by
  rw [Line.unquote?] at h
  split at h
  · cases h
    exact Int.sub_nonneg_of_le (le_columnAfter _ _ _)
  · cases h

theorem not_mem_body_of_unquote? {l inner : Line} (hl : '\n' ∉ l.body)
    (h : l.unquote? = some inner) : '\n' ∉ inner.body := by
  rw [Line.unquote?] at h
  split at h
  case h_2 => cases h
  next s hs =>
    cases h
    intro hbody
    rw [hs] at hl
    refine hl (List.mem_cons_of_mem _ ?_)
    replace hbody := (List.dropWhile_suffix _).subset hbody
    split at hbody
    · exact List.mem_cons_of_mem _ hbody
    · split_ifs at hbody
      · exact List.mem_cons_of_mem _ hbody
      · exact hbody
    · exact hbody

/-- The content of an item stands where the item expects it, unless there is none. -/
theorem margin_itemLine_le (l : Line) (m : ListMarker)
    (h : (Region.itemLine l m).1.isEmpty = false) :
    (Region.itemLine l m).2 ≤ (Region.itemLine l m).1.indent := by
  simp only [Region.itemLine, Line.isEmpty] at h ⊢
  rw [h, Bool.false_or]
  split
  · next hcode =>
    have hcode := of_decide_eq_true hcode
    omega
  · omega

theorem not_mem_body_itemLine {l : Line} (m : ListMarker) (hl : '\n' ∉ l.body) :
    '\n' ∉ (Region.itemLine l m).1.body := fun h =>
  hl (List.mem_of_mem_drop ((List.dropWhile_suffix _).subset h))

namespace Region

variable {r : Region} {i : Nat}

theorem tidy_replace {ls : List Line} (h : Tidy r.lines) (i : Nat)
    (hls : ∀ l ∈ ls, '\n' ∉ l.body) : Tidy (r.replace i ls) := by
  intro l hl
  rw [Region.replace, Array.mem_append, Array.mem_append] at hl
  obtain (hl | hl) | hl := hl
  · exact h.extract _ _ l hl
  · exact hls l (List.mem_toArray.mp hl)
  · exact h.extract _ _ l hl

theorem size_replace {ls : List Line} (h : i + ls.length ≤ r.lines.size) :
    (r.replace i ls).size = r.lines.size := by
  simp only [replace, Array.size_append, Array.size_extract, List.size_toArray]
  omega

theorem line?_replace {l : Line} {ls : List Line} (h : i ≤ r.lines.size) :
    (r.replace i (l :: ls))[i]? = some l := by
  have hfront : (r.lines.extract 0 i).size = i := by
    rw [Array.size_extract]
    omega
  rw [replace, Array.append_assoc, Array.getElem?_append_right hfront.le, hfront, Nat.sub_self]
  rw [Array.getElem?_append_left (by simp)]
  rfl

theorem quoteLines_spec (stop fuel : Nat) (lastEmpty : Bool) (hr : Tidy r.lines)
    (h : i ≤ r.lines.size) :
    i + (r.quoteLines stop fuel i lastEmpty).1.length ≤ r.lines.size ∧
      ∀ l ∈ (r.quoteLines stop fuel i lastEmpty).1, '\n' ∉ l.body := by
  fun_induction r.quoteLines stop fuel i lastEmpty with
  | case1 | case2 | case3 | case5 | case6 => exact ⟨h, nofun⟩
  | case4 fuel i lastEmpty l hl _ inner hinner ls cut hrest ih =>
    rw [hrest] at ih
    obtain ⟨hlength, htidy⟩ := ih (lt_size_of_line? hl)
    rw [List.length_cons, List.forall_mem_cons]
    refine ⟨by dsimp only at hlength; omega, ?_, htidy⟩
    split_ifs at hinner
    exact not_mem_body_of_unquote? (not_mem_body_of_line? hr hl) hinner
  | case7 fuel i lastEmpty l hl _ _ _ _ ls cut hrest ih =>
    rw [hrest] at ih
    obtain ⟨hlength, htidy⟩ := ih (lt_size_of_line? hl)
    rw [List.length_cons, List.forall_mem_cons]
    have hbody : '\n' ∉ l.body := not_mem_body_of_line? hr hl
    exact ⟨by dsimp only at hlength; omega, hbody, htidy⟩

end Region

/-- A reading that ends between two lines, as does the source of each quote in it. -/
structure Reading.Within (g : Reading) (start size : Nat) : Prop where
  le_next : start ≤ g.next
  next_le : g.next ≤ size
  quotes : ∀ first last inner, .quote first last inner ∈ g.blocks → first < last ∧ last ≤ size

theorem Reading.Within.mono {g : Reading} {start size size' : Nat} (h : g.Within start size)
    (hsize : size ≤ size') : g.Within start size' where
  le_next := h.le_next
  next_le := h.next_le.trans hsize
  quotes first last inner hquote :=
    ⟨(h.quotes first last inner hquote).1, (h.quotes first last inner hquote).2.trans hsize⟩

theorem Reading.within_single {b : Block} {d : Definitions} {start next size : Nat}
    (hnext : start ≤ next ∧ next ≤ size) (hb : ∀ first last inner, b ≠ .quote first last inner) :
    (⟨[b], d, next⟩ : Reading).Within start size :=
  ⟨hnext.1, hnext.2, fun first last inner hquote =>
    absurd (List.mem_singleton.mp hquote).symm (hb first last inner)⟩

/-- The line is none that the container would leave to the one around it. -/
def Region.Admits (r : Region) (i : Nat) : Prop :=
  ∀ l, r.line? i = some l → l.isEmpty = false → r.isOutdented l = false

theorem Region.admits_of_line? {r : Region} {i : Nat} {l : Line} (hl : r.line? i = some l)
    (hmargin : l.isEmpty = false → r.margin ≤ l.indent) : r.Admits i := by
  intro l' hl' hempty
  cases hl.symm.trans hl'
  exact decide_eq_false (Int.not_lt.mpr (hmargin hempty))

/-- The reader takes no lines beyond those that it is given, and at least one if it starts on one
that the container admits. -/
def ContainerReader.Advances (read : ContainerReader) : Prop :=
  ∀ (r : Region) (d : Definitions) (i stop start : Nat), Tidy r.lines → i ≤ r.lines.size →
    stop ≤ r.lines.size → start ≤ i ∨ start = i + 1 ∧ i < stop ∧ r.Admits i →
      (read r d i stop).Within start r.lines.size

namespace Region

variable {r : Region} {read quoted listed : ContainerReader} {d : Definitions} {i stop fuel : Nat}

theorem quote_within {first : Line} (hread : read.Advances) (hr : Tidy r.lines)
    (hi : i < r.lines.size) (hfirst : '\n' ∉ first.body) (hindent : 0 ≤ first.indent) :
    (r.quote read d i stop first).Within (i + 1) r.lines.size := by
  have hlines := quoteLines_spec stop r.lines.size first.isEmpty hr hi
  rw [quote]
  generalize r.quoteLines stop r.lines.size (i + 1) first.isEmpty = found at hlines
  obtain ⟨ls, cut⟩ := found
  obtain ⟨hlength, hls⟩ := hlines
  dsimp only at hlength hls ⊢
  -- Another block that cuts the quote off is hidden from its inside.
  generalize hinside : (if cut then (r.replace i (first :: ls)).extract 0 (i + 1 + ls.length)
    else r.replace i (first :: ls)) = lines
  have hsize : (r.replace i (first :: ls)).size = r.lines.size :=
    size_replace (by rw [List.length_cons]; omega)
  have htidy : Tidy lines := by
    have hall := tidy_replace hr i (List.forall_mem_cons.mpr ⟨hfirst, hls⟩)
    rw [← hinside]
    split
    · exact hall.extract _ _
    · exact hall
  have hbounds : i + 1 + ls.length ≤ lines.size ∧ lines.size ≤ r.lines.size := by
    rw [← hinside]
    split
    · rw [Array.size_extract]
      omega
    · omega
  have hline : lines[i]? = some first := by
    have hall := @line?_replace r i first ls hi.le
    rw [← hinside]
    split
    · rw [Array.getElem?_extract, if_pos (by omega), Nat.zero_add]
      exact hall
    · exact hall
  have hadmits : Region.Admits ⟨lines, 0, r.listMargin⟩ i := admits_of_line? hline fun _ => hindent
  have hstart : i ≤ lines.size := by omega
  have hinner := (hread ⟨lines, 0, r.listMargin⟩ d i (i + 1 + ls.length) (i + 1) htidy hstart
    hbounds.1 (.inr ⟨rfl, by omega, hadmits⟩)).mono hbounds.2
  refine ⟨hinner.le_next, hinner.next_le, fun first' last inner hquote => ?_⟩
  cases List.mem_singleton.mp hquote
  exact ⟨hinner.le_next, hinner.next_le⟩

/-- An item without content takes the line below it as well, if that one is empty. -/
theorem item_within {l : Line} {m : ListMarker} (hread : read.Advances) (hr : Tidy r.lines)
    (hl : r.line? i = some l) (hi : i < stop) (hstop : stop ≤ r.lines.size) :
    (if (itemLine l m).1.isEmpty && r.isEmpty (i + 1) then (⟨[], d, min (i + 2) stop⟩ : Reading)
      else read ⟨r.replace i [(itemLine l m).1], (itemLine l m).2, some r.margin⟩ d i stop).Within
      (i + 1) r.lines.size := by
  have hsize : (r.replace i [(itemLine l m).1]).size = r.lines.size :=
    size_replace (lt_size_of_line? hl)
  split
  · exact ⟨by dsimp only; omega, (Nat.min_le_right _ _).trans hstop, nofun⟩
  · have htidy := tidy_replace hr i (List.forall_mem_singleton.mpr
      (not_mem_body_itemLine m (not_mem_body_of_line? hr hl)))
    have hadmits : Region.Admits
        ⟨r.replace i [(itemLine l m).1], (itemLine l m).2, some r.margin⟩ i :=
      admits_of_line? (line?_replace (lt_size_of_line? hl).le) (margin_itemLine_le l m)
    exact (hread _ d i stop (i + 1) htidy (hi.le.trans (hstop.trans hsize.ge))
      (hstop.trans hsize.ge) (.inr ⟨rfl, hi, hadmits⟩)).mono hsize.le

theorem items_mem {m : ListMarker} (hread : read.Advances) (hr : Tidy r.lines) (hi : i < stop)
    (hstop : stop ≤ r.lines.size) (hfuel : 0 < fuel) :
    i + 1 ≤ (r.items read stop m fuel d i).2.2 ∧
      (r.items read stop m fuel d i).2.2 ≤ r.lines.size := by
  induction fuel generalizing m d i with
  | zero => cases hfuel
  | succ fuel ih =>
    rw [items]
    split
    · next hl =>
      have hsize := Array.getElem?_eq_none_iff.mp hl
      omega
    next l hl =>
      have hinner := @item_within r read d i stop l m hread hr hl hi hstop
      dsimp only
      generalize (if (itemLine l m).1.isEmpty && r.isEmpty (i + 1) then
        (⟨[], d, min (i + 2) stop⟩ : Reading)
        else read ⟨r.replace i [(itemLine l m).1], (itemLine l m).2, some r.margin⟩ d i stop) =
          inner at hinner ⊢
      split
      · exact ⟨hinner.le_next, hinner.next_le⟩
      next m' hm' =>
        obtain rfl | hfuel := Nat.eq_zero_or_pos fuel
        · exact ⟨hinner.le_next, hinner.next_le⟩
        -- The next item starts where this one ends, before the end of the list.
        · obtain ⟨l', -, hm'⟩ := Option.bind_eq_some_iff.mp hm'
          split at hm'
          · cases hm'
          next hgoes =>
            simp only [Bool.or_eq_true, decide_eq_true_eq, not_or] at hgoes
            obtain ⟨hle, hend⟩ := @ih _ _ m' (Nat.lt_of_not_le hgoes.1.1.1) hfuel
            exact ⟨(hinner.le_next.trans (Nat.le_succ _)).trans hle, hend⟩

theorem block_within {l : Line} (hquoted : quoted.Advances) (hlisted : listed.Advances)
    (hr : Tidy r.lines) (hl : r.line? i = some l) (hi : i < stop) (hstop : stop ≤ r.lines.size) :
    (r.block quoted listed d i stop l).Within (i + 1) r.lines.size := by
  have hnext : i + 1 ≤ r.lines.size := lt_size_of_line? hl
  have hhere : i + 1 ≤ i + 1 ∧ i + 1 ≤ r.lines.size := ⟨Nat.le_refl _, hnext⟩
  rw [block]
  split
  · next header hheader =>
    obtain ⟨hle, hsize⟩ := tableRows_mem (lt_size_of_tableHeader? hheader)
    exact Reading.within_single ⟨(Nat.le_succ _).trans hle, hsize⟩ nofun
  split
  · exact Reading.within_single (codeEnd_mem (Nat.le_refl _) hnext) nofun
  split
  · exact Reading.within_single (fenceEnd_mem hnext) nofun
  split
  · next first hfirst =>
    exact quote_within hquoted hr hnext
      (not_mem_body_of_unquote? (not_mem_body_of_line? hr hl) hfirst) (indent_of_unquote? hfirst)
  split
  · exact Reading.within_single hhere nofun
  split
  · exact Reading.within_single (items_mem hlisted hr hi hstop (Nat.zero_lt_of_lt hnext)) nofun
  split
  · next found hfound =>
    obtain ⟨hle, hsize⟩ := definition?_mem hr hl hfound
    exact ⟨hle, hsize, nofun⟩
  split
  · refine Reading.within_single ?_ nofun
    split
    · exact hhere
    · exact htmlEnd_mem hnext
  split
  · exact Reading.within_single hhere nofun
  split
  · next last depth hunder =>
    obtain ⟨hle, hsize⟩ := mem_of_underline? hunder
    exact Reading.within_single ⟨hle.trans (Nat.le_succ last), hsize⟩ nofun
  · exact Reading.within_single (paragraphEnd_mem hnext) nofun

theorem readBlocks_within {block? : Option (Definitions → (i : Nat) → Line → Reading)} {start : Nat}
    (hblock : ∀ block ∈ block?, ∀ d i l, r.line? i = some l → i < stop →
      (block d i l).Within (i + 1) r.lines.size)
    (hi : i ≤ r.lines.size) (hstop : stop ≤ r.lines.size)
    (hfuel : 0 < fuel ∨ start ≤ i) (hstart : start ≤ i ∨ start = i + 1 ∧ i < stop ∧ r.Admits i) :
    (r.readBlocks block? stop fuel d i).Within start r.lines.size := by
  induction fuel generalizing d i start with
  | zero => exact ⟨hfuel.resolve_left (Nat.lt_irrefl 0), hi, nofun⟩
  | succ fuel ih =>
    obtain ⟨hle, hsize⟩ := skipEmpty_mem hi
    rw [readBlocks]
    split
    · exact ⟨by dsimp only; omega, hi, nofun⟩
    dsimp only
    split
    · next hl =>
      have hend := Array.getElem?_eq_none_iff.mp hl
      exact ⟨by dsimp only; omega, hsize, nofun⟩
    next l hl =>
      split
      · next hleft =>
        refine ⟨?_, hsize, nofun⟩
        obtain hstart | ⟨rfl, hlt, hadmits⟩ := hstart
        · exact hstart.trans hle
        -- The line that the reading starts on is not empty only if it belongs to the container.
        · obtain hskip | hskip := Nat.eq_or_lt_of_le hle
          · rw [← hskip] at hl hleft
            have hempty : l.isEmpty = false := not_isEmpty_of_skipEmpty (hskip ▸ hl)
            rw [hadmits l hl hempty, Bool.or_false, decide_eq_true_eq] at hleft
            omega
          · exact hskip
      next hhere =>
        split
        · exact ⟨by dsimp only; omega, hstop, nofun⟩
        next block =>
          have hlt : r.skipEmpty i < stop := by
            rw [Bool.or_eq_true, not_or, decide_eq_true_eq] at hhere
            exact Nat.lt_of_not_le hhere.1
          have hhere := hblock block rfl d _ l hl hlt
          generalize block d (r.skipEmpty i) l = here at hhere ⊢
          generalize hnext : (if here.next < stop && r.isEmpty here.next then here.next + 1
            else here.next) = next
          have hbounds : here.next ≤ next ∧ next ≤ r.lines.size := by
            have hend := hhere.next_le
            rw [← hnext]
            split
            · next hempty =>
              have hlt := of_decide_eq_true (Bool.and_eq_true_iff.mp hempty).1
              omega
            · omega
          have hrest := @ih here.definitions next here.next hbounds.2 (.inr hbounds.1)
            (.inl hbounds.1)
          refine ⟨?_, hrest.next_le, fun first last inner hquote => ?_⟩
          · have h1 := hhere.le_next
            have h2 := hrest.le_next
            dsimp only
            omega
          · obtain hquote | hquote := List.mem_append.mp hquote
            · exact hhere.quotes first last inner hquote
            · exact hrest.quotes first last inner hquote

end Region

theorem readContainer_advances : ∀ depth, (readContainer depth).Advances
  | 0 => fun r d i stop start _ hi hstop hstart => by
    apply Region.readBlocks_within _ hi hstop (.inl (Nat.succ_pos _)) hstart
    exact fun _ h => nomatch h
  | 1 => fun r d i stop start hr hi hstop hstart => by
    apply Region.readBlocks_within _ hi hstop (.inl (Nat.succ_pos _)) hstart
    rintro _ ⟨⟩ d i l hl hi
    exact Region.block_within (readContainer_advances 0) (readContainer_advances 0) hr hl hi hstop
  | depth + 2 => fun r d i stop start hr hi hstop hstart => by
    apply Region.readBlocks_within _ hi hstop (.inl (Nat.succ_pos _)) hstart
    rintro _ ⟨⟩ d i l hl hi
    exact Region.block_within (readContainer_advances (depth + 1)) (readContainer_advances depth)
      hr hl hi hstop

/-- What the reader takes a character for. -/
def cleaned (c : Char) : Char := if c = '\x00' then '\ufffd' else c

theorem normalize_eq (s : List Char) : normalize s = (Text.unifyLineEnds s).map cleaned := by
  induction s using Text.unifyLineEnds.induct with
  | case1 s ih => rw [normalize, Text.unifyLineEnds, ih, List.map_cons, cleaned, if_neg (by decide)]
  | case2 s hs ih =>
    rw [normalize, Text.unifyLineEnds, ih, List.map_cons, if_pos rfl, cleaned, if_neg (by decide)]
    · exact hs
    · exact fun t _ => hs t
  | case3 c s _ hc ih =>
    have hreturn : c ≠ '\r' := fun h => hc h
    rw [normalize, Text.unifyLineEnds, ih, List.map_cons, if_neg hreturn, cleaned]
    all_goals assumption
  | case4 => rfl

/-- The reader counts lines as line feeds and carriage returns end them. -/
theorem length_linesOf_normalize_le (s : List Char) :
    (linesOf (normalize s)).length ≤ (Text.dropLastEmpty (Text.plainLines s)).length := by
  have hfeed (c : Char) : (cleaned c == '\n') = (c == '\n') := by
    rw [cleaned]
    split
    · next hc => rw [hc]; rfl
    · rfl
  rw [linesOf, normalize_eq, Text.splitOn_map hfeed, ← Text.plainLines, List.length_map,
    List.getLast?_map, Text.dropLastEmpty]
  by_cases hlast : (Text.plainLines s).getLast? = some []
  · have hblank : ((Option.map (List.map cleaned) (some [])).getD []).all isTabOrSpace := rfl
    rw [if_pos hlast, hlast, if_pos hblank, List.length_dropLast, List.length_dropLast,
      List.length_map]
  · rw [if_neg hlast]
    split
    · rw [List.length_dropLast, List.length_map]
      exact Nat.sub_le _ 1
    · rw [List.length_map]

theorem tidy_linesOf (s : List Char) : Tidy (linesOf s).toArray := by
  intro l hl
  obtain ⟨part, hpart, rfl⟩ := List.mem_map.mp (List.mem_toArray.mp hl)
  have hmem : part ∈ Text.splitOn '\n' s := by
    split at hpart
    · exact List.dropLast_subset _ hpart
    · exact hpart
  exact fun h => Text.not_mem_of_mem_splitOn hmem ((List.dropWhile_suffix _).subset h)

/-- The source of a quote is a range of the lines of the text. -/
theorem Document.range_of_quote {source : String} {first last : Nat} {inner : List Block}
    (h : .quote first last inner ∈ (Document.parse source).blocks) :
    first < last ∧ last ≤ (Text.dropLastEmpty (Text.plainLines source.toList)).length := by
  have hread : (readContainer maxNesting ⟨(linesOf (normalize source.toList)).toArray, 0, none⟩
      Definitions.empty 0 (linesOf (normalize source.toList)).toArray.size).Within 0
      (linesOf (normalize source.toList)).length :=
    readContainer_advances maxNesting _ _ _ _ _ (tidy_linesOf _) (Nat.zero_le _) (Nat.le_refl _)
      (.inl (Nat.le_refl _))
  obtain ⟨hlt, hlast⟩ := hread.quotes first last inner h
  exact ⟨hlt, hlast.trans (length_linesOf_normalize_le source.toList)⟩

end SlideDeck.Markdown
