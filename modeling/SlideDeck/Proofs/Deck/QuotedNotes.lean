import SlideDeck.Proofs.Deck.Forms
import SlideDeck.Proofs.Deck.Quotes
import SlideDeck.Proofs.Markdown.QuoteMarks
import SlideDeck.Proofs.Text.Trim

/-!
Notes in quotes. The notes are the first line behind the note mark that is not blank, as it stands
in the source. So they are all that the quote says behind its mark only if it says it on one line,
and on one that has no quote mark in front.
-/

namespace SlideDeck.Deck

open Markdown

/-- A line of a quote without the quote mark, the white space in front of it and a space behind it.
A line that has no mark continues the paragraph above it. -/
def unquoted (l : List Char) : List Char :=
  match l.dropWhile isTabOrSpace with
  | '>' :: ' ' :: s => s
  | '>' :: s => s
  | _ => l

/-- The lines of a quote in the source. -/
def quoteSource (source : String) (first last : Nat) : List (List Char) :=
  ((Text.plainLines source.toList).take last).drop first

/-- What a quote says. -/
def quotedText (lines : List (List Char)) : List Char :=
  Text.joinWith ['\n'] (lines.map unquoted)

/-- Behind a note mark stands `r`, and then the lines of `below`: all that they say is on the line
of the mark, or on one line below it that has no quote mark, nor has any above it. -/
inductive StandsOnOneLine (r : List Char) : List (List Char) → Prop
  | here {below : List (List Char)} : ¬r.all Text.isBlank →
      (∀ l ∈ below, (unquoted l).all Text.isBlank) → StandsOnOneLine r below
  | below {front back : List (List Char)} {l : List Char} : r.all Text.isBlank →
      (∀ x ∈ front, x.all Text.isBlank) → ¬l.all Text.isBlank → unquoted l = l →
      (∀ x ∈ back, (unquoted x).all Text.isBlank) → StandsOnOneLine r (front ++ l :: back)

theorem all_isBlank_of_isTabOrSpace {s : List Char} (h : s.all isTabOrSpace) :
    s.all Text.isBlank := by
  rw [List.all_eq_true] at h ⊢
  intro c hc
  have hspace := h c hc
  simp only [isTabOrSpace, Bool.or_eq_true, beq_iff_eq] at hspace
  obtain rfl | rfl := hspace <;> decide

/-- A line has a mark that it loses, or stays as it is. -/
theorem unquoted_cases (l : List Char) :
    unquoted l = l ∨ ∃ front s, l = front ++ '>' :: s ∧ front.all isTabOrSpace ∧
      (unquoted l = s ∨ s = ' ' :: unquoted l) := by
  obtain ⟨hl, hfront, -⟩ := (cut_iff isTabOrSpace l _ _).mp ⟨rfl, rfl⟩
  rw [unquoted]
  split
  · next s hs => exact .inr ⟨_, _, hs ▸ hl, hfront, .inr rfl⟩
  · next s _ hs => exact .inr ⟨_, _, hs ▸ hl, hfront, .inl rfl⟩
  · exact .inl rfl

/-- The mark of a line is all that a blank line of a quote shows, and it goes in front of the rest
of any other. -/
theorem trim_of_unquoted_ne {l : List Char} (h : unquoted l ≠ l) :
    Text.trim l ≠ Text.trim (unquoted l) ∧
      ((unquoted l).all Text.isBlank → Text.trim l = ['>']) := by
  obtain ⟨front, s, hl, hfront, hs⟩ := (unquoted_cases l).resolve_left h
  have htrim : Text.trim l = '>' :: Text.dropEndWhile Text.isBlank s := by
    rw [hl, Text.trim_append_left (all_isBlank_of_isTabOrSpace hfront), Text.trim_cons (by decide)]
  have hrest : Text.trim (unquoted l) = Text.trim s ∧
      ((unquoted l).all Text.isBlank → s.all Text.isBlank) := by
    obtain hs | hs := hs
    · rw [hs]
      exact ⟨rfl, id⟩
    · refine ⟨?_, fun hblank => ?_⟩
      · have hspace : Text.trim ([' '] ++ unquoted l) = Text.trim (unquoted l) :=
          Text.trim_append_left (by decide) _
        rw [hs]
        exact hspace.symm
      · rw [hs, List.all_cons, hblank]
        decide
  refine ⟨fun heq => ?_, fun hblank => ?_⟩
  · have hlength := Text.length_trim_le s
    rw [← hrest.1, ← heq, htrim, List.length_cons] at hlength
    exact Nat.not_succ_le_self _ hlength
  · rw [htrim, Text.dropEndWhile_eq, List.rdropWhile_eq_nil_iff.mpr
      (List.all_eq_true.mp (hrest.2 hblank))]

/-- Lines that are not all blank have a first one that is not. -/
theorem exists_first_shown {ls : List (List Char)} (h : ¬∀ l ∈ ls, l.all Text.isBlank) :
    ∃ front l back, ls = front ++ l :: back ∧ (∀ x ∈ front, x.all Text.isBlank) ∧
      ¬l.all Text.isBlank := by
  simp only [not_forall] at h
  obtain ⟨l, hl, hshown⟩ := h
  obtain ⟨found, hfound⟩ : ∃ found, ls.find? (fun x => !x.all Text.isBlank) = some found :=
    Option.isSome_iff_exists.mp (List.find?_isSome.mpr ⟨l, hl, by simpa using hshown⟩)
  obtain ⟨hshown, front, back, rfl, hfront⟩ := List.find?_eq_some_iff_append.mp hfound
  exact ⟨front, found, back, rfl, fun x hx => by simpa using hfront x hx, by simpa using hshown⟩

theorem first_shown_unique {front back front' back' : List (List Char)} {l l' : List Char}
    (h : front ++ l :: back = front' ++ l' :: back') (hfront : ∀ x ∈ front, x.all Text.isBlank)
    (hl : ¬l.all Text.isBlank) (hfront' : ∀ x ∈ front', x.all Text.isBlank)
    (hl' : ¬l'.all Text.isBlank) : l = l' := by
  have hfind : (front ++ l :: back).find? (fun x => !x.all Text.isBlank) = some l :=
    List.find?_eq_some_iff_append.mpr
      ⟨by simpa using hl, front, back, rfl, fun x hx => by simpa using hfront x hx⟩
  have hfind' : (front' ++ l' :: back').find? (fun x => !x.all Text.isBlank) = some l' :=
    List.find?_eq_some_iff_append.mpr
      ⟨by simpa using hl', front', back', rfl, fun x hx => by simpa using hfront' x hx⟩
  rw [h] at hfind
  exact Option.some.inj (hfind.symm.trans hfind')

/-- A note line is the line that it is cut out of, but for white space. -/
theorem exists_isNoteLine {above l below : List Char} (habove : above.all Text.isBlank)
    (hl : ¬l.all Text.isBlank) (hline : '\n' ∉ l) (hbelow : ∀ c ∈ below.head?, c = '\n') :
    ∃ line, IsNoteLine (Text.dropEndWhile Text.isBlank (above ++ (l ++ below))) line ∧
      Text.trim line = Text.trim l := by
  obtain ⟨hgap, hblank, hhead⟩ := (cut_iff Text.isBlank l _ _).mp ⟨rfl, rfl⟩
  have habove' : (above ++ l.takeWhile Text.isBlank).all Text.isBlank := by
    rw [List.all_append, habove, hblank]
    rfl
  have hrest : ¬(l.dropWhile Text.isBlank).all Text.isBlank := by
    intro hrest
    rw [hgap, List.all_append, hblank, hrest] at hl
    exact hl rfl
  have hmem : '\n' ∉ l.dropWhile Text.isBlank := fun h =>
    hline ((List.dropWhile_suffix _).subset h)
  by_cases hb : below.all Text.isBlank
  · have htext : Text.dropEndWhile Text.isBlank (above ++ (l ++ below)) =
        above ++ l.takeWhile Text.isBlank ++ (Text.trim l ++ []) := by
      rw [← List.append_assoc above, Text.dropEndWhile_append_of_all _ hb, hgap,
        ← List.append_assoc, Text.dropEndWhile_append_of_not_all _ hrest, ← hgap, List.append_nil]
      rfl
    refine ⟨Text.trim l, ⟨_, [], htext, habove', fun c hc => ?_, fun h => ?_, fun c hc => ?_⟩,
      Text.trim_trim l⟩
    · rw [List.append_nil] at hc
      exact hhead c (Text.head?_dropEndWhile hc)
    · exact hmem ((List.rdropWhile_prefix _ _).subset h)
    · cases hc
  · have htext : Text.dropEndWhile Text.isBlank (above ++ (l ++ below)) =
        above ++ l.takeWhile Text.isBlank ++
          (l.dropWhile Text.isBlank ++ Text.dropEndWhile Text.isBlank below) := by
      rw [← List.append_assoc above, Text.dropEndWhile_append_of_not_all _ hb]
      nth_rewrite 1 [hgap]
      simp only [List.append_assoc]
    refine ⟨l.dropWhile Text.isBlank, ⟨_, _, htext, habove', fun c hc => ?_, hmem, fun c hc => ?_⟩,
      ?_⟩
    · refine hhead c ?_
      cases hd : l.dropWhile Text.isBlank with
      | nil => exact absurd (by rw [hd]; rfl) hrest
      | cons d s =>
        rw [hd] at hc
        exact hc
    · exact hbelow c (Text.head?_dropEndWhile hc)
    · nth_rewrite 2 [hgap]
      rw [Text.trim_append_left hblank]

theorem head?_below {back : List (List Char)} {c : Char}
    (h : (back.flatMap ('\n' :: ·)).head? = some c) : c = '\n' := by
  cases back with
  | nil => cases h
  | cons b back =>
    cases h
    rfl

/-- The notes of a quote are the first line behind the mark that is not blank. -/
theorem formOf_of_noteLines {indent gap : List Char} {front back : List (List Char)} {l : List Char}
    (hindent : indent.all Text.isBlank) (hgap : gap.all Text.isBlank)
    (hfront : ∀ x ∈ front, x.all Text.isBlank) (hl : ¬l.all Text.isBlank) (hline : '\n' ∉ l) :
    formOf (String.ofList (indent ++ ('>' :: gap ++ noteMark) ++
        Text.joinWith ['\n'] (front ++ l :: back))) =
      .note (String.ofList (Text.trim l)) := by
  obtain ⟨line, hnote, htrim⟩ := exists_isNoteLine ((Text.all_above_iff front).mpr hfront) hl hline
    fun _ h => head?_below h
  refine formOf_of_reads ?_
  rw [String.toList_ofList, Text.joinWith_append, noteMark, trim_note gap _ hindent]
  exact ⟨_, line, ⟨gap, rfl, hgap⟩, hnote, by rw [String.toList_ofList, htrim]⟩

/-- What starts lines and holds no line feed starts the first line. -/
theorem exists_of_joinWith {l front rest : List Char} {ls : List (List Char)}
    (hfront : '\n' ∉ front) (h : Text.joinWith ['\n'] (l :: ls) = front ++ rest) :
    ∃ r, l = front ++ r ∧ rest = Text.joinWith ['\n'] (r :: ls) := by
  rw [Text.joinWith_cons_eq] at h
  obtain ⟨r, hl, hrest⟩ | ⟨r, hl, hrest⟩ := List.append_eq_append_iff.mp h
  · cases r with
    | nil =>
      rw [List.append_nil] at hl
      exact ⟨[], by rw [hl, List.append_nil], by rw [Text.joinWith_cons_eq]; exact hrest.symm⟩
    | cons c r =>
      have hc : c = '\n' := head?_below (by rw [hrest]; rfl)
      rw [hl, hc] at hfront
      exact absurd (List.mem_append_right _ List.mem_cons_self) hfront
  · exact ⟨r, hl, by rw [hrest, Text.joinWith_cons_eq]⟩

/-- What a quote says behind its note mark is the rest of the first line, and the lines below. -/
theorem exists_of_quotedText {l gap rest : List Char} {below : List (List Char)}
    (hmark : unquoted l ≠ l) (hgap : gap.all Text.isBlank) (hline : '\n' ∉ gap)
    (h : quotedText (l :: below) = gap ++ noteMark ++ rest) :
    ∃ indent gap' r, l = indent ++ ('>' :: gap' ++ noteMark) ++ r ∧ indent.all Text.isBlank ∧
      gap'.all Text.isBlank ∧ unquoted l = gap ++ noteMark ++ r ∧
      rest = Text.joinWith ['\n'] (r :: below.map unquoted) := by
  rw [quotedText, List.map_cons] at h
  obtain ⟨r, hr, hrest⟩ := exists_of_joinWith (by simpa [noteMark] using hline) h
  obtain ⟨indent, s, hl, hindent, hs⟩ := (unquoted_cases l).resolve_left hmark
  have hindent := all_isBlank_of_isTabOrSpace hindent
  rw [hr] at hs
  obtain rfl | rfl := hs
  · exact ⟨indent, gap, r, by rw [hl]; simp, hindent, hgap, hr, hrest⟩
  · exact ⟨indent, ' ' :: gap, r, by rw [hl]; simp, hindent, by simp [hgap]; decide, hr, hrest⟩

theorem unquoted_ne_of_mark {front : List Char} (s : List Char) (h : front.all isTabOrSpace) :
    unquoted (front ++ '>' :: s) ≠ front ++ '>' :: s := by
  have hdrop : (front ++ '>' :: s).dropWhile isTabOrSpace = '>' :: s := by
    rw [List.dropWhile_append_of_pos (List.all_eq_true.mp h)]
    rfl
  have hshort : (unquoted (front ++ '>' :: s)).length ≤ s.length := by
    rw [unquoted, hdrop]
    split
    · next s' hs =>
      rw [(List.cons.inj hs).2, List.length_cons]
      exact Nat.le_succ _
    · next s' _ hs => rw [(List.cons.inj hs).2]
    · next hnone => exact absurd rfl (hnone s)
  intro heq
  rw [heq, List.length_append, List.length_cons] at hshort
  omega

/-- A line that shows something in a quote shows it in the source. -/
theorem all_isBlank_unquoted {l : List Char} (h : l.all Text.isBlank) :
    (unquoted l).all Text.isBlank := by
  by_cases hmark : unquoted l = l
  · rwa [hmark]
  · obtain ⟨front, s, rfl, -⟩ := (unquoted_cases l).resolve_left hmark
    rw [List.all_append, List.all_cons, Bool.and_eq_true, Bool.and_eq_true] at h
    exact absurd h.2.1 (by decide)

theorem not_all_isBlank_source {r : List Char} {below : List (List Char)}
    (h : ¬(Text.joinWith ['\n'] (r :: below.map unquoted)).all Text.isBlank) :
    ¬∀ l ∈ r :: below, l.all Text.isBlank := by
  intro hall
  obtain ⟨hr, hbelow⟩ := List.forall_mem_cons.mp hall
  rw [Text.all_joinWith_iff, List.forall_mem_cons, List.forall_mem_map] at h
  exact h ⟨hr, fun l hl => all_isBlank_unquoted (hbelow l hl)⟩

/-- A rest on one line is what the first line shows that is not blank. -/
theorem StandsOnOneLine.exists_shown {r : List Char} {below : List (List Char)}
    (h : StandsOnOneLine r below) :
    ∃ front l back, r :: below = front ++ l :: back ∧ (∀ x ∈ front, x.all Text.isBlank) ∧
      ¬l.all Text.isBlank ∧
      Text.trim (Text.joinWith ['\n'] (r :: below.map unquoted)) = Text.trim l := by
  cases h with
  | here hr hbelow =>
    have hblank : ∀ l ∈ below.map unquoted, l.all Text.isBlank := List.forall_mem_map.mpr hbelow
    have htrim : Text.trim (Text.joinWith ['\n'] ([] ++ r :: below.map unquoted)) = Text.trim r :=
      Text.trim_joinWith r (List.forall_mem_nil _) hblank
    exact ⟨[], r, below, rfl, List.forall_mem_nil _, hr, htrim⟩
  | @below front back l hr hfront hl hmark hback =>
    refine ⟨r :: front, l, back, rfl, List.forall_mem_cons.mpr ⟨hr, hfront⟩, hl, ?_⟩
    have hlines : r :: (front ++ l :: back).map unquoted =
        (r :: front.map unquoted) ++ l :: back.map unquoted := by
      rw [List.map_append, List.map_cons, hmark]
      rfl
    rw [hlines]
    refine Text.trim_joinWith l ?_ (by simpa using hback)
    refine List.forall_mem_cons.mpr ⟨hr, fun x hx => ?_⟩
    obtain ⟨y, hy, rfl⟩ := List.mem_map.mp hx
    exact all_isBlank_unquoted (hfront y hy)

/-- Where the first line below the mark that shows anything in the quote is not on one line with it,
the notes have a quote mark: that of the line, or that of a blank one above it. -/
theorem trim_of_first_below {f b front back : List (List Char)} {r x l : List Char}
    (hlines : r :: (f ++ x :: b) = front ++ l :: back) (hfront : ∀ y ∈ front, y.all Text.isBlank)
    (hl : ¬l.all Text.isBlank) (hr : r.all Text.isBlank)
    (hf : ∀ y ∈ f, (unquoted y).all Text.isBlank) (hx : ¬(unquoted x).all Text.isBlank)
    (hb : ∀ y ∈ b, (unquoted y).all Text.isBlank) (h : ¬StandsOnOneLine r (f ++ x :: b)) :
    Text.trim l = ['>'] ∨ Text.trim l ≠ Text.trim (unquoted x) := by
  by_cases hblank : ∀ y ∈ f, y.all Text.isBlank
  · have hshown : ¬x.all Text.isBlank := fun hshown => hx (all_isBlank_unquoted hshown)
    have hlines' : front ++ l :: back = (r :: f) ++ x :: b := hlines.symm
    have hfirst : l = x :=
      first_shown_unique hlines' hfront hl (List.forall_mem_cons.mpr ⟨hr, hblank⟩) hshown
    have hmark : unquoted x ≠ x := fun hmark => h (.below hr hblank hshown hmark hb)
    rw [hfirst]
    exact .inr (trim_of_unquoted_ne hmark).1
  · obtain ⟨f₁, y, f₂, rfl, hf₁, hy⟩ := exists_first_shown hblank
    have hlines' : front ++ l :: back = (r :: f₁) ++ y :: (f₂ ++ x :: b) := by
      rw [← hlines]
      simp
    have hfirst : l = y :=
      first_shown_unique hlines' hfront hl (List.forall_mem_cons.mpr ⟨hr, hf₁⟩) hy
    have hquoted := hf y (List.mem_append_right f₁ List.mem_cons_self)
    have hmark : unquoted y ≠ y := by
      intro hmark
      rw [hmark] at hquoted
      exact hy hquoted
    rw [hfirst]
    exact .inl ((trim_of_unquoted_ne hmark).2 hquoted)

/-- A rest that does not stand on one line is not what the first line shows that is not blank. A
lone quote mark may be shown for another one. -/
theorem trim_ne_of_not_standsOnOneLine {r l : List Char} {below front back : List (List Char)}
    (hlines : r :: below = front ++ l :: back) (hfront : ∀ x ∈ front, x.all Text.isBlank)
    (hl : ¬l.all Text.isBlank) (hline : '\n' ∉ l)
    (hrest : ¬(Text.joinWith ['\n'] (r :: below.map unquoted)).all Text.isBlank)
    (h : ¬StandsOnOneLine r below) :
    Text.trim (Text.joinWith ['\n'] (r :: below.map unquoted)) = ['>'] ∨
      Text.trim l ≠ Text.trim (Text.joinWith ['\n'] (r :: below.map unquoted)) := by
  rw [Text.all_joinWith_iff] at hrest
  obtain ⟨shown, u, rest, hshown, hblank, hu⟩ := exists_first_shown hrest
  rw [hshown]
  by_cases hlast : ∀ x ∈ rest, x.all Text.isBlank
  · rw [Text.trim_joinWith u hblank hlast]
    cases shown with
    | nil =>
      obtain ⟨rfl, rfl⟩ := List.cons.inj hshown
      exact absurd (.here hu (List.forall_mem_map.mp hlast)) h
    | cons r' shown =>
      obtain ⟨rfl, hbelow⟩ := List.cons.inj hshown
      obtain ⟨f, xb, rfl, rfl, hxb⟩ := List.map_eq_append_iff.mp hbelow
      obtain ⟨x, b, rfl, rfl, rfl⟩ := List.map_eq_cons_iff.mp hxb
      obtain ⟨hr, hf⟩ := List.forall_mem_cons.mp hblank
      obtain hl' | hne := trim_of_first_below hlines hfront hl hr (List.forall_mem_map.mp hf) hu
        (List.forall_mem_map.mp hlast) h
      · by_cases heq : Text.trim l = Text.trim (unquoted x)
        · exact .inl (heq.symm.trans hl')
        · exact .inr heq
      · exact .inr hne
  -- A second line leaves its line feed in the rest, but the notes hold none.
  · refine .inr fun heq => ?_
    have hfeed : '\n' ∈ Text.trim l := by
      rw [heq]
      exact Text.mem_trim_joinWith hu hlast
    obtain ⟨a, b, ha, -⟩ := Text.exists_trim l
    rw [ha] at hline
    exact hline (List.mem_append_left b (List.mem_append_right a hfeed))

/-- A quote has a first line, which has a mark. -/
theorem exists_quoteSource {source : String} {first last : Nat} {inner : List Block}
    (h : .quote first last inner ∈ (Document.parse source).blocks) :
    ∃ l below, quoteSource source first last = l :: below ∧ unquoted l ≠ l := by
  obtain ⟨hlt, hlast⟩ := Document.range_of_quote h
  obtain ⟨front, s, hl, hfront⟩ := Document.mark_of_quote h
  have hcount := hlast.trans (Text.dropLastEmpty_isPrefix _).length_le
  obtain ⟨hfirst, hl⟩ := List.getElem?_eq_some_iff.mp hl
  refine ⟨_, _, List.drop_eq_getElem_cons (by simp; omega), ?_⟩
  rw [List.getElem_take, hl]
  exact unquoted_ne_of_mark s hfront

theorem not_mem_of_mem_quoteSource {source : String} {first last : Nat} {l : List Char}
    (h : l ∈ quoteSource source first last) : '\n' ∉ l :=
  Text.not_mem_of_mem_splitOn (List.mem_of_mem_take (List.mem_of_mem_drop h))

/-- The text of a quote is its source if no boundary but line ends stands further up. -/
theorem passage_of_quote {source : String} {i first last : Nat} {inner : List Block}
    (h : (Document.parse source).blocks[i]? = some (.quote first last inner))
    (hplain : ∀ l ∈ (Text.plainLines source.toList).take last, l.all (!Text.isLineEnd ·)) :
    ∃ phrases, (passages source)[i]? = some (.paragraph
      (String.ofList (Text.joinWith ['\n'] (quoteSource source first last))) phrases) := by
  obtain ⟨-, hlast⟩ := Document.range_of_quote (List.mem_of_getElem? h)
  have htext : sourceLines source first last =
      String.ofList (Text.joinWith ['\n'] (quoteSource source first last)) := by
    rw [sourceLines, Text.take_lines_of_plain hlast hplain, quoteSource]
  rw [passages, List.getElem?_map, h, Option.map_some, passage, htext]
  exact ⟨_, rfl⟩

theorem buildFrom_note {text note : String} (h : formOf text = .note note) (phrases : List Phrase)
    (slide : Slide) (later : List Passage) :
    buildFrom (some slide) (.paragraph text phrases :: later) =
      buildFrom (some { slide with notes := some note }) later := by
  have hadds : contribution (.paragraph text phrases) = .ok { notes := some note } := by
    rw [contribution, paragraphContribution, h]
  have hslide : slide.add { notes := some note } = { slide with notes := some note } := by
    rw [Slide.add, List.append_nil, Option.some_or]
  rw [buildFrom, hadds]
  · dsimp only
    rw [hslide]
    rfl
  · rintro _ ⟨⟩

/-- A quote that says `Note:` and a rest that is not blank sets the notes of the open slide, and
nothing else: to the first line behind the mark that is not blank, as the source has it. That is the
whole rest if it stands on one line, and not otherwise, but for a rest that is a lone quote mark. -/
theorem notes_of_quote {source : String} {i first last : Nat} {inner : List Block}
    {gap rest : List Char}
    (h : (Document.parse source).blocks[i]? = some (.quote first last inner))
    (hplain : ∀ l ∈ (Text.plainLines source.toList).take last, l.all (!Text.isLineEnd ·))
    (hquoted : quotedText (quoteSource source first last) = gap ++ noteMark ++ rest)
    (hgap : gap.all Text.isBlank) (hline : '\n' ∉ gap) (hrest : ¬rest.all Text.isBlank) :
    ∃ p notes l r below, (passages source)[i]? = some p ∧
      (∀ slide later, buildFrom (some slide) (p :: later) =
        buildFrom (some { slide with notes := some notes }) later) ∧
      quoteSource source first last = l :: below ∧ unquoted l = gap ++ noteMark ++ r ∧
      (∃ front shown back, r :: below = front ++ shown :: back ∧
        (∀ x ∈ front, x.all Text.isBlank) ∧ ¬shown.all Text.isBlank ∧
        notes.toList = Text.trim shown) ∧
      (StandsOnOneLine r below → notes.toList = Text.trim rest) ∧
      (¬StandsOnOneLine r below → Text.trim rest = ['>'] ∨ notes.toList ≠ Text.trim rest) := by
  have hmem := List.mem_of_getElem? h
  obtain ⟨phrases, hpassage⟩ := passage_of_quote h hplain
  obtain ⟨l, below, hsource, hmark⟩ := exists_quoteSource hmem
  rw [hsource] at hpassage hquoted
  obtain ⟨indent, gap', r, hl, hindent, hgap', hr, rfl⟩ :=
    exists_of_quotedText hmark hgap hline hquoted
  obtain ⟨front, shown, back, hlines, hfront, hshown⟩ :=
    exists_first_shown (not_all_isBlank_source hrest)
  have hfeed : '\n' ∉ shown := by
    have hall : ∀ x ∈ l :: below, '\n' ∉ x := fun x hx => by
      rw [← hsource] at hx
      exact not_mem_of_mem_quoteSource hx
    obtain ⟨hfirst, hbelow⟩ := List.forall_mem_cons.mp hall
    rw [hl, List.mem_append, not_or] at hfirst
    have hsome : shown ∈ r :: below := by
      rw [hlines]
      exact List.mem_append_right front List.mem_cons_self
    exact (List.forall_mem_cons.mpr ⟨hfirst.2, hbelow⟩ : ∀ x ∈ r :: below, '\n' ∉ x) shown hsome
  have htext : Text.joinWith ['\n'] (l :: below) =
      indent ++ ('>' :: gap' ++ noteMark) ++ Text.joinWith ['\n'] (front ++ shown :: back) := by
    rw [← hlines, Text.joinWith_cons_eq, Text.joinWith_cons_eq, hl, List.append_assoc _ r]
  have hform : formOf (String.ofList (Text.joinWith ['\n'] (l :: below))) =
      .note (String.ofList (Text.trim shown)) := by
    rw [htext]
    exact formOf_of_noteLines hindent hgap' hfront hshown hfeed
  refine ⟨_, _, l, r, below, hpassage, buildFrom_note hform phrases, hsource, hr,
    ⟨front, shown, back, hlines, hfront, hshown, String.toList_ofList⟩, fun hone => ?_,
    fun hmore => ?_⟩
  · obtain ⟨front', shown', back', hlines', hfront', hshown', htrim⟩ := hone.exists_shown
    rw [String.toList_ofList, htrim, first_shown_unique (hlines.symm.trans hlines') hfront hshown
      hfront' hshown']
  · rw [String.toList_ofList]
    exact trim_ne_of_not_standsOnOneLine hlines hfront hshown hfeed hrest hmore

/-- A note whose rest continues on the next line, without a mark there, and with one below. -/
def continuedNote : String := "# T\n\n>  Note: \ntalk *slowly*\n>"

theorem notes_of_quote_continuedNote :
    (Document.parse continuedNote).blocks[1]? =
        some (.quote 2 5 [.paragraph "Note: \ntalk *slowly*"]) ∧
      quotedText (quoteSource continuedNote 2 5) = " Note: \ntalk *slowly*\n".toList ∧
      ∃ p, (passages continuedNote)[1]? = some p ∧
        ∀ slide later, buildFrom (some slide) (p :: later) =
          buildFrom (some { slide with notes := some "talk *slowly*" }) later := by
  have hquote : (Document.parse continuedNote).blocks[1]? =
      some (.quote 2 5 [.paragraph "Note: \ntalk *slowly*"]) :=
    getElem?_of_paragraphQuote? (by decide +kernel)
  have hlines : quoteSource continuedNote 2 5 =
      [">  Note: ".toList, "talk *slowly*".toList, ">".toList] := by decide
  have hquoted : quotedText (quoteSource continuedNote 2 5) =
      [' '] ++ noteMark ++ " \ntalk *slowly*\n".toList := by decide
  obtain ⟨p, notes, l, r, below, hp, hadds, hsource, hr, -, hone, -⟩ :=
    notes_of_quote hquote (by decide) hquoted (by decide) (by decide) (by decide)
  rw [hlines] at hsource
  obtain ⟨rfl, rfl⟩ := List.cons.inj hsource
  obtain rfl : r = [' '] := by
    have hfirst : unquoted ">  Note: ".toList = [' '] ++ noteMark ++ [' '] := by decide
    exact List.append_cancel_left (hr.symm.trans hfirst)
  have hbelow : StandsOnOneLine [' '] ([] ++ "talk *slowly*".toList :: [">".toList]) :=
    .below (by decide) (List.forall_mem_nil _) (by decide) (by decide) (by decide)
  have hnotes := hone hbelow
  obtain rfl : notes = "talk *slowly*" := String.toList_inj.mp (hnotes.trans (by decide))
  exact ⟨hquote, hquoted, p, hp, hadds⟩

/-- The second line of a note is lost. -/
theorem not_forall_notes_of_quote :
    ¬∀ (source : String) (i first last : Nat) (inner : List Block) (gap rest : List Char),
      (Document.parse source).blocks[i]? = some (.quote first last inner) →
      quotedText (quoteSource source first last) = gap ++ noteMark ++ rest →
      gap.all Text.isBlank → '\n' ∉ gap → ¬rest.all Text.isBlank →
        ∃ p, (passages source)[i]? = some p ∧
          ∀ slide later, buildFrom (some slide) (p :: later) = buildFrom
            (some { slide with notes := some (String.ofList (Text.trim rest)) }) later := by
  intro h
  have hquote : (Document.parse "> Note: a\n> b").blocks[0]? =
      some (.quote 0 2 [.paragraph "Note: a\nb"]) :=
    getElem?_of_paragraphQuote? (by decide +kernel)
  have hquoted : quotedText (quoteSource "> Note: a\n> b" 0 2) =
      [] ++ noteMark ++ " a\nb".toList := by decide
  obtain ⟨p, hp, hadds⟩ := h _ _ _ _ _ _ _ hquote hquoted rfl List.not_mem_nil (by decide)
  obtain ⟨phrases, hpassage⟩ := passage_of_quote hquote (by decide)
  have hform : formOf (String.ofList (Text.joinWith ['\n'] (quoteSource "> Note: a\n> b" 0 2))) =
      .note "a" := by decide +kernel
  obtain rfl := Option.some.inj (hpassage.symm.trans hp)
  have hsame := (buildFrom_note hform phrases { title := "" } []).symm.trans (hadds _ [])
  have hnotes := congrArg (fun b => b.slides.toOption.map (List.map Slide.notes)) hsame
  revert hnotes
  decide

end SlideDeck.Deck
