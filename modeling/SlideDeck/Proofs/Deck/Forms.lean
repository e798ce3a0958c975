import SlideDeck.Deck.Builder
import SlideDeck.Proofs.Deck.ShapeForm

/-!
The grammar of paragraphs. A note, a picture and a shape are told apart by their first characters;
each is taken apart in one way only, and all other paragraphs are formatted text.
-/

namespace SlideDeck.Deck

/-- A text cut where a property first fails. -/
theorem cut_iff (p : Char → Bool) (s front rest : List Char) :
    s.takeWhile p = front ∧ s.dropWhile p = rest ↔
      s = front ++ rest ∧ front.all p ∧ ∀ c ∈ rest.head?, p c = false := by
  constructor
  · rintro ⟨rfl, rfl⟩
    refine ⟨List.takeWhile_append_dropWhile.symm, List.all_takeWhile, fun c hc => ?_⟩
    have hnot := List.head?_dropWhile_not p s
    rw [Option.mem_def.mp hc] at hnot
    simpa using hnot
  · rintro ⟨rfl, hfront, hrest⟩
    rw [List.all_eq_true] at hfront
    rw [List.takeWhile_append_of_pos hfront, List.dropWhile_append_of_pos hfront]
    cases rest with
    | nil => simp
    | cons c rest =>
      have hc : p c = false := hrest c rfl
      simp [hc]

theorem all_ne_iff (c : Char) (s : List Char) : s.all (· ≠ c) ↔ c ∉ s := by
  simp only [List.all_eq_true, decide_eq_true_eq]
  exact ⟨fun h hc => h c hc rfl, fun h d hd hdc => h (hdc ▸ hd)⟩

theorem drop_length_takeWhile (p : Char → Bool) (s : List Char) :
    s.drop (s.takeWhile p).length = s.dropWhile p := by
  induction s with
  | nil => rfl
  | cons c s ih => cases hc : p c <;> simp [hc, ih]

def noteMark : List Char := ['N', 'o', 't', 'e', ':']

/-- Behind a note mark stand white space and a line, which end at the next line feed or with the
text. -/
def IsNoteLine (rest line : List Char) : Prop :=
  ∃ gap below, rest = gap ++ (line ++ below) ∧ gap.all Text.isBlank ∧
    (∀ c ∈ (line ++ below).head?, Text.isBlank c = false) ∧ '\n' ∉ line ∧
    ∀ c ∈ below.head?, c = '\n'

/-- A note with the text behind its mark. -/
def IsNote (t rest : List Char) : Prop :=
  ∃ gap, t = '>' :: gap ++ noteMark ++ rest ∧ gap.all Text.isBlank

def IsPicture (t alt href : List Char) : Prop :=
  t = ['!', '['] ++ alt ++ [']', '('] ++ href ++ [')'] ∧ ']' ∉ alt ∧ href ≠ [] ∧ ')' ∉ href

/-- A shape on one line, divided at the last mark. -/
def IsShape (t name options : List Char) : Prop :=
  t = writtenShape name options ∧ '\n' ∉ t ∧ ¬optionsMark <:+: options

theorem isNoteLine_iff (rest line : List Char) :
    IsNoteLine rest line ↔ (rest.dropWhile Text.isBlank).takeWhile (· ≠ '\n') = line := by
  constructor
  · rintro ⟨gap, below, hrest, hgap, hhead, hline, hbelow⟩
    rw [((cut_iff Text.isBlank rest gap (line ++ below)).mpr ⟨hrest, hgap, hhead⟩).2]
    refine ((cut_iff _ _ line below).mpr ⟨rfl, (all_ne_iff _ _).mpr hline, fun c hc => ?_⟩).1
    simpa using hbelow c hc
  · rintro rfl
    obtain ⟨hgap, hblank, hhead⟩ := (cut_iff Text.isBlank rest _ _).mp ⟨rfl, rfl⟩
    obtain ⟨hline, hnone, hbelow⟩ :=
      (cut_iff (· ≠ '\n') (rest.dropWhile Text.isBlank) _ _).mp ⟨rfl, rfl⟩
    refine ⟨_, _, hgap.trans (congrArg _ hline), hblank, ?_, (all_ne_iff _ _).mp hnone, ?_⟩
    · rwa [← hline]
    · simpa using hbelow

theorem noteText?_eq_some_iff (t notes : List Char) :
    noteText? t = some notes ↔
      ∃ rest line, IsNote t rest ∧ IsNoteLine rest line ∧ notes = Text.trim line := by
  constructor
  · intro h
    unfold noteText? at h
    split at h
    · rename_i s
      split at h
      · rename_i rest hrest
        cases h
        obtain ⟨hs, hgap, -⟩ := (cut_iff Text.isBlank s _ _).mp ⟨rfl, hrest⟩
        refine ⟨rest, _, ⟨s.takeWhile Text.isBlank, ?_, hgap⟩, (isNoteLine_iff _ _).mpr rfl, rfl⟩
        rw [List.cons_append, List.cons_append, List.append_assoc]
        exact congrArg _ hs
      · cases h
    · cases h
  · rintro ⟨rest, line, ⟨gap, rfl, hgap⟩, hline, rfl⟩
    have hcut : (gap ++ (noteMark ++ rest)).dropWhile Text.isBlank = noteMark ++ rest :=
      ((cut_iff Text.isBlank _ gap _).mpr ⟨rfl, hgap, by rintro c ⟨⟩; rfl⟩).2
    rw [← (isNoteLine_iff rest line).mp hline, List.cons_append, List.cons_append,
      List.append_assoc, noteText?, hcut]
    rfl

theorem pictureOf?_bracket {s r : List Char} (h : s.dropWhile (· ≠ ']') = ']' :: '(' :: r) :
    pictureOf? ('!' :: '[' :: s) =
      if r.dropWhile (· ≠ ')') = [')'] ∧ r.takeWhile (· ≠ ')') ≠ [] then
        some ⟨String.ofList (r.takeWhile (· ≠ ')')), String.ofList (s.takeWhile (· ≠ ']'))⟩
      else none := by
  have hcondition : (r.dropWhile (· ≠ ')') = [')'] && !(r.takeWhile (· ≠ ')')).isEmpty) ↔
      r.dropWhile (· ≠ ')') = [')'] ∧ r.takeWhile (· ≠ ')') ≠ [] := by
    rw [Bool.and_eq_true, decide_eq_true_eq, Bool.not_eq_true', List.isEmpty_eq_false_iff]
  rw [← if_congr hcondition rfl rfl, ← drop_length_takeWhile, pictureOf?, h]
  rfl

theorem pictureOf?_eq_some_iff (t : List Char) (p : Picture) :
    pictureOf? t = some p ↔ IsPicture t p.alt.toList p.href.toList := by
  constructor
  · intro h
    have hstart := h
    unfold pictureOf? at hstart
    split at hstart
    · rename_i s
      split at hstart
      · rename_i r hr
        rw [pictureOf?_bracket hr, Option.ite_none_right_eq_some] at h
        obtain ⟨⟨hclosed, hne⟩, ⟨⟩⟩ := h
        obtain ⟨hs, halt, -⟩ := (cut_iff (· ≠ ']') s _ _).mp ⟨rfl, hr⟩
        obtain ⟨hr, hhref, -⟩ := (cut_iff (· ≠ ')') r _ _).mp ⟨rfl, hclosed⟩
        rw [IsPicture, String.toList_ofList, String.toList_ofList]
        refine ⟨?_, (all_ne_iff _ _).mp halt, hne, (all_ne_iff _ _).mp hhref⟩
        rw [hr] at hs
        simpa using hs
      · cases hstart
    · cases hstart
  · rintro ⟨rfl, halt, hhref, hclosed⟩
    obtain ⟨halt, hname⟩ :=
      (cut_iff (· ≠ ']') (p.alt.toList ++ (']' :: '(' :: (p.href.toList ++ [')']))) _ _).mpr
        ⟨rfl, (all_ne_iff _ _).mpr halt, by rintro c ⟨⟩; rfl⟩
    obtain ⟨htake, hend⟩ := (cut_iff (· ≠ ')') (p.href.toList ++ [')']) _ _).mpr
      ⟨rfl, (all_ne_iff _ _).mpr hclosed, by rintro c ⟨⟩; rfl⟩
    have htext : ['!', '['] ++ p.alt.toList ++ [']', '('] ++ p.href.toList ++ [')'] =
        '!' :: '[' :: (p.alt.toList ++ (']' :: '(' :: (p.href.toList ++ [')']))) := by
      simp
    rw [htext, pictureOf?_bracket hname, hend, htake, halt, String.ofList_toList,
      String.ofList_toList, if_pos ⟨rfl, hhref⟩]

theorem splitAtLast?_eq_none_iff (s : List Char) : splitAtLast? s = none ↔ ¬optionsMark <:+: s := by
  refine ⟨?_, splitAtLast?_eq_none⟩
  rintro h ⟨a, b, rfl⟩
  rw [splitAtLast?_append] at h
  cases hb : splitAtLast? b <;> rw [hb] at h <;> cases h

theorem splitAtLast?_eq_some_iff (s a b : List Char) :
    splitAtLast? s = some (a, b) ↔ s = a ++ optionsMark ++ b ∧ ¬optionsMark <:+: b := by
  constructor
  · intro h
    induction s generalizing a with
    | nil => cases h
    | cons c s ih =>
      unfold splitAtLast? at h
      split at h
      · rename_i a' b' hsplit
        cases h
        obtain ⟨rfl, hlast⟩ := ih a' hsplit
        exact ⟨rfl, hlast⟩
      · rename_i hnone
        split at h
        · cases h
          refine ⟨rfl, fun hmark => ?_⟩
          exact (splitAtLast?_eq_none_iff _).mp hnone (List.infix_cons hmark)
        · cases h
  · rintro ⟨rfl, hlast⟩
    rw [splitAtLast?_append, splitAtLast?_eq_none hlast]

def shapeMark : List Char := ['!', 's', 'h', 'a', 'p', 'e', '[']

/-- A text that stands between a shape mark and a closing parenthesis. -/
theorem eq_of_shapeMark {t : List Char} (hmark : shapeMark <+: t) (hlast : t.getLast? = some ')') :
    t = shapeMark ++ (t.drop 7).dropLast ++ [')'] := by
  obtain ⟨u, rfl⟩ := hmark
  have hu : u ≠ [] := by
    rintro rfl
    cases hlast
  have hback : u.getLast? = some ')' := by
    rwa [List.getLast?_append_of_ne_nil _ hu] at hlast
  have hdrop : (shapeMark ++ u).drop 7 = u := rfl
  rw [hdrop, List.append_assoc, List.dropLast_append_getLast? _ hback]

theorem shapeOf?_eq_some_iff (t : List Char) (name options : String) :
    shapeOf? t = some (name, options) ↔ IsShape t name.toList options.toList := by
  have hstart : "!shape[".toList = shapeMark := rfl
  constructor
  · intro h
    rw [shapeOf?, hstart, Option.ite_none_left_eq_some] at h
    obtain ⟨hcondition, hsplit⟩ := h
    simp only [Bool.or_eq_true, not_or, List.contains_iff_mem, decide_eq_true_eq, not_not,
      Bool.not_eq_true', Bool.not_eq_false, List.isPrefixOf_iff_prefix] at hcondition
    obtain ⟨⟨hline, hlast⟩, hmark⟩ := hcondition
    obtain ⟨⟨a, b⟩, hab, ⟨⟩⟩ := Option.map_eq_some_iff.mp hsplit
    obtain ⟨hinner, hb⟩ := (splitAtLast?_eq_some_iff _ _ _).mp hab
    rw [IsShape, String.toList_ofList, String.toList_ofList]
    refine ⟨?_, hline, hb⟩
    have ht := eq_of_shapeMark hmark hlast
    rw [hinner] at ht
    simpa [writtenShape, shapeMark] using ht
  · rintro ⟨rfl, hline, hlast⟩
    simp only [writtenShape, List.mem_append, not_or] at hline
    rw [shapeOf?_writtenShape _ _ hline.1.1.1.2 hline.1.2, splitAtLast?_eq_none hlast]
    simp

/-- A text on one line is a shape as soon as there is a mark between its start and its end. -/
theorem exists_isShape_iff (t : List Char) :
    (∃ name options, IsShape t name options) ↔
      '\n' ∉ t ∧ shapeMark <+: t ∧ t.getLast? = some ')' ∧ optionsMark <:+: t.drop 7 := by
  constructor
  · rintro ⟨name, options, rfl, hline, -⟩
    refine ⟨hline, ⟨name ++ optionsMark ++ options ++ [')'], ?_⟩, List.getLast?_concat,
      ⟨name, options ++ [')'], ?_⟩⟩ <;> simp [writtenShape, shapeMark]
  · rintro ⟨hline, hmark, hlast, hinfix⟩
    have ht := eq_of_shapeMark hmark hlast
    have hinner : optionsMark <:+: (t.drop 7).dropLast := by
      rw [ht] at hinfix
      obtain ⟨x, hx⟩ | hinner := List.infix_concat_iff.mp hinfix
      · have hend := congrArg List.getLast? hx
        simp [optionsMark] at hend
      · exact hinner
    cases hsplit : splitAtLast? (t.drop 7).dropLast with
    | none => exact absurd hinner ((splitAtLast?_eq_none_iff _).mp hsplit)
    | some parts =>
      obtain ⟨name, options⟩ := parts
      obtain ⟨hparts, hoptions⟩ := (splitAtLast?_eq_some_iff _ _ _).mp hsplit
      refine ⟨name, options, ?_, hline, hoptions⟩
      rw [hparts] at ht
      simpa [writtenShape, shapeMark] using ht

/-- How a text is read as a form. -/
def Reads (t : List Char) : Form → Prop
  | .note notes =>
    ∃ rest line, IsNote t rest ∧ IsNoteLine rest line ∧ notes.toList = Text.trim line
  | .picture p => IsPicture t p.alt.toList p.href.toList
  | .shape name options => IsShape t name.toList options.toList
  | .text =>
    (¬∃ rest, IsNote t rest) ∧ (¬∃ alt href, IsPicture t alt href) ∧
      ¬∃ name options, IsShape t name options

theorem noteText?_eq_none_iff (t : List Char) : noteText? t = none ↔ ¬∃ rest, IsNote t rest := by
  rw [Option.eq_none_iff_forall_ne_some]
  constructor
  · rintro h ⟨rest, hnote⟩
    exact h _ ((noteText?_eq_some_iff t _).mpr ⟨rest, _, hnote, (isNoteLine_iff _ _).mpr rfl, rfl⟩)
  · rintro h notes hnotes
    obtain ⟨rest, -, hnote, -⟩ := (noteText?_eq_some_iff t notes).mp hnotes
    exact h ⟨rest, hnote⟩

theorem pictureOf?_eq_none_iff (t : List Char) :
    pictureOf? t = none ↔ ¬∃ alt href, IsPicture t alt href := by
  rw [Option.eq_none_iff_forall_ne_some]
  constructor
  · rintro h ⟨alt, href, hpicture⟩
    exact h ⟨String.ofList href, String.ofList alt⟩
      ((pictureOf?_eq_some_iff t _).mpr (by simpa using hpicture))
  · exact fun h p hp => h ⟨_, _, (pictureOf?_eq_some_iff t p).mp hp⟩

theorem shapeOf?_eq_none_iff (t : List Char) :
    shapeOf? t = none ↔ ¬∃ name options, IsShape t name options := by
  rw [Option.eq_none_iff_forall_ne_some]
  constructor
  · rintro h ⟨name, options, hshape⟩
    exact h (String.ofList name, String.ofList options)
      ((shapeOf?_eq_some_iff t _ _).mpr (by simpa using hshape))
  · exact fun h parts hparts => h ⟨_, _, (shapeOf?_eq_some_iff t parts.1 parts.2).mp hparts⟩

/-! The first two characters tell the forms apart. -/

theorem not_isPicture_of_isNote {t : List Char} (h : ∃ rest, IsNote t rest) :
    ¬∃ alt href, IsPicture t alt href := by
  obtain ⟨rest, gap, rfl, -⟩ := h
  rintro ⟨alt, href, hpicture, -⟩
  cases hpicture

theorem not_isShape_of_isNote {t : List Char} (h : ∃ rest, IsNote t rest) :
    ¬∃ name options, IsShape t name options := by
  obtain ⟨rest, gap, rfl, -⟩ := h
  rintro ⟨name, options, hshape, -⟩
  cases hshape

theorem not_isShape_of_isPicture {t : List Char} (h : ∃ alt href, IsPicture t alt href) :
    ¬∃ name options, IsShape t name options := by
  obtain ⟨alt, href, rfl, -⟩ := h
  rintro ⟨name, options, hshape, -⟩
  cases hshape

theorem reads_formOf (text : String) : Reads (Text.trim text.toList) (formOf text) := by
  rw [formOf]
  split
  · rename_i notes hnote
    simpa only [Reads, String.toList_ofList] using (noteText?_eq_some_iff _ _).mp hnote
  · rename_i hnote
    split
    · rename_i p hpicture
      exact (pictureOf?_eq_some_iff _ _).mp hpicture
    · rename_i hpicture
      split
      · rename_i name options hshape
        exact (shapeOf?_eq_some_iff _ _ _).mp hshape
      · rename_i hshape
        exact ⟨(noteText?_eq_none_iff _).mp hnote, (pictureOf?_eq_none_iff _).mp hpicture,
          (shapeOf?_eq_none_iff _).mp hshape⟩

theorem formOf_of_reads {text : String} {f : Form} (h : Reads (Text.trim text.toList) f) :
    formOf text = f := by
  rw [formOf]
  cases f with
  | note notes =>
    simp [(noteText?_eq_some_iff _ _).mpr h]
  | picture p =>
    have hnote := (noteText?_eq_none_iff _).mpr fun hnote => not_isPicture_of_isNote hnote ⟨_, _, h⟩
    simp [hnote, (pictureOf?_eq_some_iff _ _).mpr h]
  | shape name options =>
    have hnote := (noteText?_eq_none_iff _).mpr fun hnote => not_isShape_of_isNote hnote ⟨_, _, h⟩
    have hpicture := (pictureOf?_eq_none_iff _).mpr fun hpicture =>
      not_isShape_of_isPicture hpicture ⟨_, _, h⟩
    simp [hnote, hpicture, (shapeOf?_eq_some_iff _ _ _).mpr h]
  | text =>
    obtain ⟨hnote, hpicture, hshape⟩ := h
    simp [(noteText?_eq_none_iff _).mpr hnote, (pictureOf?_eq_none_iff _).mpr hpicture,
      (shapeOf?_eq_none_iff _).mpr hshape]

theorem exists_reads_note_iff (t : List Char) :
    (∃ notes, Reads t (.note notes)) ↔
      ∃ gap rest, t = '>' :: gap ++ noteMark ++ rest ∧ gap.all Text.isBlank := by
  constructor
  · rintro ⟨notes, rest, -, ⟨gap, hgap⟩, -⟩
    exact ⟨gap, rest, hgap⟩
  · rintro ⟨gap, rest, hgap⟩
    exact ⟨String.ofList _, rest, _, ⟨gap, hgap⟩, (isNoteLine_iff _ _).mpr rfl,
      String.toList_ofList⟩

theorem exists_reads_picture_iff (t : List Char) :
    (∃ p, Reads t (.picture p)) ↔ ∃ alt href, IsPicture t alt href := by
  constructor
  · rintro ⟨p, h⟩
    exact ⟨_, _, h⟩
  · rintro ⟨alt, href, h⟩
    refine ⟨⟨String.ofList href, String.ofList alt⟩, ?_⟩
    simpa only [Reads, String.toList_ofList] using h

theorem exists_reads_shape_iff (t : List Char) :
    (∃ name options, Reads t (.shape name options)) ↔ ∃ name options, IsShape t name options := by
  constructor
  · rintro ⟨name, options, h⟩
    exact ⟨_, _, h⟩
  · rintro ⟨name, options, h⟩
    refine ⟨String.ofList name, String.ofList options, ?_⟩
    simpa only [Reads, String.toList_ofList] using h

theorem isPicture_unique {t alt href alt' href' : List Char} (h : IsPicture t alt href)
    (h' : IsPicture t alt' href') : alt = alt' ∧ href = href' := by
  have hpicture (alt href : List Char) (h : IsPicture t alt href) :
      pictureOf? t = some ⟨String.ofList href, String.ofList alt⟩ :=
    (pictureOf?_eq_some_iff t _).mpr (by simpa using h)
  have hsame := (hpicture alt href h).symm.trans (hpicture alt' href' h')
  simpa [String.ofList_inj, and_comm] using hsame

/-- A paragraph has the one form that its text is read as. It is a note if its text opens one, a
picture if its text is one, and a shape if its text is on one line and holds the marks of a shape;
the three exclude each other, and a picture is taken apart in one way only. -/
theorem formOf_grammar (text : String) (phrases : List Phrase) :
    let t := Text.trim text.toList
    (∀ f, formOf text = f ↔ Reads t f) ∧
      ((∃ notes, formOf text = .note notes) ↔
        ∃ gap rest, t = '>' :: gap ++ noteMark ++ rest ∧ gap.all Text.isBlank) ∧
      ((∃ p, formOf text = .picture p) ↔ ∃ alt href, IsPicture t alt href) ∧
      ((∃ name options, formOf text = .shape name options) ↔
        '\n' ∉ t ∧ shapeMark <+: t ∧ t.getLast? = some ')' ∧ optionsMark <:+: t.drop 7) ∧
      ¬((∃ rest, IsNote t rest) ∧ ∃ alt href, IsPicture t alt href) ∧
      ¬((∃ rest, IsNote t rest) ∧ ∃ name options, IsShape t name options) ∧
      ¬((∃ alt href, IsPicture t alt href) ∧ ∃ name options, IsShape t name options) ∧
      (∀ alt href alt' href', IsPicture t alt href → IsPicture t alt' href' →
        alt = alt' ∧ href = href') ∧
      (∀ notes, Reads t (.note notes) →
        contribution (.paragraph text phrases) = .ok { notes := some notes }) ∧
      (∀ p, Reads t (.picture p) →
        contribution (.paragraph text phrases) = .ok { elements := [.picture p] }) ∧
      (∀ name options shape, Reads t (.shape name options) →
        parseShape name options = .ok (.ok shape) →
        contribution (.paragraph text phrases) = .ok { elements := [.shape shape] }) ∧
      (Reads t .text →
        contribution (.paragraph text phrases) =
          .ok { elements := textBlock? (resolveAll {} phrases) }) := by
  intro t
  have hform (f : Form) : formOf text = f ↔ Reads t f :=
    ⟨fun h => h ▸ reads_formOf text, formOf_of_reads⟩
  have hadds {f : Form} (h : Reads t f) : formOf text = f := (hform f).mpr h
  refine ⟨hform, ?_, ?_, ?_, fun h => not_isPicture_of_isNote h.1 h.2,
    fun h => not_isShape_of_isNote h.1 h.2, fun h => not_isShape_of_isPicture h.1 h.2,
    fun _ _ _ _ => isPicture_unique, fun notes h => ?_, fun p h => ?_,
    fun name options shape h hshape => ?_, fun h => ?_⟩
  · simp only [hform, exists_reads_note_iff]
  · simp only [hform, exists_reads_picture_iff]
  · simp only [hform, exists_reads_shape_iff, exists_isShape_iff]
  · rw [contribution, paragraphContribution, hadds h]
  · rw [contribution, paragraphContribution, hadds h]
  · rw [contribution, paragraphContribution, hadds h]
    dsimp only
    rw [hshape]
    rfl
  · rw [contribution, paragraphContribution, hadds h]

/-- White space behind the mark may hold line feeds, but the notes end at the next one. -/
example : formOf "> Note:\n talk slowly \n > Note: no" = .note "talk slowly" := by decide +kernel

end SlideDeck.Deck
