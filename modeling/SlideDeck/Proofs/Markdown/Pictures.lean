import SlideDeck.Markdown.InlineText
import SlideDeck.Proofs.Markdown.Leaves
import SlideDeck.Proofs.Markdown.Nesting

/-!
Images keep the label that they are read from: at any depth of a text, the inner nodes of an image
are what its label reads as.
-/

namespace SlideDeck.Markdown

mutual

/-- The images in a node, at any depth outside other images: their labels and inner nodes. -/
def Inline.pictures : Inline → List (String × List Inline)
  | .image _ label inner => [(label, inner)]
  | .emphasis _ inner | .strong _ inner | .strike inner | .link _ _ inner =>
    Inline.picturesList inner
  | .text _ | .escaped _ | .code _ | .html _ | .softBreak | .hardBreak => []

def Inline.picturesList : List Inline → List (String × List Inline)
  | [] => []
  | n :: ns => Inline.pictures n ++ Inline.picturesList ns

end

/-- A relation that holds between the label and the inner nodes of every image in a node. -/
def PicturesHave (Q : String → List Inline → Prop) (n : Inline) : Prop :=
  ∀ p ∈ n.pictures, Q p.1 p.2

variable {P : Inline → Prop} {Q : String → List Inline → Prop}

theorem forall_mem_picturesList (ns : List Inline) :
    (∀ p ∈ Inline.picturesList ns, Q p.1 p.2) ↔ ∀ n ∈ ns, PicturesHave Q n := by
  induction ns with
  | nil => simp [Inline.picturesList]
  | cons n ns ih =>
    rw [Inline.picturesList, List.forall_mem_append, List.forall_mem_cons, ih, PicturesHave]

theorem picturesHave_of_empty {n : Inline} (h : n.pictures = []) : PicturesHave Q n := by
  rw [PicturesHave, h]
  exact List.forall_mem_nil _

theorem picturesHave_of_inner {n : Inline} {inner : List Inline}
    (h : n.pictures = Inline.picturesList inner) (hinner : ∀ n ∈ inner, PicturesHave Q n) :
    PicturesHave Q n := by
  rw [PicturesHave, h]
  exact (forall_mem_picturesList inner).mpr hinner

theorem isInherited_picturesHave : IsInherited (PicturesHave Q) where
  text s := picturesHave_of_empty (by rw [Inline.pictures])
  span s inner h := by
    refine picturesHave_of_inner ?_ h
    cases s <;> rw [Span.node, Inline.pictures]

namespace Row

def Holds (P : Inline → Prop) (r : Row) : Prop := ∀ p ∈ r.pieces, p.Holds P

theorem Holds.flush {r : Row} (h : r.Holds P) : r.flush.Holds P := by
  rw [Row.flush]
  split
  · exact h
  · intro p hp
    obtain hp | rfl := Array.mem_push.mp hp
    · exact h p hp
    · trivial

theorem Holds.push {r : Row} (h : r.Holds P) {p : Piece} (hp : p.Holds P) : (r.push p).Holds P := by
  intro q hq
  obtain hq | rfl := Array.mem_push.mp hq
  · exact h.flush q hq
  · exact hp

theorem Holds.pushMarks {r : Row} (h : r.Holds P) (m : Mark) (n : Nat) :
    ((List.replicate n (Piece.mark m)).foldl Row.push r).Holds P := by
  induction n generalizing r with
  | zero => exact h
  | succ n ih =>
    have hmark : (Piece.mark m).Holds P := trivial
    exact ih (h.push hmark)

theorem Holds.pushTildes {r : Row} (h : r.Holds P) (n : Nat) (f : Flanking) :
    (r.pushTildes n f).Holds P := by
  have htext : (Piece.text "~").Holds P := trivial
  rw [Row.pushTildes]
  split
  · exact (h.push htext).pushMarks _ _
  · exact h.pushMarks _ _

theorem Holds.write {r : Row} (h : r.Holds P) (s : List Char) : (r.write s).Holds P := h

theorem Holds.pushNode {r : Row} (h : r.Holds P) {n : Inline} (hn : P n) :
    (r.push (.node n)).Holds P := h.push hn

theorem Holds.pushLeaf {r : Row} (h : r.Holds (PicturesHave Q)) {n : Inline}
    (hn : n.pictures = []) : (r.push (.node n)).Holds (PicturesHave Q) :=
  h.pushNode (picturesHave_of_empty hn)

theorem Holds.endLine {r : Row} (h : r.Holds (PicturesHave Q)) :
    r.endLine.Holds (PicturesHave Q) := by
  have hcut (s : List Char) : Row.Holds (PicturesHave Q) { r with pending := s } := h
  rw [Row.endLine]
  split
  · exact (hcut _).pushLeaf (by rw [Inline.pictures])
  · exact (hcut _).pushLeaf (by rw [Inline.pictures])
  · exact h.pushLeaf (by rw [Inline.pictures])

end Row

def Construct.IsImage : Construct → Prop
  | .image .. => True
  | _ => False

namespace Source

theorem length_slice_lt {src : Source} {first last pos : Nat} (hfirst : first = pos + 2)
    (hpos : pos < src.chars.size) : (src.slice first last).length < src.chars.size := by
  rw [slice, Array.length_toList, Array.size_extract]
  omega

theorem not_isImage_codeSpan (src : Source) (limit : Nat) (m : Memo) (pos : Nat) :
    ¬(src.codeSpan limit m pos).2.1.IsImage := by
  rw [codeSpan]
  split
  · exact id
  · split <;> exact id

theorem not_isImage_of_link {src : Source} {label : LabelReader} {limit pos : Nat} {m m' : Memo}
    {c : Construct} {stop : Nat} (h : src.link label limit m pos = (m', some (c, stop))) :
    ¬c.IsImage := by
  rw [link] at h
  split at h
  · cases h
  · dsimp only at h
    have hbuilt : ∃ (t : Target × Nat) (last : Nat),
        (Construct.link t.1 (pos + 1) last, t.2) = (c, stop) := by
      split at h
      · split at h
        · cases h
        · exact ⟨(_, _), _, Option.some.inj (Prod.mk.inj h).2⟩
        · obtain ⟨t, -, ht⟩ := Option.map_eq_some_iff.mp (Prod.mk.inj h).2
          exact ⟨t, _, ht⟩
      · obtain ⟨t, -, ht⟩ := Option.map_eq_some_iff.mp (Prod.mk.inj h).2
        exact ⟨t, _, ht⟩
    obtain ⟨t, last, ht⟩ := hbuilt
    cases ht
    exact id

theorem not_isImage_of_autolink? {src : Source} {limit pos : Nat} {c : Construct} {stop : Nat}
    (h : src.autolink? limit pos = some (c, stop)) : ¬c.IsImage := by
  rw [autolink?] at h
  dsimp only at h
  split at h
  · obtain ⟨href, -, h⟩ := Option.bind_eq_some_iff.mp h
    split at h
    · cases h
      exact id
    · cases h
  · cases h

theorem not_isImage_of_html? {src : Source} {limit pos : Nat} {c : Construct} {stop : Nat}
    (h : src.html? limit pos = some (c, stop)) : ¬c.IsImage := by
  rw [html?] at h
  split at h
  · cases h
  · dsimp only at h
    obtain ⟨n, -, h⟩ := Option.map_eq_some_iff.mp h
    cases h
    exact id

theorem image_eq {src : Source} {label : LabelReader} {limit pos : Nat} {m m' : Memo}
    {t : Target} {first last stop : Nat}
    (h : src.image label limit m pos = (m', some (.image t first last, stop))) :
    first = pos + 2 := by
  rw [image] at h
  split at h
  · cases h
  · split at h
    · cases h
    · dsimp only at h
      split at h
      · split at h
        · cases h
          rfl
        · cases h
      · obtain ⟨t, -, ht⟩ := Option.map_eq_some_iff.mp (Prod.mk.inj h).2
        cases ht
        rfl

/-- A label starts behind the two characters that open an image. -/
theorem construct?_image {src : Source} {label : LabelReader} {limit pos : Nat} {m m' : Memo}
    {t : Target} {first last stop : Nat}
    (h : src.construct? label limit m pos = (m', some (.image t first last, stop))) :
    first = pos + 2 ∧ pos < src.chars.size := by
  rw [construct?] at h
  split at h
  · cases h
  · rename_i c hc
    obtain ⟨hpos, -⟩ := Array.getElem?_eq_some_iff.mp hc
    refine ⟨?_, hpos⟩
    split at h
    · cases h
    -- The cases are the characters that something may start with.
    · split at h
      · cases h
      · split at h
        · cases h
        · split at h <;> cases h
      · have hnot := not_isImage_codeSpan src limit m pos
        have hcode := (Prod.mk.inj (Option.some.inj (Prod.mk.inj h).2)).1
        exact absurd (hcode ▸ trivial) hnot
      · exact absurd trivial (not_isImage_of_link h)
      · exact image_eq h
      · obtain h | ⟨-, h⟩ := Option.or_eq_some_iff.mp (Prod.mk.inj h).2
        · exact absurd trivial (not_isImage_of_autolink? h)
        · exact absurd trivial (not_isImage_of_html? h)
      · split at h
        · cases h
        · dsimp only at h
          obtain ⟨n, -, h⟩ := Option.map_eq_some_iff.mp (Prod.mk.inj h).2
          cases h
      · cases h

/-- One step of reading leaves the pieces as they are or adds one, and an image among those added is
read from its label. -/
theorem holds_readRow {src : Source} (label : LabelReader) (limit : Nat)
    {inner : Memo → Nat → Nat → Memo × List Inline} {picture : List Char → List Inline}
    (hinner : ∀ m first last, ∀ n ∈ (inner m first last).2, PicturesHave Q n)
    (hpicture : ∀ s, s.length < src.chars.size → Q (String.ofList s) (picture s))
    (fuel : Nat) {r : Row} (h : r.Holds (PicturesHave Q)) (pos : Nat) :
    (src.readRow label limit inner picture fuel r pos).Holds (PicturesHave Q) := by
  induction fuel generalizing r pos with
  | zero => exact h
  | succ fuel ih =>
    rw [readRow]
    split
    · exact h
    · dsimp only
      split
      · exact ih (h.pushMarks _ _) _
      · split
        · exact ih (h.pushTildes _ _) _
        · cases hfound : src.construct? label limit r.memo pos with
          | mk m found =>
            have hr : Row.Holds (PicturesHave Q) { r with memo := m } := h
            dsimp only
            split
            · exact ih (hr.write _) _
            · exact ih (hr.write _) _
            · exact ih hr.endLine _
            · exact ih (hr.pushLeaf (by rw [Inline.pictures])) _
            · exact ih (hr.pushLeaf (by rw [Inline.pictures])) _
            · exact ih (hr.pushLeaf (by rw [Inline.pictures])) _
            · exact ih (hr.pushLeaf (by rw [Inline.pictures])) _
            · exact ih (hr.pushLeaf (by simp [Inline.pictures, Inline.picturesList])) _
            · have hnodes (m : Memo) : Row.Holds (PicturesHave Q) { r with memo := m } := h
              refine ih ((hnodes _).pushNode ?_) _
              exact picturesHave_of_inner (by rw [Inline.pictures]) (hinner _ _ _)
            · obtain ⟨hfirst, hpos⟩ := construct?_image hfound
              refine ih (hr.pushNode ?_) _
              intro p hp
              rw [Inline.pictures, List.mem_singleton] at hp
              rw [hp]
              exact hpicture _ (length_slice_lt hfirst hpos)

theorem forall_mem_read {src : Source} {picture : List Char → List Inline}
    (hpicture : ∀ s, s.length < src.chars.size → Q (String.ofList s) (picture s)) (depth : Nat)
    (m : Memo) (first last : Nat) :
    ∀ n ∈ (src.read picture depth m first last).2, PicturesHave Q n := by
  induction depth generalizing m first last with
  | zero =>
    rw [read]
    split
    · rw [List.forall_mem_singleton]
      exact isInherited_picturesHave.text _
    · exact List.forall_mem_nil _
  | succ depth ih =>
    have hrow : Row.Holds (PicturesHave Q) ⟨m, [], #[]⟩ :=
      fun p hp => absurd hp (Array.not_mem_empty p)
    exact Piece.forall_mem_resolve isInherited_picturesHave
      (holds_readRow _ _ ih hpicture _ hrow _).flush

theorem readRow_congr {src : Source} (label : LabelReader) (limit : Nat)
    (inner : Memo → Nat → Nat → Memo × List Inline) {picture picture' : List Char → List Inline}
    (h : ∀ s, s.length < src.chars.size → picture s = picture' s) (fuel : Nat) (r : Row)
    (pos : Nat) :
    src.readRow label limit inner picture fuel r pos =
      src.readRow label limit inner picture' fuel r pos := by
  induction fuel generalizing r pos with
  | zero => rfl
  | succ fuel ih =>
    have hnext : src.readRow label limit inner picture fuel =
        src.readRow label limit inner picture' fuel := funext fun r => funext (ih r)
    rw [readRow, readRow, hnext]
    cases hfound : src.construct? label limit r.memo pos with
    | mk m found =>
      obtain _ | ⟨c, stop⟩ := found
      · rfl
      · cases c with
        | image t first last =>
          obtain ⟨hfirst, hpos⟩ := construct?_image hfound
          dsimp only
          rw [h _ (length_slice_lt hfirst hpos)]
        | plain | lineEnd | hardBreak | escaped | code | link | autolink | html => rfl

theorem read_congr {src : Source} {picture picture' : List Char → List Inline}
    (h : ∀ s, s.length < src.chars.size → picture s = picture' s) (depth : Nat) (m : Memo)
    (first last : Nat) :
    src.read picture depth m first last = src.read picture' depth m first last := by
  induction depth generalizing m first last with
  | zero => rfl
  | succ depth ih =>
    have hinner : src.read picture depth = src.read picture' depth := by
      funext m first last
      exact ih m first last
    rw [read, read, hinner, readRow_congr _ _ _ h]

end Source

/-- Labels are shorter than the texts that they stand in, so a text bounds how deep its images
nest. -/
theorem readNodes_congr (definitions : Definitions) {fuel fuel' : Nat} {s : List Char}
    (h : s.length < fuel) (h' : s.length < fuel') :
    readNodes definitions fuel s = readNodes definitions fuel' s := by
  induction fuel generalizing fuel' s with
  | zero => omega
  | succ fuel ih =>
    cases fuel' with
    | zero => omega
    | succ fuel' =>
      rw [readNodes, readNodes, Source.read_congr fun label hlabel => ?_]
      rw [List.size_toArray] at hlabel
      exact ih (by omega) (by omega)

namespace Inline

theorem picturesList_consMerged (n : Inline) (ns : List Inline) :
    picturesList (consMerged n ns) = n.pictures ++ picturesList ns := by
  rw [consMerged.eq_def]
  split
  · simp [picturesList, pictures]
  · rw [picturesList]

mutual

theorem pictures_merge : (n : Inline) → n.merge.pictures = n.pictures
  | .emphasis _ inner | .strong _ inner | .strike inner | .link _ _ inner => by
    rw [merge, pictures, pictures]
    exact picturesList_mergeList inner
  | .text _ | .escaped _ | .code _ | .html _ | .softBreak | .hardBreak | .image _ _ _ => by
    simp [merge, pictures]

theorem picturesList_mergeList :
    (ns : List Inline) → picturesList (mergeList ns) = picturesList ns
  | [] => by rw [mergeList]
  | n :: ns => by
    rw [mergeList, picturesList_consMerged, picturesList, pictures_merge n,
      picturesList_mergeList ns]

end

theorem wordsList_consMerged (n : Inline) (ns : List Inline) :
    wordsList (consMerged n ns) = n.words ++ wordsList ns := by
  rw [consMerged.eq_def]
  split
  · rw [wordsList, wordsList, words, words, words, String.append_assoc]
  · rw [wordsList]

mutual

theorem words_merge : (n : Inline) → n.hasForm → n.merge.words = n.words
  | .emphasis _ inner, h | .strong _ inner, h | .link _ _ inner, h => by
    rw [hasForm] at h
    rw [merge, words, words]
    exact wordsList_mergeList inner h
  | .text _, _ | .code _, _ | .softBreak, _ | .hardBreak, _ => by rw [merge] <;> nofun
  | .escaped _, h | .html _, h | .strike _, h | .image _ _ _, h => by
    rw [hasForm] at h
    cases h

theorem wordsList_mergeList :
    (ns : List Inline) → haveForm ns → wordsList (mergeList ns) = wordsList ns
  | [], _ => by rw [mergeList]
  | n :: ns, h => by
    obtain ⟨hn, hns⟩ := (haveForm_cons n ns).mp h
    rw [mergeList, wordsList_consMerged, wordsList, words_merge n hn, wordsList_mergeList ns hns]

end

end Inline

/-- The inner nodes of an image, wherever it stands in a text, are what its label reads as. -/
theorem inner_of_mem_pictures {definitions : Definitions} {s label : String} {inner : List Inline}
    (h : (label, inner) ∈ Inline.picturesList (inlines definitions s)) :
    inner = readNodes definitions (label.length + 1) label.toList := by
  have hread : ∀ n ∈ readNodes definitions (s.length + 1) s.toList, PicturesHave
      (fun label inner => inner = readNodes definitions (label.length + 1) label.toList) n := by
    refine Source.forall_mem_read (fun l hl => ?_) _ _ _ _
    rw [List.size_toArray, String.length_toList] at hl
    rw [String.toList_ofList, String.length_ofList]
    exact readNodes_congr definitions hl (Nat.lt_succ_self _)
  rw [inlines, Inline.picturesList_mergeList] at h
  exact (forall_mem_picturesList _).mpr hread _ h

theorem words_of_mem_pictures {definitions : Definitions} {s label : String} {inner : List Inline}
    (h : (label, inner) ∈ Inline.picturesList (inlines definitions s))
    (hform : Inline.haveForm inner) :
    Inline.wordsList inner = Inline.wordsList (inlines definitions label) := by
  rw [inlines, ← inner_of_mem_pictures h, Inline.wordsList_mergeList inner hform]

end SlideDeck.Markdown
