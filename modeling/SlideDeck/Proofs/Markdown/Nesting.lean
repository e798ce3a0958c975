import SlideDeck.Markdown.Emphasis

/-!
What nesting keeps. Marks that pair up put spans around the nodes of a row and leave the nodes as
they are; so a property that spans inherit from what is inside holds of all nodes that come out if
it holds of those that go in.
-/

namespace SlideDeck.Markdown

variable {P : Inline → Prop}

/-- A property that a span has if the nodes inside have it. -/
structure IsInherited (P : Inline → Prop) : Prop where
  text : ∀ s, P (.text s)
  span : ∀ (s : Span) inner, (∀ n ∈ inner, P n) → P (s.node inner)

namespace Settled

def Holds (P : Inline → Prop) : Settled → Prop
  | .node n => P n
  | .text _ | .opens _ | .closes _ => True

theorem holds_set {row : Array Settled} (h : ∀ x ∈ row, x.Holds P) {a : Settled} (ha : a.Holds P)
    (i : Nat) : ∀ x ∈ row.set! i a, x.Holds P := by
  intro x hx
  obtain hx | rfl := Array.mem_or_eq_of_mem_setIfInBounds hx
  · exact h x hx
  · exact ha

theorem holds_setEnds {row : Array Settled} (h : ∀ x ∈ row, x.Holds P) (s : Span) (i j : Nat) :
    ∀ x ∈ (row.set! i (.opens s)).set! j (.closes s), x.Holds P := by
  have hopens : (opens s).Holds P := trivial
  have hcloses : (closes s).Holds P := trivial
  exact holds_set (holds_set h hopens i) hcloses j

theorem holds_strikes (marks : Array Delimiter) {row : Array Settled} (h : ∀ x ∈ row, x.Holds P) :
    ∀ x ∈ (strikes marks row).1, x.Holds P := by
  refine Array.foldl_induction
    (motive := fun _ (p : Array Settled × List Nat) => ∀ x ∈ p.1, x.Holds P) h ?_
  intro i p hp
  dsimp only
  split
  · split
    · split <;> exact holds_setEnds hp _ _ _
    · exact hp
  · exact hp

theorem holds_moveLone {row : Array Settled} (h : ∀ x ∈ row, x.Holds P) (i : Nat) :
    ∀ x ∈ moveLone row i, x.Holds P := by
  rw [moveLone]
  split
  · rename_i a b ha hb
    exact holds_set (holds_set h (h b (Array.mem_of_getElem? hb)) _)
      (h a (Array.mem_of_getElem? ha)) _
  · exact h

theorem holds_emphases (marks : Array Delimiter) {row : Array Settled} (h : ∀ x ∈ row, x.Holds P) :
    ∀ x ∈ emphases marks row, x.Holds P := by
  refine List.foldlRecOn (motive := fun (p : Array Settled × Bool) => ∀ x ∈ p.1, x.Holds P) _ _ h ?_
  intro p hp i _
  dsimp only
  split
  · split
    · exact hp
    · have hempty : (text "").Holds P := trivial
      split
      · exact holds_set (holds_set (holds_setEnds hp _ _ _) hempty _) hempty _
      · exact holds_setEnds hp _ _ _
  · exact hp

theorem holds_joinTexts {row : List Settled} (h : ∀ x ∈ row, x.Holds P) :
    ∀ x ∈ joinTexts row, x.Holds P := by
  induction row with
  | nil => exact h
  | cons x row ih =>
    rw [List.forall_mem_cons] at h
    have hrow := ih h.2
    cases x with
    | text s =>
      rw [joinTexts]
      split
      next t rest hrest =>
        rw [hrest, List.forall_mem_cons] at hrow
        exact List.forall_mem_cons.mpr ⟨trivial, hrow.2⟩
      next => exact List.forall_mem_cons.mpr ⟨trivial, hrow⟩
    | node n => exact List.forall_mem_cons.mpr ⟨h.1, hrow⟩
    | opens s => exact List.forall_mem_cons.mpr ⟨trivial, hrow⟩
    | closes s => exact List.forall_mem_cons.mpr ⟨trivial, hrow⟩

/-- The nodes at the current depth and around it keep the property, whatever is nested next. -/
theorem forall_mem_nest (hP : IsInherited P) {row : List Settled} (h : ∀ x ∈ row, x.Holds P)
    {done : List Inline} (hdone : ∀ n ∈ done, P n) {outer : List (List Inline)}
    (houter : ∀ ns ∈ outer, ∀ n ∈ ns, P n) : ∀ n ∈ nest row done outer, P n := by
  induction row generalizing done outer with
  | nil =>
    induction outer generalizing done with
    | nil =>
      intro n hn
      rw [nest, List.mem_reverse] at hn
      exact hdone n hn
    | cons before outer ih =>
      rw [List.forall_mem_cons] at houter
      rw [nest]
      exact ih (List.forall_mem_append.mpr ⟨hdone, houter.1⟩) houter.2
  | cons x row ih =>
    rw [List.forall_mem_cons] at h
    cases x with
    | text s =>
      rw [nest]
      exact ih h.2 (List.forall_mem_cons.mpr ⟨hP.text s, hdone⟩) houter
    | node n =>
      rw [nest]
      exact ih h.2 (List.forall_mem_cons.mpr ⟨h.1, hdone⟩) houter
    | opens s =>
      rw [nest]
      exact ih h.2 (List.forall_mem_nil _) (List.forall_mem_cons.mpr ⟨hdone, houter⟩)
    | closes s =>
      cases outer with
      | nil =>
        rw [nest]
        exact ih h.2 hdone houter
      | cons before outer =>
        rw [List.forall_mem_cons] at houter
        have hspan : P (s.node done.reverse) :=
          hP.span s _ fun n hn => hdone n (List.mem_reverse.mp hn)
        rw [nest]
        exact ih h.2 (List.forall_mem_cons.mpr ⟨hspan, houter.1⟩) houter.2

end Settled

namespace Piece

def Holds (P : Inline → Prop) : Piece → Prop
  | .node n => P n
  | .text _ | .mark _ => True

theorem forall_mem_resolve (hP : IsInherited P) {pieces : Array Piece}
    (h : ∀ p ∈ pieces, p.Holds P) : ∀ n ∈ resolve pieces, P n := by
  have hsettled : ∀ x ∈ pieces.map settled, x.Holds P := by
    intro x hx
    obtain ⟨p, hp, rfl⟩ := Array.mem_map.mp hx
    cases p with
    | text s | mark m => trivial
    | node n => exact h _ hp
  have hstrikes := Settled.holds_strikes (pairMarks (delimiters pieces)) hsettled
  have hlone (lone : List Nat) {row : Array Settled} (hrow : ∀ x ∈ row, x.Holds P) :
      ∀ x ∈ lone.foldl Settled.moveLone row, x.Holds P :=
    List.foldlRecOn (motive := fun (row : Array Settled) => ∀ x ∈ row, x.Holds P) lone _ hrow
      fun _ hrow i _ => Settled.holds_moveLone hrow i
  rw [resolve]
  refine Settled.forall_mem_nest hP (Settled.holds_joinTexts fun x hx => ?_) (List.forall_mem_nil _)
    (List.forall_mem_nil _)
  exact Settled.holds_emphases _ (hlone _ hstrikes) x (Array.mem_toList_iff.mp hx)

end Piece

end SlideDeck.Markdown
