import SlideDeck.Deck.ShapeText
import SlideDeck.Proofs.Json.ReadBack

/-!
The options of a shape are the object that its text spells, however it is spelled.
-/

namespace SlideDeck.Deck

open Json
open Text (CodePoints)

/-- A text of an object with these members, as they are written. -/
def IsTextOfMembers (s : List Char) (ms : List (CodePoints × Value)) : Prop :=
  ∃ front t back, s = front ++ ('\x7b' :: (t ++ back)) ∧ IsGap front ∧ SpellsMembers t ms ∧
    IsGap back

theorem IsTextOfMembers.isTextOf {s : List Char} {ms : List (CodePoints × Value)} {o : Object}
    (h : IsTextOfMembers s ms) (ho : Remains ms o) : IsTextOf s (.object o) := by
  obtain ⟨front, t, back, rfl, hfront, ht, hback⟩ := h
  exact ⟨front, _, back, rfl, hfront, .members ht ho, hback⟩

theorem parseShape_eq_ok {name s : String} {kind : ShapeKind} {o : Object}
    (hname : shapeKind? name = some kind) (hs : IsTextOf s.toList (.object o)) :
    parseShape name s = .ok (.ok ⟨kind, o⟩) := by
  rw [parseShape, hname]
  dsimp only
  rw [parse_of_isTextOf hs]

/-- Each text of an object is read as that object: its members in their order, its whole numbers
exact, and of members with the same key the first place and the last value. Every object without
floats, surrogates and too long numbers has such a text. -/
theorem parseShape_of_isTextOf {name : String} {kind : ShapeKind}
    (hname : shapeKind? name = some kind) :
    (∀ (s : String) o, IsTextOf s.toList (.object o) → parseShape name s = .ok (.ok ⟨kind, o⟩)) ∧
    (∀ (s : String) ms, IsTextOfMembers s.toList ms →
      ∃ o, Remains ms o ∧ parseShape name s = .ok (.ok ⟨kind, o⟩)) ∧
    ∀ o, IsSpellable (.object o) → ∃ s : String, IsTextOf s.toList (.object o) := by
  refine ⟨fun s o hs => parseShape_eq_ok hname hs, fun s ms hs => ?_, fun o ho => ?_⟩
  · have ho := remains_setAll ms
    exact ⟨_, ho, parseShape_eq_ok hname (hs.isTextOf ho)⟩
  · obtain ⟨s, hs⟩ := ho.exists_spells
    refine ⟨String.ofList s, [], s, [], ?_, isGap_nil, hs, isGap_nil⟩
    rw [String.toList_ofList, List.nil_append, List.append_nil]

/-- Two members with one key, spelled in two ways, and one with a character of a later plane. -/
def spelledOptions : String :=
  " \x7b\"k\": -7,\n\"x\\t\" : \"\\uD83d\\uDE00/\" , \"\\u006B\":[ 0, null]\x7d"

theorem isTextOfMembers_spelledOptions : IsTextOfMembers spelledOptions.toList
    [("k", .int (-7)), ("x\t", .string "😀/"), ("k", .array [.int 0, .null])] := by
  have hspace : IsGap [' '] := by simp [IsGap]
  have hfeed : IsGap ['\n'] := by simp [IsGap]
  have hunit {digits : List Char} {n : Nat} (hlen : digits.length = 4)
      (h : digits.foldlM (fun n c => (Text.hexValue? c).map (16 * n + ·)) 0 = some n) :
      IsCodeUnit digits n := ⟨hlen, (Text.foldlM_hexValue?_eq_some_iff digits n).mp h⟩
  have hplain {c : Char} (h : 32 ≤ c.toNat ∧ c ≠ '"' ∧ c ≠ '\\') : SpellsChar [c] c :=
    .plain h.1 h.2.1 h.2.2
  have hkey : SpellsString ['"', 'k', '"'] "k" :=
    ⟨[['k']], .cons (hplain (by decide)) .nil, rfl⟩
  have hkey' : SpellsString ['"', '\\', 'u', '0', '0', '6', 'B', '"'] "k" :=
    ⟨[['\\', 'u', '0', '0', '6', 'B']], .cons (.numeric (hunit rfl rfl)) .nil, rfl⟩
  have hx : SpellsString ['"', 'x', '\\', 't', '"'] "x\t" :=
    ⟨[['x'], ['\\', 't']], .cons (hplain (by decide)) (.cons (.short (by decide)) .nil), rfl⟩
  have hface : SpellsString ('"' :: '\\' :: 'u' :: (['D', '8', '3', 'd'] ++ '\\' :: 'u' ::
      (['D', 'E', '0', '0'] ++ ['/', '"']))) "😀/" :=
    ⟨['\\' :: 'u' :: (['D', '8', '3', 'd'] ++ '\\' :: 'u' :: ['D', 'E', '0', '0']), ['/']],
      .cons (.pair (by decide) (hunit rfl rfl) (hunit rfl rfl)) (.cons (hplain (by decide)) .nil),
      rfl⟩
  have hseven : SpellsInt ['-', '7'] (-7) := SpellsInt.negative (n := 7) (by decide)
  have hzero : SpellsInt ['0'] 0 := SpellsInt.natural (n := 0) (by decide)
  have hitems := SpellsItems.more (.mk hspace (.int hzero) isGap_nil)
    (.last (.mk hspace .null isGap_nil))
  have hfirst := SpellsMember.mk isGap_nil hkey isGap_nil (.mk hspace (.int hseven) isGap_nil)
  have hsecond := SpellsMember.mk hfeed hx hspace (.mk hspace (.string hface) hspace)
  have hthird := SpellsMember.mk hspace hkey' isGap_nil (.mk isGap_nil (.items hitems) isGap_nil)
  exact ⟨[' '], _, [], rfl, hspace, .more hfirst (.more hsecond (.last hthird)), isGap_nil⟩

theorem parseShape_of_isTextOf_spelledOptions :
    IsTextOfMembers spelledOptions.toList
      [("k", .int (-7)), ("x\t", .string "😀/"), ("k", .array [.int 0, .null])] ∧
    parseShape "oval" spelledOptions =
      .ok (.ok ⟨.oval, [("k", .array [.int 0, .null]), ("x\t", .string "😀/")]⟩) := by
  have hname : shapeKind? "oval" = some .oval := rfl
  have hs := isTextOfMembers_spelledOptions
  obtain ⟨o, ho, hread⟩ := (parseShape_of_isTextOf hname).2.1 _ _ hs
  obtain rfl := remains_iff.mp ho
  exact ⟨hs, hread⟩

end SlideDeck.Deck
