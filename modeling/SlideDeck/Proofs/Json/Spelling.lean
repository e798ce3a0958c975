import SlideDeck.Json.Reader
import SlideDeck.Proofs.Json.Members
import SlideDeck.Proofs.Text.Ascii
import SlideDeck.Text.Quoted

/-!
The texts of a JSON value. White space between tokens is free, and so is the spelling of each
character of a string; a whole number has one spelling, and zero a second one with a sign. Floats
have no text here.
-/

namespace SlideDeck.Json

open Text

/-- White space that does not count. -/
def IsGap (s : List Char) : Prop := ∀ c ∈ s, c = ' ' ∨ c = '\t' ∨ c = '\n' ∨ c = '\r'

/-- The letters that stand for a character behind a backslash. -/
def shortEscapes : List (Char × Char) :=
  [('"', '"'), ('\\', '\\'), ('/', '/'), ('b', '\x08'), ('f', '\x0c'), ('n', '\n'), ('r', '\r'),
    ('t', '\t')]

/-- Four hexadecimal digits, in either letter case. -/
def IsCodeUnit (digits : List Char) (n : Nat) : Prop := digits.length = 4 ∧ IsHexNumber digits n

/-- The spellings of a character in a string. Beyond the first plane it takes a surrogate pair to
name its number. -/
inductive SpellsChar : List Char → Char → Prop where
  | plain {c : Char} (hcontrol : 32 ≤ c.toNat) (hquote : c ≠ '"') (hescape : c ≠ '\\') :
    SpellsChar [c] c
  | short {e c : Char} (h : (e, c) ∈ shortEscapes) : SpellsChar ['\\', e] c
  | numeric {digits : List Char} {c : Char} (h : IsCodeUnit digits c.toNat) :
    SpellsChar ('\\' :: 'u' :: digits) c
  | pair {high low : List Char} {c : Char} (hplane : 0x10000 ≤ c.toNat)
    (hhigh : IsCodeUnit high (0xd800 + (c.toNat - 0x10000) / 0x400))
    (hlow : IsCodeUnit low (0xdc00 + (c.toNat - 0x10000) % 0x400)) :
    SpellsChar ('\\' :: 'u' :: (high ++ '\\' :: 'u' :: low)) c

theorem SpellsChar.ne_nil {s : List Char} {c : Char} (h : SpellsChar s c) : s ≠ [] := by
  cases h <;> exact List.cons_ne_nil _ _

def SpellsString (s : List Char) (t : String) : Prop :=
  ∃ parts, List.Forall₂ SpellsChar parts t.toList ∧ s = '"' :: (parts.flatten ++ ['"'])

/-- The spellings of a whole number that is not too long. -/
inductive SpellsInt : List Char → Int → Prop where
  | natural {n : Nat} (h : (Nat.toDigits 10 n).length ≤ maxDigits) : SpellsInt (Nat.toDigits 10 n) n
  | negative {n : Nat} (h : (Nat.toDigits 10 n).length ≤ maxDigits) :
    SpellsInt ('-' :: Nat.toDigits 10 n) (-n)

mutual

/-- The texts of a value. -/
inductive Spells : List Char → Value → Prop where
  | null : Spells "null".toList .null
  | bool (b : Bool) : Spells (toString b).toList (.bool b)
  | int {s : List Char} {i : Int} (h : SpellsInt s i) : Spells s (.int i)
  | string {s : List Char} {t : String} (h : SpellsString s t) : Spells s (.string t)
  | noItems {gap : List Char} (hgap : IsGap gap) : Spells ('[' :: (gap ++ [']'])) (.array [])
  | items {s : List Char} {vs : List Value} (h : SpellsItems s vs) : Spells ('[' :: s) (.array vs)
  | noMembers {gap : List Char} (hgap : IsGap gap) :
    Spells ('\x7b' :: (gap ++ ['\x7d'])) (.object [])
  | members {s : List Char} {ms : List (CodePoints × Value)} {o : Object} (h : SpellsMembers s ms)
    (ho : Remains ms o) : Spells ('\x7b' :: s) (.object o)

/-- A value with white space around it. -/
inductive SpellsItem : List Char → Value → Prop where
  | mk {front s back : List Char} {v : Value} (hfront : IsGap front) (h : Spells s v)
    (hback : IsGap back) : SpellsItem (front ++ (s ++ back)) v

/-- The items of an array, up to its closing bracket. -/
inductive SpellsItems : List Char → List Value → Prop where
  | last {s : List Char} {v : Value} (h : SpellsItem s v) : SpellsItems (s ++ [']']) [v]
  | more {s t : List Char} {v : Value} {vs : List Value} (h : SpellsItem s v)
    (ht : SpellsItems t vs) : SpellsItems (s ++ ',' :: t) (v :: vs)

/-- A key and a value, with white space around both. -/
inductive SpellsMember : List Char → CodePoints × Value → Prop where
  | mk {front k gap s : List Char} {key : String} {v : Value} (hfront : IsGap front)
    (hkey : SpellsString k key) (hgap : IsGap gap) (h : SpellsItem s v) :
    SpellsMember (front ++ (k ++ (gap ++ ':' :: s))) (key, v)

/-- The members of an object as they are written, up to its closing brace. -/
inductive SpellsMembers : List Char → List (CodePoints × Value) → Prop where
  | last {s : List Char} {m : CodePoints × Value} (h : SpellsMember s m) :
    SpellsMembers (s ++ ['\x7d']) [m]
  | more {s t : List Char} {m : CodePoints × Value} {ms : List (CodePoints × Value)}
    (h : SpellsMember s m) (ht : SpellsMembers t ms) : SpellsMembers (s ++ ',' :: t) (m :: ms)

end

/-- A text that holds one value. -/
def IsTextOf (s : List Char) (v : Value) : Prop :=
  ∃ front t back, s = front ++ (t ++ back) ∧ IsGap front ∧ Spells t v ∧ IsGap back

/-- A value that has a text: it is built without floats and without surrogates, its whole numbers
are not too long, and the keys of each of its objects are different. -/
inductive IsSpellable : Value → Prop where
  | null : IsSpellable .null
  | bool (b : Bool) : IsSpellable (.bool b)
  | int {i : Int} (h : (Nat.toDigits 10 i.natAbs).length ≤ maxDigits) : IsSpellable (.int i)
  | string (s : String) : IsSpellable (.string s)
  | array {vs : List Value} (h : ∀ v ∈ vs, IsSpellable v) : IsSpellable (.array vs)
  | object {o : Object} (hkeys : (o.map Prod.fst).Nodup) (hplain : ∀ m ∈ o, m.1.rest = [])
    (h : ∀ m ∈ o, IsSpellable m.2) : IsSpellable (.object o)

/-- The control characters are those that must be named by their number. -/
theorem isCodeUnit_of_control {c : Char} (hc : c.toNat < 32) :
    IsCodeUnit (hexDigits 4 c.toNat) c.toNat := by
  have hcontrol : ∀ n < 32, (hexDigits 4 n).length = 4 ∧
      (hexDigits 4 n).foldlM (fun n h => (hexValue? h).map (16 * n + ·)) 0 = some n := by
    decide +kernel
  obtain ⟨hlen, hvalue⟩ := hcontrol c.toNat hc
  exact ⟨hlen, (foldlM_hexValue?_eq_some_iff _ _).mp hvalue⟩

theorem exists_spellsChar (c : Char) : ∃ s, SpellsChar s c := by
  by_cases hc : c.toNat < 32
  · exact ⟨_, .numeric (isCodeUnit_of_control hc)⟩
  · by_cases hquote : c = '"'
    · exact ⟨_, .short (e := '"') (by rw [hquote]; decide)⟩
    · by_cases hescape : c = '\\'
      · exact ⟨_, .short (e := '\\') (by rw [hescape]; decide)⟩
      · exact ⟨_, .plain (Nat.le_of_not_lt hc) hquote hescape⟩

theorem exists_spellsString (t : String) : ∃ s, SpellsString s t := by
  choose spelling hspelling using exists_spellsChar
  refine ⟨_, t.toList.map spelling, ?_, rfl⟩
  rw [List.forall₂_map_left_iff, List.forall₂_same]
  exact fun c _ => hspelling c

theorem exists_spellsInt {i : Int} (h : (Nat.toDigits 10 i.natAbs).length ≤ maxDigits) :
    ∃ s, SpellsInt s i := by
  obtain ⟨n, rfl | rfl⟩ := Int.eq_nat_or_neg i
  · exact ⟨_, .natural (by simpa using h)⟩
  · exact ⟨_, .negative (by simpa using h)⟩

theorem isGap_nil : IsGap [] := List.forall_mem_nil _

theorem Spells.item {s : List Char} {v : Value} (h : Spells s v) : SpellsItem (s ++ []) v :=
  .mk isGap_nil h isGap_nil

theorem exists_spellsItems {vs : List Value} (h : ∀ v ∈ vs, ∃ s, Spells s v) (hne : vs ≠ []) :
    ∃ s, SpellsItems s vs := by
  induction vs with
  | nil => exact absurd rfl hne
  | cons v vs ih =>
    obtain ⟨⟨s, hs⟩, hvs⟩ := List.forall_mem_cons.mp h
    cases vs with
    | nil => exact ⟨_, .last hs.item⟩
    | cons w vs =>
      obtain ⟨t, ht⟩ := ih hvs (List.cons_ne_nil w vs)
      exact ⟨_, .more hs.item ht⟩

theorem exists_spellsMembers {ms : List (CodePoints × Value)} (hplain : ∀ m ∈ ms, m.1.rest = [])
    (h : ∀ m ∈ ms, ∃ s, Spells s m.2) (hne : ms ≠ []) : ∃ s, SpellsMembers s ms := by
  have hmember {m : CodePoints × Value} (hm : m.1.rest = []) (h : ∃ s, Spells s m.2) :
      ∃ s, SpellsMember s m := by
    obtain ⟨⟨key, rest⟩, v⟩ := m
    obtain rfl : rest = [] := hm
    obtain ⟨s, hs⟩ := h
    obtain ⟨k, hk⟩ := exists_spellsString key
    exact ⟨_, .mk isGap_nil hk isGap_nil hs.item⟩
  induction ms with
  | nil => exact absurd rfl hne
  | cons m ms ih =>
    obtain ⟨hm, hms⟩ := List.forall_mem_cons.mp h
    obtain ⟨hkey, hkeys⟩ := List.forall_mem_cons.mp hplain
    obtain ⟨s, hs⟩ := hmember hkey hm
    cases ms with
    | nil => exact ⟨_, .last hs⟩
    | cons m' ms =>
      obtain ⟨t, ht⟩ := ih hkeys hms (List.cons_ne_nil m' ms)
      exact ⟨_, .more hs ht⟩

theorem IsSpellable.exists_spells {v : Value} (h : IsSpellable v) : ∃ s, Spells s v := by
  induction h with
  | null => exact ⟨_, .null⟩
  | bool b => exact ⟨_, .bool b⟩
  | int h =>
    obtain ⟨s, hs⟩ := exists_spellsInt h
    exact ⟨s, .int hs⟩
  | string t =>
    obtain ⟨s, hs⟩ := exists_spellsString t
    exact ⟨s, .string hs⟩
  | @array vs _ ih =>
    by_cases hne : vs = []
    · subst hne
      exact ⟨_, .noItems isGap_nil⟩
    · obtain ⟨s, hs⟩ := exists_spellsItems ih hne
      exact ⟨_, .items hs⟩
  | @object o hkeys hplain _ ih =>
    by_cases hne : o = []
    · subst hne
      exact ⟨_, .noMembers isGap_nil⟩
    · obtain ⟨s, hs⟩ := exists_spellsMembers hplain ih hne
      exact ⟨_, .members hs (remains_self hkeys)⟩

end SlideDeck.Json
