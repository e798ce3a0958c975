import Mathlib.Data.List.Basic
import Mathlib.Data.List.TakeWhile
import SlideDeck.Text.Octets
import SlideDeck.Proofs.Text.Ascii

/-!
Which octets are a text: exactly those that write a list of characters one after the other in UTF-8,
and what they are read as are these characters.
-/

namespace SlideDeck.Text

/-- The octets of a character are those that the library writes. -/
theorem map_toNat_utf8EncodeChar (c : Char) :
    (String.utf8EncodeChar c).map UInt8.toNat = octets c := by
  have hmod (n : Nat) (h : n < 256) : (UInt8.ofNat n).toNat = n := UInt8.toNat_ofNat_of_lt' h
  have hvalid : c.toNat < 0xd800 ∨ 0xdfff < c.toNat ∧ c.toNat < 0x110000 := c.valid
  have hval : c.val.toNat = c.toNat := rfl
  rw [String.utf8EncodeChar, octets, hval]
  generalize c.toNat = n at hvalid
  by_cases h1 : n < 0x80
  · rw [if_pos h1, if_pos (Nat.le_of_lt_succ h1), List.map_singleton, hmod _ (by omega)]
  rw [if_neg h1, if_neg (mt Nat.lt_succ_of_le h1)]
  by_cases h2 : n < 0x800
  · rw [if_pos h2, if_pos (Nat.le_of_lt_succ h2)]
    simp (disch := omega) only [List.map_cons, List.map_nil, hmod, List.cons.injEq, and_true]
    omega
  rw [if_neg h2, if_neg (mt Nat.lt_succ_of_le h2)]
  by_cases h3 : n < 0x10000
  · rw [if_pos h3, if_pos (Nat.le_of_lt_succ h3)]
    simp (disch := omega) only [List.map_cons, List.map_nil, hmod, List.cons.injEq, and_true]
    omega
  · rw [if_neg h3, if_neg (mt Nat.lt_succ_of_le h3)]
    simp (disch := omega) only [List.map_cons, List.map_nil, hmod, List.cons.injEq, and_true]
    omega

theorem isContinuation_iff (b : Nat) : isContinuation b ↔ 0x80 ≤ b ∧ b ≤ 0xbf := by
  rw [isContinuation, beq_iff_eq]
  omega

/-- What a first octet tells, by the number of octets that follow it. -/
inductive Leads : Nat → Lead → Prop
  | alone {a : Nat} (h : a < 0x80) : Leads a { share := a, following := 0 }
  | one {a : Nat} (h : 0xc2 ≤ a) (h' : a < 0xe0) : Leads a { share := a - 0xc0, following := 1 }
  | two {a low high : Nat} (h : 0xe0 ≤ a) (h' : a < 0xf0)
      (hlow : low = if a = 0xe0 then 0xa0 else 0x80)
      (hhigh : high = if a = 0xed then 0x9f else 0xbf) : Leads a ⟨a - 0xe0, 2, low, high⟩
  | three {a low high : Nat} (h : 0xf0 ≤ a) (h' : a < 0xf5)
      (hlow : low = if a = 0xf0 then 0x90 else 0x80)
      (hhigh : high = if a = 0xf4 then 0x8f else 0xbf) : Leads a ⟨a - 0xf0, 3, low, high⟩

theorem lead?_eq_some_iff (a : Nat) (l : Lead) : lead? a = some l ↔ Leads a l := by
  constructor
  · intro h
    unfold lead? at h
    split_ifs at h
    · obtain rfl := Option.some.inj h
      exact .alone (by omega)
    · obtain rfl := Option.some.inj h
      exact .one (by omega) (by omega)
    · obtain rfl := Option.some.inj h
      subst a
      exact .two (a := 0xe0) (by omega) (by omega) rfl rfl
    · obtain rfl := Option.some.inj h
      subst a
      exact .two (a := 0xed) (by omega) (by omega) rfl rfl
    · obtain rfl := Option.some.inj h
      exact .two (by omega) (by omega) (by rw [if_neg (by omega)]) (by rw [if_neg (by omega)])
    · obtain rfl := Option.some.inj h
      subst a
      exact .three (a := 0xf0) (by omega) (by omega) rfl rfl
    · obtain rfl := Option.some.inj h
      exact .three (by omega) (by omega) (by rw [if_neg (by omega)]) (by rw [if_neg (by omega)])
    · obtain rfl := Option.some.inj h
      subst a
      exact .three (a := 0xf4) (by omega) (by omega) rfl rfl
  · intro h
    cases h with
    | alone h => rw [lead?, if_pos h]
    | one h h' => rw [lead?, if_neg (by omega), if_neg (by omega), if_pos h']
    | two h h' hlow hhigh =>
      subst hlow hhigh
      rw [lead?, if_neg (by omega), if_neg (by omega), if_neg (by omega)]
      split_ifs <;> simp_all
    | three h h' hlow hhigh =>
      subst hlow hhigh
      rw [lead?, if_neg (by omega), if_neg (by omega), if_neg (by omega), if_neg (by omega),
        if_neg (by omega), if_neg (by omega)]
      split_ifs <;> first | omega | simp_all

/-- The octets that a first octet asks for. -/
structure Follows (l : Lead) (bs : List Nat) : Prop where
  length : bs.length = l.following
  first : ∀ b ∈ bs.head?, l.low ≤ b ∧ b ≤ l.high
  rest : ∀ b ∈ bs.tail, isContinuation b

theorem follows_nil {l : Lead} (h : l.following = 0) : Follows l [] :=
  ⟨h.symm, by rintro _ ⟨⟩, List.forall_mem_nil _⟩

/-- The number of the character that these octets write. -/
def codePoint (l : Lead) (bs : List Nat) : Nat := bs.foldl (fun n b => 64 * n + b % 64) l.share

theorem followers_append {l : Lead} {bs : List Nat} (h : Follows l bs) (ns : List Nat) :
    followers l (bs ++ ns) = bs := by
  obtain ⟨hlength, hfirst, hrest⟩ := h
  cases bs with
  | nil =>
    rw [List.length_nil] at hlength
    cases ns with
    | nil => rfl
    | cons n ns => simp [followers, ← hlength]
  | cons b bs =>
    obtain ⟨hlow, hhigh⟩ := hfirst b rfl
    rw [List.length_cons] at hlength
    have hpos : 0 < l.following := by omega
    have htake : (bs ++ ns).take (l.following - 1) = bs := by
      rw [← hlength, Nat.add_sub_cancel, List.take_left]
    have hall : bs.takeWhile isContinuation = bs := by
      rw [List.takeWhile_eq_self_iff]
      exact hrest
    simp [followers, hpos, hlow, hhigh, htake, hall]

theorem follows_followers {l : Lead} {ns : List Nat}
    (h : (followers l ns).length = l.following) :
    Follows l (followers l ns) ∧ followers l ns ++ ns.drop (followers l ns).length = ns := by
  cases ns with
  | nil => exact ⟨follows_nil h.symm, rfl⟩
  | cons b ns =>
    rw [followers] at h ⊢
    split at h
    · rename_i hb
      rw [if_pos hb]
      simp only [Bool.and_eq_true, decide_eq_true_eq] at hb
      have hprefix : (ns.take (l.following - 1)).takeWhile isContinuation <+: ns :=
        (List.takeWhile_prefix _).trans (List.take_prefix _ _)
      refine ⟨⟨h, ?_, ?_⟩, ?_⟩
      · rintro _ ⟨⟩
        exact ⟨hb.1.2, hb.2⟩
      · exact List.all_eq_true.mp List.all_takeWhile
      · rw [List.length_cons, List.drop_succ_cons, List.cons_append,
          List.prefix_iff_eq_append.mp hprefix]
    · rename_i hb
      rw [if_neg hb]
      exact ⟨follows_nil h.symm, rfl⟩

/-- Octets that are read as a character are those that write it. -/
theorem octets_codePoint {a : Nat} {l : Lead} {bs : List Nat} (ha : Leads a l)
    (hbs : Follows l bs) : octets (Char.ofNat (codePoint l bs)) = a :: bs := by
  obtain ⟨hlength, hfirst, hrest⟩ := hbs
  simp only [isContinuation_iff] at hrest
  generalize hn : codePoint l bs = n
  cases ha with
  | alone h =>
    obtain rfl := List.length_eq_zero_iff.mp hlength
    obtain rfl : a = n := hn
    rw [octets, toNat_ofNat_of_isValidChar (.inl (by omega)), if_pos h]
  | one h h' =>
    obtain ⟨b, rfl⟩ := List.length_eq_one_iff.mp hlength
    have hb := hfirst b rfl
    simp only [codePoint, List.foldl_cons, List.foldl_nil] at hn hb
    rw [octets, toNat_ofNat_of_isValidChar (.inl (by omega)), if_neg (by omega),
      if_pos (by omega)]
    simp only [List.cons.injEq, and_true]
    omega
  | two h h' hlow hhigh =>
    obtain ⟨b, c, rfl⟩ := List.length_eq_two.mp hlength
    have hb := hfirst b rfl
    have hc := hrest c List.mem_cons_self
    simp only [codePoint, List.foldl_cons, List.foldl_nil] at hn hb
    have hbounds : 0x80 ≤ b ∧ b ≤ 0xbf ∧ 0x800 ≤ n ∧ (n < 0xd800 ∨ 0xdfff < n) := by
      split_ifs at hlow hhigh <;> omega
    have hvalid : n.isValidChar := by
      rw [Nat.isValidChar]
      omega
    rw [octets, toNat_ofNat_of_isValidChar hvalid, if_neg (by omega), if_neg (by omega),
      if_pos (by omega)]
    simp only [List.cons.injEq, and_true]
    omega
  | three h h' hlow hhigh =>
    obtain ⟨b, c, d, rfl⟩ := List.length_eq_three.mp hlength
    have hb := hfirst b rfl
    have hc := hrest c List.mem_cons_self
    have hd := hrest d (List.mem_cons_of_mem _ List.mem_cons_self)
    simp only [codePoint, List.foldl_cons, List.foldl_nil] at hn hb
    have hbounds : 0x80 ≤ b ∧ b ≤ 0xbf ∧ 0x10000 ≤ n ∧ n < 0x110000 := by
      split_ifs at hlow hhigh <;> omega
    rw [octets, toNat_ofNat_of_isValidChar (.inr (by omega)), if_neg (by omega), if_neg (by omega),
      if_neg (by omega)]
    simp only [List.cons.injEq, and_true]
    omega

/-- Every character is read from the octets that write it. -/
theorem exists_leads (c : Char) :
    ∃ a l bs, octets c = a :: bs ∧ Leads a l ∧ Follows l bs ∧ Char.ofNat (codePoint l bs) = c := by
  have hvalid : c.toNat < 0xd800 ∨ 0xdfff < c.toNat ∧ c.toNat < 0x110000 := c.valid
  have hchar := c.ofNat_toNat
  rw [octets]
  generalize c.toNat = n at hvalid hchar ⊢
  subst hchar
  by_cases h1 : n < 0x80
  · exact ⟨n, _, [], if_pos h1, .alone h1, follows_nil rfl, rfl⟩
  rw [if_neg h1]
  by_cases h2 : n < 0x800
  · refine ⟨_, _, _, if_pos h2, .one (by omega) (by omega), ⟨rfl, ?_, List.forall_mem_nil _⟩, ?_⟩
    · rintro _ ⟨⟩
      dsimp only
      omega
    · congr 1
      simp only [codePoint, List.foldl_cons, List.foldl_nil]
      omega
  rw [if_neg h2]
  by_cases h3 : n < 0x10000
  · refine ⟨_, _, _, if_pos h3, .two (by omega) (by omega) rfl rfl, ⟨rfl, ?_, ?_⟩, ?_⟩
    · rintro _ ⟨⟩
      dsimp only
      split_ifs <;> omega
    · rw [List.tail_cons, List.forall_mem_singleton, isContinuation_iff]
      omega
    · congr 1
      simp only [codePoint, List.foldl_cons, List.foldl_nil]
      omega
  rw [if_neg h3]
  refine ⟨_, _, _, rfl, .three (by omega) (by omega) rfl rfl, ⟨rfl, ?_, ?_⟩, ?_⟩
  · rintro _ ⟨⟩
    dsimp only
    split_ifs <;> omega
  · rw [List.tail_cons, List.forall_mem_cons, List.forall_mem_singleton, isContinuation_iff,
      isContinuation_iff]
    omega
  · congr 1
    simp only [codePoint, List.foldl_cons, List.foldl_nil]
    omega

theorem ofOctetsFrom_cons {a : Nat} {l : Lead} {bs : List Nat} (ha : Leads a l)
    (hbs : Follows l bs) (position : Nat) (ns : List Nat) :
    ofOctetsFrom position (a :: (bs ++ ns)) =
      (ofOctetsFrom (position + 1 + bs.length) ns).map (Char.ofNat (codePoint l bs) :: ·) := by
  rw [ofOctetsFrom, (lead?_eq_some_iff a l).mpr ha]
  dsimp only
  rw [followers_append hbs, if_pos hbs.length, List.drop_left, codePoint]
  cases ofOctetsFrom (position + 1 + bs.length) ns <;> rfl

theorem ofOctetsFrom_append (position : Nat) (c : Char) (ns : List Nat) :
    ofOctetsFrom position (octets c ++ ns) =
      (ofOctetsFrom (position + (octets c).length) ns).map (c :: ·) := by
  obtain ⟨a, l, bs, hc, ha, hbs, hchar⟩ := exists_leads c
  rw [hc, List.cons_append, ofOctetsFrom_cons ha hbs, hchar, List.length_cons, Nat.add_assoc,
    Nat.add_comm 1]

/-- Octets that can be read begin with those of a character. -/
theorem exists_octets_append {position a : Nat} {ns : List Nat} {cs : List Char}
    (h : ofOctetsFrom position (a :: ns) = .ok cs) : ∃ c rest, a :: ns = octets c ++ rest := by
  rw [ofOctetsFrom] at h
  split at h
  · cases h
  · rename_i l hl
    dsimp only at h
    split at h
    · rename_i hlength
      obtain ⟨hbs, hns⟩ := follows_followers hlength
      refine ⟨Char.ofNat (codePoint l (followers l ns)), ns.drop (followers l ns).length, ?_⟩
      rw [octets_codePoint ((lead?_eq_some_iff a l).mp hl) hbs, List.cons_append, hns]
    · split at h <;> cases h

theorem ofOctetsFrom_eq_ok_iff (position : Nat) (ns : List Nat) (cs : List Char) :
    ofOctetsFrom position ns = .ok cs ↔ ns = cs.flatMap octets := by
  induction cs generalizing position ns with
  | nil =>
    cases ns with
    | nil => exact iff_of_true (by rw [ofOctetsFrom]) rfl
    | cons a ns =>
      refine iff_of_false (fun h => ?_) (List.cons_ne_nil a ns)
      obtain ⟨c, rest, hrest⟩ := exists_octets_append h
      rw [hrest, ofOctetsFrom_append] at h
      cases hcs : ofOctetsFrom (position + (octets c).length) rest <;> rw [hcs] at h <;> cases h
  | cons c cs ih =>
    rw [List.flatMap_cons]
    constructor
    · intro h
      cases ns with
      | nil =>
        rw [ofOctetsFrom] at h
        cases h
      | cons a ns =>
        obtain ⟨d, rest, hrest⟩ := exists_octets_append h
        rw [hrest, ofOctetsFrom_append] at h
        cases hcs : ofOctetsFrom (position + (octets d).length) rest with
        | error f =>
          rw [hcs] at h
          cases h
        | ok ds =>
          rw [hcs] at h
          cases h
          rw [hrest, (ih _ _).mp hcs]
    · rintro rfl
      rw [ofOctetsFrom_append, (ih _ _).mpr rfl]
      rfl

/-- Octets are read as a text if and only if they are the text in UTF-8. -/
theorem ofOctets_eq_ok_iff (s : List UInt8) (cs : List Char) :
    ofOctets s = .ok cs ↔ s = cs.flatMap String.utf8EncodeChar := by
  have hencode : cs.flatMap octets = (cs.flatMap String.utf8EncodeChar).map UInt8.toNat := by
    simp only [List.map_flatMap, map_toNat_utf8EncodeChar]
  rw [ofOctets, ofOctetsFrom_eq_ok_iff, hencode]
  exact (List.map_injective_iff.mpr fun _ _ => UInt8.toNat_inj.mp).eq_iff

end SlideDeck.Text
