import Mathlib.Data.List.Basic
import SlideDeck.Text.Lines
import SlideDeck.Text.Octets

/-!
Quoted texts and messages stand on one line: what would end a line has no visible form and is
written as an escape.
-/

namespace SlideDeck.Text

/-- Nothing in a text ends a line. -/
def IsOneLine (s : List Char) : Prop := ∀ c ∈ s, isLineEnd c = false

instance (s : List Char) : Decidable (IsOneLine s) :=
  List.decidableBAll (fun c => isLineEnd c = false) s

theorem isOneLine_append {s t : List Char} : IsOneLine (s ++ t) ↔ IsOneLine s ∧ IsOneLine t :=
  List.forall_mem_append

theorem isOneLine_cons {c : Char} {s : List Char} :
    IsOneLine (c :: s) ↔ isLineEnd c = false ∧ IsOneLine s :=
  List.forall_mem_cons

theorem not_isLineEnd_of_isPrintable {c : Char} (h : isPrintable c) : isLineEnd c = false := by
  have hhidden : ∀ n ∈ [10, 11, 12, 13, 28, 29, 30, 0x85, 0x2028, 0x2029],
      isPrintable (Char.ofNat n) = false := by decide +kernel
  by_contra hend
  have hmem : c.toNat ∈ [10, 11, 12, 13, 28, 29, 30, 0x85, 0x2028, 0x2029] := by
    rw [Bool.not_eq_false, isLineEnd] at hend
    simp only [Bool.or_eq_true, Bool.and_eq_true, decide_eq_true_eq, beq_iff_eq] at hend
    simp only [List.mem_cons, List.not_mem_nil, or_false]
    omega
  have hc := hhidden c.toNat hmem
  rw [Char.ofNat_toNat, h] at hc
  cases hc

theorem isOneLine_hexDigits (width n : Nat) : IsOneLine (hexDigits width n) := by
  have hdigit : ∀ d < 16, isLineEnd (hexDigit d) = false := by decide
  induction width generalizing n with
  | zero => exact List.forall_mem_nil _
  | succ width ih =>
    rw [hexDigits, isOneLine_append]
    exact ⟨ih _, List.forall_mem_singleton.mpr (hdigit _ (Nat.mod_lt _ (by decide)))⟩

theorem isOneLine_toString (n : Nat) : IsOneLine (toString n).toList := by
  intro c hc
  rw [Nat.toString_eq_repr, Nat.toList_repr] at hc
  have hdigit : c.isDigit := Nat.isDigit_of_mem_toDigits (by decide) (by decide) hc
  have hrange : 48 ≤ c.toNat ∧ c.toNat ≤ 57 := by
    simpa [Char.isDigit, UInt32.le_iff_toNat_le] using hdigit
  refine not_isLineEnd_of_isPrintable ?_
  rw [isPrintable, if_pos]
  rw [Bool.and_eq_true, decide_eq_true_eq, decide_eq_true_eq]
  omega

theorem isOneLine_quoteChar {mark : Char} (hmark : isLineEnd mark = false) (c : Char) :
    IsOneLine (quoteChar mark c) := by
  have hescape {s : List Char} (k : Char) (hk : isLineEnd k = false) (hs : IsOneLine s) :
      IsOneLine ('\\' :: k :: s) :=
    isOneLine_cons.mpr ⟨rfl, isOneLine_cons.mpr ⟨hk, hs⟩⟩
  rw [quoteChar]
  split_ifs with hc hn hr ht hprintable
  · refine hescape c ?_ (List.forall_mem_nil _)
    rw [Bool.or_eq_true, decide_eq_true_eq, decide_eq_true_eq] at hc
    obtain rfl | rfl := hc
    · exact hmark
    · rfl
  · exact hescape 'n' rfl (List.forall_mem_nil _)
  · exact hescape 'r' rfl (List.forall_mem_nil _)
  · exact hescape 't' rfl (List.forall_mem_nil _)
  · exact List.forall_mem_singleton.mpr (not_isLineEnd_of_isPrintable hprintable)
  · exact hescape 'x' rfl (isOneLine_hexDigits 2 _)
  · exact hescape 'u' rfl (isOneLine_hexDigits 4 _)
  · exact hescape 'U' rfl (isOneLine_hexDigits 8 _)

theorem isOneLine_quoted (s : String) : IsOneLine (quoted s).toList := by
  have hmark : isLineEnd (quoteMark s.toList) = false := by
    rw [quoteMark]
    split <;> rfl
  rw [quoted, String.toList_ofList, isOneLine_append, isOneLine_cons]
  refine ⟨⟨hmark, fun c hc => ?_⟩, List.forall_mem_singleton.mpr hmark⟩
  obtain ⟨d, -, hd⟩ := List.mem_flatMap.mp hc
  exact isOneLine_quoteChar hmark d c hd

theorem OctetFault.isOneLine_message (f : OctetFault) : IsOneLine f.message.toList := by
  have hkind : IsOneLine f.kind.text.toList := by
    cases f.kind <;> decide +kernel
  have hcodec : IsOneLine "'utf-8' codec can't decode ".toList := by decide +kernel
  have hcolon : IsOneLine ": ".toList := by decide +kernel
  unfold message
  simp only [String.toList_append, isOneLine_append]
  refine ⟨⟨⟨hcodec, ?_⟩, hcolon⟩, hkind⟩
  split
  · have hbyte : IsOneLine "byte 0x".toList := by decide +kernel
    have hposition : IsOneLine " in position ".toList := by decide +kernel
    simp only [String.toList_append, String.toList_ofList, isOneLine_append]
    exact ⟨⟨⟨hbyte, isOneLine_hexDigits 2 _⟩, hposition⟩, isOneLine_toString _⟩
  · have hbytes : IsOneLine "bytes in position ".toList := by decide +kernel
    have hdash : IsOneLine "-".toList := by decide +kernel
    simp only [String.toList_append, isOneLine_append]
    exact ⟨⟨⟨hbytes, isOneLine_toString _⟩, hdash⟩, isOneLine_toString _⟩

end SlideDeck.Text
