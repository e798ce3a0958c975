import SlideDeck.Drawing.Presentation
import SlideDeck.Proofs.Drawing.LayoutChoice
import SlideDeck.Proofs.Files.Following

/-!
What a gallery comes to at an address. A picture that the reader can draw stands there, or there is
none and a reason why; or the drawing cannot go on, since the files cannot be asked for the address
or since the reader breaks off.
-/

namespace SlideDeck.Drawing

open Layout Files

/-- An address that is looked up among the files. -/
def IsLocal (href : String) : Prop := ¬"://".toList <:+: href.toList ∧ '\x00' ∉ href.toList

namespace Gallery

/-- Where an address points to. -/
def path (g : Gallery) (href : String) : Path :=
  match g.base with
  | some base => base.join (Path.ofString href)
  | none => Path.ofString href

/-- A picture that can be drawn stands where the address points to. -/
def Holds (g : Gallery) (href : String) (octets : List UInt8) : Prop :=
  IsLocal href ∧ g.files.read (g.path href) = .ok (.octets octets) ∧ g.reader octets = .drawable

/-- Why there is no picture in a box. -/
inductive Lacks (g : Gallery) (b : Box Float) (href : String) : PictureFault → Prop where
  | foreign (h : ¬IsLocal href) : Lacks g b href .notReadable
  | noFile (hlocal : IsLocal href) (h : g.files.isFile (g.path href) = .ok false) :
    Lacks g b href .notReadable
  | undefinedBox (hlocal : IsLocal href) (hfile : g.files.isFile (g.path href) = .ok true)
    (h : boxOfInches b = .error .undefined) : Lacks g b href .undefinedBox
  | unread {box : Box Int} {f : Fault} (hlocal : IsLocal href)
    (hfile : g.files.isFile (g.path href) = .ok true) (hbox : boxOfInches b = .ok box)
    (h : g.files.read (g.path href) = .error f) : Lacks g b href (.file f)
  | refused {box : Box Int} {octets : List UInt8} {reason : String} (hlocal : IsLocal href)
    (hbox : boxOfInches b = .ok box) (hread : g.files.read (g.path href) = .ok (.octets octets))
    (h : g.reader octets = .refused reason) : Lacks g b href (.refused reason)
  | archive {box : Box Int} {file : Package} (hlocal : IsLocal href)
    (hbox : boxOfInches b = .ok box) (hread : g.files.read (g.path href) = .ok file)
    (h : ∀ octets, file ≠ .octets octets) : Lacks g b href (.refused PictureFormat.unidentified)

/-- What ends the drawing. -/
inductive Breaks (g : Gallery) (href : String) : DrawError → Prop where
  | rejected {k : FaultKind} (hlocal : IsLocal href) (h : g.files.Rejects (g.path href) k) :
    Breaks g href (.file ⟨k, g.path href⟩)
  | reader {octets : List UInt8} {message : String} (hlocal : IsLocal href)
    (hread : g.files.read (g.path href) = .ok (.octets octets))
    (h : g.reader octets = .broken message) : Breaks g href (.picture message)

end Gallery

variable {g : Gallery} {b : Box Float} {box : Box Int} {href : String}

theorem pictureFile?_of_not_isLocal (h : ¬IsLocal href) : pictureFile? g href = .ok none := by
  have hforeign : (occursIn "://".toList href.toList || href.toList.contains '\x00') = true := by
    rw [Bool.or_eq_true, occursIn_iff, List.contains_iff_mem]
    exact Decidable.or_iff_not_not_and_not.mpr h
  rw [pictureFile?, hforeign]
  rfl

theorem pictureFile?_of_isLocal (h : IsLocal href) :
    pictureFile? g href =
      (g.files.isFile (g.path href)).map fun found =>
        if found then some (g.path href) else none := by
  have hlocal : (occursIn "://".toList href.toList || href.toList.contains '\x00') = false := by
    rw [Bool.or_eq_false_iff, ← Bool.not_eq_true, ← Bool.not_eq_true, occursIn_iff,
      List.contains_iff_mem]
    exact h
  rw [pictureFile?, hlocal]
  change (g.files.isFile (g.path href)).bind _ = _
  cases g.files.isFile (g.path href) <;> rfl

theorem pictureFigure_of_none (h : pictureFile? g href = .ok none) :
    pictureFigure g b href = .ok (.error .notReadable) := by
  rw [pictureFigure, h]
  rfl

theorem pictureFigure_of_error {f : Fault} (h : pictureFile? g href = .error f) :
    pictureFigure g b href = .error (.file f) := by
  rw [pictureFigure, h]
  rfl

theorem pictureFigure_of_isFile (hlocal : IsLocal href)
    (h : g.files.isFile (g.path href) = .ok true) :
    pictureFigure g b href =
      match boxOfInches b with
      | .error .undefined => .ok (.error .undefinedBox)
      | .error e => .error (.length e)
      | .ok box => (pictureOctets g (g.path href)).map fun r => r.map (.picture box) := by
  have hfile : pictureFile? g href = .ok (some (g.path href)) := by
    rw [pictureFile?_of_isLocal hlocal, h]
    rfl
  rw [pictureFigure, hfile]
  cases boxOfInches b with
  | error e => cases e <;> rfl
  | ok box =>
    change (pictureOctets g (g.path href)).bind _ = (pictureOctets g (g.path href)).map _
    cases pictureOctets g (g.path href) <;> rfl

theorem pictureFigure_of_read {file : Package} (hbox : boxOfInches b = .ok box)
    (hlocal : IsLocal href) (hread : g.files.read (g.path href) = .ok file) :
    pictureFigure g b href =
      (pictureOctets g (g.path href)).map fun r => r.map (.picture box) := by
  rw [pictureFigure_of_isFile hlocal (FileTree.isFile_of_read hread), hbox]

theorem pictureFigure_of_holds {octets : List UInt8} (hbox : boxOfInches b = .ok box)
    (h : g.Holds href octets) : pictureFigure g b href = .ok (.ok (.picture box octets)) := by
  obtain ⟨hlocal, hread, hreader⟩ := h
  rw [pictureFigure_of_read hbox hlocal hread, pictureOctets, hread]
  dsimp only
  rw [hreader]
  rfl

theorem pictureFigure_of_lacks {fault : PictureFault} (h : g.Lacks b href fault) :
    pictureFigure g b href = .ok (.error fault) := by
  cases h with
  | foreign h => exact pictureFigure_of_none (pictureFile?_of_not_isLocal h)
  | noFile hlocal h =>
    apply pictureFigure_of_none
    rw [pictureFile?_of_isLocal hlocal, h]
    rfl
  | undefinedBox hlocal hfile h => rw [pictureFigure_of_isFile hlocal hfile, h]
  | unread hlocal hfile hbox h =>
    rw [pictureFigure_of_isFile hlocal hfile, hbox]
    dsimp only
    rw [pictureOctets, h]
    rfl
  | refused hlocal hbox hread h =>
    rw [pictureFigure_of_read hbox hlocal hread, pictureOctets, hread]
    dsimp only
    rw [h]
    rfl
  | @archive _ file hlocal hbox hread h =>
    rw [pictureFigure_of_read hbox hlocal hread, pictureOctets, hread]
    cases file with
    | octets s => exact absurd rfl (h s)
    | archive members => rfl
    | presentation t slides => rfl

theorem pictureFigure_of_breaks {e : DrawError} (hbox : boxOfInches b = .ok box)
    (h : g.Breaks href e) : pictureFigure g b href = .error e := by
  cases h with
  | rejected hlocal h =>
    apply pictureFigure_of_error
    rw [pictureFile?_of_isLocal hlocal, (FileTree.isFile_eq_error_iff _ _ _).mpr ⟨_, h, rfl⟩]
    rfl
  | reader hlocal hread h =>
    rw [pictureFigure_of_read hbox hlocal hread, pictureOctets, hread]
    dsimp only
    rw [h]
    rfl

/-- What a picture comes to has a reason at its address, or in its box. -/
theorem pictureFigure_cases (g : Gallery) (b : Box Float) (href : String) :
    (∃ box octets, boxOfInches b = .ok box ∧ g.Holds href octets ∧
      pictureFigure g b href = .ok (.ok (.picture box octets))) ∨
    (∃ fault, g.Lacks b href fault ∧ pictureFigure g b href = .ok (.error fault)) ∨
    ∃ e, (g.Breaks href e ∨ ∃ l, boxOfInches b = .error l ∧ e = .length l) ∧
      pictureFigure g b href = .error e := by
  by_cases hlocal : IsLocal href
  · cases hfound : g.files.isFile (g.path href) with
    | error f =>
      obtain ⟨k, hk, rfl⟩ := (FileTree.isFile_eq_error_iff _ _ _).mp hfound
      have hfile : pictureFile? g href = .error ⟨k, g.path href⟩ := by
        rw [pictureFile?_of_isLocal hlocal, hfound]
        rfl
      exact .inr (.inr ⟨_, .inl (.rejected hlocal hk), pictureFigure_of_error hfile⟩)
    | ok found =>
      cases found with
      | false =>
        have h := Gallery.Lacks.noFile (b := b) hlocal hfound
        exact .inr (.inl ⟨_, h, pictureFigure_of_lacks h⟩)
      | true =>
        cases hbox : boxOfInches b with
        | error l =>
          by_cases hl : l = .undefined
          · have h := Gallery.Lacks.undefinedBox hlocal hfound (hl ▸ hbox)
            exact .inr (.inl ⟨_, h, pictureFigure_of_lacks h⟩)
          · refine .inr (.inr ⟨_, .inr ⟨l, rfl, rfl⟩, ?_⟩)
            rw [pictureFigure_of_isFile hlocal hfound, hbox]
            cases l <;> first | rfl | exact absurd rfl hl
        | ok box =>
          cases hread : g.files.read (g.path href) with
          | error f =>
            have h := Gallery.Lacks.unread hlocal hfound hbox hread
            exact .inr (.inl ⟨_, h, pictureFigure_of_lacks h⟩)
          | ok file =>
            by_cases hoctets : ∃ octets, file = .octets octets
            · obtain ⟨octets, rfl⟩ := hoctets
              cases hverdict : g.reader octets with
              | drawable =>
                have h : g.Holds href octets := ⟨hlocal, hread, hverdict⟩
                exact .inl ⟨box, octets, rfl, h, pictureFigure_of_holds hbox h⟩
              | refused reason =>
                have h := Gallery.Lacks.refused hlocal hbox hread hverdict
                exact .inr (.inl ⟨_, h, pictureFigure_of_lacks h⟩)
              | broken message =>
                have h := Gallery.Breaks.reader hlocal hread hverdict
                exact .inr (.inr ⟨_, .inl h, pictureFigure_of_breaks hbox h⟩)
            · have h := Gallery.Lacks.archive hlocal hbox hread fun octets ho =>
                hoctets ⟨octets, ho⟩
              exact .inr (.inl ⟨_, h, pictureFigure_of_lacks h⟩)
  · have h := Gallery.Lacks.foreign (g := g) (b := b) hlocal
    exact .inr (.inl ⟨_, h, pictureFigure_of_lacks h⟩)

theorem pictureFigure_eq_picture_iff (f : Figure) :
    pictureFigure g b href = .ok (.ok f) ↔
      ∃ box octets, boxOfInches b = .ok box ∧ g.Holds href octets ∧ f = .picture box octets := by
  constructor
  · intro h
    obtain ⟨box, octets, hbox, hh, hf⟩ | ⟨fault, -, hf⟩ | ⟨e, -, hf⟩ := pictureFigure_cases g b href
    · rw [h] at hf
      cases hf
      exact ⟨box, octets, hbox, hh, rfl⟩
    · cases h.symm.trans hf
    · cases h.symm.trans hf
  · rintro ⟨box, octets, hbox, hh, rfl⟩
    exact pictureFigure_of_holds hbox hh

theorem pictureFigure_eq_fault_iff (fault : PictureFault) :
    pictureFigure g b href = .ok (.error fault) ↔ g.Lacks b href fault := by
  refine ⟨fun h => ?_, pictureFigure_of_lacks⟩
  obtain ⟨box, octets, -, -, hf⟩ | ⟨fault', hl, hf⟩ | ⟨e, -, hf⟩ := pictureFigure_cases g b href
  · cases h.symm.trans hf
  · cases h.symm.trans hf
    exact hl
  · cases h.symm.trans hf

theorem pictureFigure_eq_error_iff (hbox : boxOfInches b = .ok box) (e : DrawError) :
    pictureFigure g b href = .error e ↔ g.Breaks href e := by
  refine ⟨fun h => ?_, pictureFigure_of_breaks hbox⟩
  obtain ⟨_, octets, -, -, hf⟩ | ⟨fault, -, hf⟩ | ⟨e', hb | ⟨l, hl, -⟩, hf⟩ :=
    pictureFigure_cases g b href
  · cases h.symm.trans hf
  · cases h.symm.trans hf
  · cases h.symm.trans hf
    exact hb
  · cases hbox.symm.trans hl

end SlideDeck.Drawing
