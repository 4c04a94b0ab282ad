import ExpectedDamage.Proofs.Text.Spelling
/-!
# Small letters

A small character is its own lower case. The lower case of a text has none but small characters
(`isSmall_of_mem_lower`), so that lowering it once more changes nothing (`lower_lower`), and a
text is its own lower case exactly if each of its characters is (`lower_eq_self_iff`). What
precedes a character never matters for this: only the capital sigma is lowered differently at the
end of a word, and both of its lower cases are small.
-/

namespace ExpectedDamage.Text

namespace CaseRange

def covers (r : CaseRange) (code : Nat) : Bool :=
  Nat.ble r.first code && (Nat.ble code r.last && (code - r.first) % r.step == 0)

theorem covers_iff {r : CaseRange} {code : Nat} : r.covers code = true ↔
    r.first ≤ code ∧ code ≤ r.last ∧ (code - r.first) % r.step = 0 := by
  rw [covers, Bool.and_eq_true, Bool.and_eq_true, Nat.ble_eq, Nat.ble_eq, beq_iff_eq]

def image (r : CaseRange) (code : Nat) : Nat := ((code : Int) + r.shift).toNat

/-- No lower case of a letter of the range is in the other range. The codes are looked at one by
one only if the first and the last of them leave it open. -/
def apart (r other : CaseRange) : Bool :=
  Nat.blt other.last (r.image r.first) || (Nat.blt (r.image r.last) other.first ||
    (List.range ((r.last - r.first) / r.step + 1)).all fun i =>
      !other.covers (r.image (r.first + i * r.step)))

theorem image_mono (r : CaseRange) {code code' : Nat} (h : code ≤ code') :
    r.image code ≤ r.image code' := by
  rw [image, image]
  omega

theorem covers_image_of_apart {r other : CaseRange} (h : r.apart other = true) {code : Nat}
    (hcode : r.covers code = true) : other.covers (r.image code) = false := by
  obtain ⟨hfirst, hlast, hstep⟩ := covers_iff.1 hcode
  have hlow := r.image_mono hfirst
  have hhigh := r.image_mono hlast
  rw [apart, Bool.or_eq_true, Bool.or_eq_true, Nat.blt_eq, Nat.blt_eq] at h
  rcases h with habove | hbelow | hall
  · refine Bool.eq_false_iff.2 fun hother => ?_
    have := (covers_iff.1 hother).2.1
    omega
  · refine Bool.eq_false_iff.2 fun hother => ?_
    have := (covers_iff.1 hother).1
    omega
  · have hindex : (code - r.first) / r.step < (r.last - r.first) / r.step + 1 :=
      Nat.lt_succ_of_le (Nat.div_le_div_right (Nat.sub_le_sub_right hlast _))
    have hcode' : r.first + (code - r.first) / r.step * r.step = code := by
      rw [Nat.div_mul_cancel (Nat.dvd_of_mod_eq_zero hstep), Nat.add_sub_cancel' hfirst]
    have hother := List.all_eq_true.1 hall _ (List.mem_range.2 hindex)
    rwa [hcode', Bool.not_eq_true'] at hother

end CaseRange

/-- The characters that are not their own lower case: the capitals of ASCII, the dotted capital I,
which is in none of the ranges, and the letters of the ranges. -/
def large : List CaseRange := ⟨0x41, 0x5A, 1, 32⟩ :: ⟨0x130, 0x130, 1, 0⟩ :: capitals

/-- A character that is its own lower case. -/
def IsSmall (c : Char) : Prop := lower [c] = [c]

instance (c : Char) : Decidable (IsSmall c) := inferInstanceAs (Decidable (_ = _))

theorem lowerChar_of_beyond {c : Char} (hc : ¬ c.toNat < 128) :
    lowerChar c = match capitals.find? fun r => r.covers c.toNat with
      | some r => Char.ofNat (r.image c.toNat)
      | none => c := by
  have hcovers : (fun r : CaseRange => r.covers c.toNat) = fun r =>
      r.first ≤ c.toNat && c.toNat ≤ r.last && (c.toNat - r.first) % r.step == 0 := by
    funext r
    rw [Bool.eq_iff_iff, CaseRange.covers_iff]
    simp only [Bool.and_eq_true, decide_eq_true_eq, beq_iff_eq, and_assoc]
  rw [lowerChar, if_neg hc, hcovers]
  rfl

theorem isSmall_iff {c : Char} : IsSmall c ↔ c ≠ '\u0130' ∧ c ≠ '\u03A3' ∧ lowerChar c = c := by
  by_cases hi : c = '\u0130'
  · exact iff_of_false (by rw [hi]; decide) fun h => h.1 hi
  by_cases hs : c = '\u03A3'
  · exact iff_of_false (by rw [hs]; decide) fun h => h.2.1 hs
  rw [IsSmall, lower, lowerFrom_cons hi hs, lowerFrom, List.cons_eq_cons]
  exact ⟨fun h => ⟨hi, hs, h.1⟩, fun h => ⟨h.2.2, rfl⟩⟩

theorem isSmall_of_covers {c : Char} (h : ∀ r ∈ large, r.covers c.toNat = false) :
    IsSmall c := by
  obtain ⟨hascii, hdotted, hcapitals⟩ : _ ∧ _ ∧ _ := by
    rw [large, List.forall_mem_cons, List.forall_mem_cons] at h
    exact h
  by_cases hc : c.toNat < 128
  · exact forall_ascii (P := fun c =>
      CaseRange.covers ⟨0x41, 0x5A, 1, 32⟩ c.toNat = false → IsSmall c) (by decide +kernel) hc hascii
  · refine isSmall_iff.2 ⟨?_, ?_, ?_⟩
    · rintro rfl
      exact absurd hdotted (by decide)
    · rintro rfl
      have hcovered : (capitals.any fun r => r.covers '\u03A3'.toNat) = true := by decide +kernel
      obtain ⟨r, hr, hrange⟩ := List.any_eq_true.1 hcovered
      exact absurd hrange (Bool.eq_false_iff.1 (hcapitals r hr))
    · have hnone : (capitals.find? fun r => r.covers c.toNat) = none :=
        List.find?_eq_none.2 fun r hr => Bool.eq_false_iff.1 (hcapitals r hr)
      rw [lowerChar_of_beyond hc, hnone]

theorem isSmall_ofNat {code : Nat} (h : ∀ r ∈ large, r.covers code = false) :
    IsSmall (Char.ofNat code) := by
  by_cases hvalid : code.isValidChar
  · have hcode : (Char.ofNat code).toNat = code := by
      rw [Char.ofNat, dif_pos hvalid]
      rfl
    exact isSmall_of_covers (hcode.symm ▸ h)
  · have hzero : Char.ofNat code = '\x00' := dif_neg hvalid
    rw [hzero]
    decide

/-- No lower case of a capital letter is a large character. -/
theorem capitals_apart {r : CaseRange} (h : r ∈ capitals) {other : CaseRange}
    (hother : other ∈ large) : r.apart other = true := by
  have hall : (capitals.all fun r => large.all fun other => r.apart other) = true := by
    decide +kernel
  exact List.all_eq_true.1 (List.all_eq_true.1 hall r h) other hother

/-- The dotted capital I apart, lowering a character leaves a small one. -/
theorem isSmall_lowerChar {c : Char} (h : c ≠ '\u0130') : IsSmall (lowerChar c) := by
  by_cases hc : c.toNat < 128
  · exact forall_ascii (P := fun c => IsSmall (lowerChar c)) (by decide +kernel) hc
  rw [lowerChar_of_beyond hc]
  split
  · next r hr =>
      have hcovers : r.covers c.toNat = true :=
        List.find?_some (p := fun r : CaseRange => r.covers c.toNat) hr
      refine isSmall_ofNat fun other hother => ?_
      exact CaseRange.covers_image_of_apart
        (capitals_apart (List.mem_of_find?_eq_some hr) hother) hcovers
  · next hnone =>
      refine isSmall_of_covers fun other hother => ?_
      rw [large, List.mem_cons, List.mem_cons] at hother
      refine Bool.eq_false_iff.2 fun hcovers => ?_
      rcases hother with rfl | rfl | hother
      · have hlast : c.toNat ≤ 0x5A := (CaseRange.covers_iff.1 hcovers).2.1
        omega
      · obtain ⟨hfirst, hlast, -⟩ := CaseRange.covers_iff.1 hcovers
        exact h (Char.toNat_inj.1 (Nat.le_antisymm hlast hfirst))
      · exact List.find?_eq_none.1 hnone other hother hcovers

theorem isSmall_of_mem_lowerFrom {text : List Char} {before : Bool} {d : Char}
    (h : d ∈ lowerFrom before text) : IsSmall d := by
  induction text generalizing before with
  | nil => exact nomatch h
  | cons c text ih =>
      rw [lowerFrom] at h
      rcases List.mem_append.1 h with himage | hrest
      · split at himage
        · rw [List.mem_cons, List.mem_singleton] at himage
          rcases himage with rfl | rfl
          · decide +kernel
          · decide +kernel
        · next hi =>
            split at himage
            · have hall : ∀ final : Bool, IsSmall (if final then '\u03C2' else '\u03C3') := by
                decide +kernel
              rw [List.mem_singleton.1 himage]
              exact hall _
            · rw [List.mem_singleton.1 himage]
              exact isSmall_lowerChar hi
      · exact ih hrest

theorem isSmall_of_mem_lower {text : List Char} {d : Char} (h : d ∈ lower text) : IsSmall d :=
  isSmall_of_mem_lowerFrom h

theorem lowerFrom_of_isSmall {text : List Char} (h : ∀ c ∈ text, IsSmall c) (before : Bool) :
    lowerFrom before text = text := by
  induction text generalizing before with
  | nil => rfl
  | cons c text ih =>
      obtain ⟨hc, htext⟩ := List.forall_mem_cons.1 h
      obtain ⟨hi, hs, hsame⟩ := isSmall_iff.1 hc
      rw [lowerFrom_cons hi hs, hsame, ih htext]

theorem lower_eq_self_iff {text : List Char} : lower text = text ↔ ∀ c ∈ text, IsSmall c :=
  ⟨fun h _ hc => isSmall_of_mem_lower (h.symm ▸ hc), fun h => lowerFrom_of_isSmall h false⟩

theorem lower_lower (text : List Char) : lower (lower text) = lower text :=
  lower_eq_self_iff.2 fun _ => isSmall_of_mem_lower

end ExpectedDamage.Text
