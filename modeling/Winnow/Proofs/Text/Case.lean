import Winnow.Proofs.Text.Trim
import Winnow.Text.Case

/-!
# Winnow.Proofs.Text.Case — small letters stay small

Every character of a lower-cased text is small (`isSmall_of_mem_lowerChars`), and small characters
are left as they are (`lowerAfter_of_isSmall`), although lower-casing looks at the neighbours of a
character and may put two characters for one. It comes from the table of capitals: no small letter
of one run is a capital of another (`Case.Run.avoids_of_mem`), and none lies where there are blanks,
marks of ASCII or the dotted capital I (`Case.Run.isClear_of_mem`).

What stands for a character in lower case is said once (`IsLowered`): it is not changed again, a
visible character does not become a blank, and no character but itself becomes a mark of ASCII.
-/

namespace Winnow.Text

/-! ## The table -/

namespace Case

namespace Run

variable {r q : Run} {n : Nat}

/-- The small letter of the last capital of the run. -/
def top (r : Run) : Nat := r.target + (r.last - r.first)

/-- Is no small letter of the run a capital of the other? The letters lie apart, or they take turns:
where every other code point is a capital, small letters stand between them. All pairs of runs are
tested, so the tests are those of numbers that are fastest. -/
def avoids (r q : Run) : Bool :=
  Nat.blt q.last r.target || Nat.blt r.top q.first ||
    ((Nat.beq r.first r.last || Nat.beq (r.step % 2) 0) && Nat.beq (q.step % 2) 0 &&
      Nat.beq ((r.target + q.first) % 2) 1)

/-- The blanks beyond ASCII, and the dotted capital I. -/
def gaps : List (Nat × Nat) := [
  (0x85, 0x85), (0xA0, 0xA0), (0x130, 0x130), (0x1680, 0x1680), (0x2000, 0x200A), (0x2028, 0x2029),
  (0x202F, 0x202F), (0x205F, 0x205F), (0x3000, 0x3000)]

/-- Are the small letters of the run characters, outside the gaps, and in ASCII letters? -/
def isClear (r : Run) : Bool :=
  (Nat.ble 0x80 r.target || Nat.ble 0x61 r.target && Nat.ble r.top 0x7A) &&
    (Nat.blt r.top 0xD800 || Nat.ble 0xE000 r.target && Nat.blt r.top 0x110000) &&
    gaps.all fun gap => Nat.blt r.top gap.1 || Nat.blt gap.2 r.target

/-- **No small letter is a capital.** -/
theorem avoids_of_mem (hr : r ∈ lowerRuns) (hq : q ∈ lowerRuns) : r.avoids q = true := by
  have hAll : (lowerRuns.all fun r => lowerRuns.all (avoids r)) = true := by decide +kernel
  exact List.all_eq_true.mp (List.all_eq_true.mp hAll r hr) q hq

theorem isClear_of_mem (hr : r ∈ lowerRuns) : r.isClear = true := by
  have hAll : lowerRuns.all isClear = true := by decide
  exact List.all_eq_true.mp hAll r hr

theorem covers_iff : r.covers n = true ↔
    r.first ≤ n ∧ n ≤ r.last ∧ (n - r.first) % r.step = 0 := by
  simp [covers, and_assoc]

/-- The small letters of a run lie between that of its first capital and that of its last. -/
theorem apply_bounds (h : r.covers n = true) : r.target ≤ r.apply n ∧ r.apply n ≤ r.top := by
  obtain ⟨hFirst, hLast, -⟩ := covers_iff.mp h
  rw [apply, top]
  omega

theorem not_covers_apply (hAvoids : r.avoids q = true) (h : r.covers n = true) :
    q.covers (r.apply n) = false := by
  obtain ⟨hLow, hHigh⟩ := apply_bounds h
  obtain ⟨hFirst, hLast, hStep⟩ := covers_iff.mp h
  rw [Bool.eq_false_iff, Ne, covers_iff]
  rintro ⟨hCoveredFirst, hCoveredLast, hCoveredStep⟩
  have hEven {step k : Nat} (hTwo : step % 2 = 0) (hk : k % step = 0) : k % 2 = 0 :=
    Nat.mod_eq_zero_of_dvd (Nat.dvd_trans (Nat.dvd_of_mod_eq_zero hTwo) (Nat.dvd_of_mod_eq_zero hk))
  simp only [avoids, Bool.or_eq_true, Bool.and_eq_true, Nat.blt_eq, Nat.beq_eq] at hAvoids
  rw [apply] at hLow hHigh hCoveredFirst hCoveredLast hCoveredStep
  rcases hAvoids with (hBelow | hAbove) | ⟨⟨hSteps, hOther⟩, hOdd⟩
  · omega
  · omega
  · -- the distance of the small letter from the other capitals is odd
    have hOffset : (n - r.first) % 2 = 0 := by
      rcases hSteps with hSingle | hTwo
      · omega
      · exact hEven hTwo hStep
    have hDistance := hEven hOther hCoveredStep
    omega

end Run

end Case

open Case (Run lowerRuns)

/-! ## Characters -/

variable {c d : Char}

theorem isUpper_iff : c.isUpper = true ↔ 65 ≤ c.toNat ∧ c.toNat ≤ 90 := by
  have hUpper : c.isUpper = true ↔ 65 ≤ c.val ∧ c.val ≤ 90 := decide_eq_true_iff
  exact hUpper.trans (and_congr UInt32.le_iff_toNat_le UInt32.le_iff_toNat_le)

theorem isLower_iff : c.isLower = true ↔ 97 ≤ c.toNat ∧ c.toNat ≤ 122 := by
  have hLower : c.isLower = true ↔ 97 ≤ c.val ∧ c.val ≤ 122 :=
    Bool.and_eq_true_iff.trans (and_congr decide_eq_true_iff decide_eq_true_iff)
  exact hLower.trans (and_congr UInt32.le_iff_toNat_le UInt32.le_iff_toNat_le)

theorem toNat_ofNat {n : Nat} (h : n.isValidChar) : (Char.ofNat n).toNat = n := by
  rw [Char.ofNat, dif_pos h]
  rfl

/-- A character that lower-casing changes is a capital of the table. -/
theorem exists_run_of_lowerChar_ne (h : lowerChar c ≠ c) :
    ∃ r ∈ lowerRuns, r.covers c.toNat = true ∧ lowerChar c = Char.ofNat (r.apply c.toNat) := by
  unfold lowerChar at h ⊢
  by_cases hAscii : c.toNat < 0x80
  · rw [if_pos hAscii] at h ⊢
    by_cases hUpper : c.isUpper = true
    · obtain ⟨hLow, hHigh⟩ := isUpper_iff.mp hUpper
      refine ⟨⟨0x41, 0x5A, 1, 0x61⟩, List.mem_cons_self, ?_, ?_⟩
      · rw [Run.covers_iff]
        exact ⟨hLow, hHigh, Nat.mod_one _⟩
      · have hCode : c.toNat + 32 = Run.apply ⟨0x41, 0x5A, 1, 0x61⟩ c.toNat := by
          simp only [Run.apply]
          omega
        rw [if_pos hUpper, hCode]
    · exact absurd (if_neg hUpper) h
  · rw [if_neg hAscii] at h ⊢
    cases hFound : lowerRuns.find? (·.covers c.toNat) with
    | none => simp [hFound] at h
    | some r =>
      have hCovers : r.covers c.toNat = true := by simpa using List.find?_some hFound
      exact ⟨r, List.mem_of_find?_eq_some hFound, hCovers, rfl⟩

/-- What lower-casing puts for a capital: a letter that it leaves as it is, outside the gaps. -/
theorem lowerChar_spec (h : lowerChar c ≠ c) :
    lowerChar (lowerChar c) = lowerChar c ∧
      (0x80 ≤ (lowerChar c).toNat ∨ (lowerChar c).isLower = true) ∧
      ∀ gap ∈ Run.gaps, (lowerChar c).toNat < gap.1 ∨ gap.2 < (lowerChar c).toNat := by
  obtain ⟨r, hr, hCovers, hLower⟩ := exists_run_of_lowerChar_ne h
  obtain ⟨hLow, hHigh⟩ := Run.apply_bounds hCovers
  have hClear := Run.isClear_of_mem hr
  simp only [Run.isClear, Bool.and_eq_true, Bool.or_eq_true, Nat.blt_eq, Nat.ble_eq,
    List.all_eq_true] at hClear
  obtain ⟨⟨hAscii, hValid⟩, hGaps⟩ := hClear
  have hCode : (lowerChar c).toNat = r.apply c.toNat := by
    have hChar : (r.apply c.toNat).isValidChar := by
      simp only [Nat.isValidChar]
      omega
    rw [hLower, toNat_ofNat hChar]
  refine ⟨?_, ?_, fun gap hGap => ?_⟩
  · -- no run begins where another one leads, so a second step finds none
    have hNone : lowerRuns.find? (·.covers (lowerChar c).toNat) = none := by
      rw [List.find?_eq_none]
      intro q hq
      rw [hCode, Run.not_covers_apply (Run.avoids_of_mem hr hq) hCovers]
      exact Bool.false_ne_true
    have hUpper : (lowerChar c).isUpper = true → False := by
      intro hUpper
      have := isUpper_iff.mp hUpper
      omega
    rw [lowerChar, hNone, if_neg hUpper, ite_self]
  · rw [isLower_iff, hCode]
    omega
  · rw [hCode]
    have := hGaps gap hGap
    omega

/-- Blanks beyond ASCII lie in the gaps, and those of ASCII are no letters. -/
theorem isBlank_lowerChar (h : lowerChar c ≠ c) : isBlank (lowerChar c) = false := by
  obtain ⟨-, hLetter, hGaps⟩ := lowerChar_spec h
  simp only [Run.gaps, List.forall_mem_cons] at hGaps
  rw [isLower_iff] at hLetter
  simp only [isBlank, Bool.or_eq_false_iff, Bool.and_eq_false_iff, decide_eq_false_iff_not,
    beq_eq_false_iff_ne]
  omega

/-- Does lower-casing leave the character as it is, wherever it stands? It is no capital of the
table, nor one of the two whose small letter depends on its place or is two characters. -/
structure IsSmall (c : Char) : Prop where
  lowerChar_eq : lowerChar c = c
  ne_sigma : c ≠ 'Σ'
  ne_dotted : c ≠ 'İ'

/-- What may stand for a character in lower case: it is not changed again, a visible character stays
visible, and a mark or a digit of ASCII stands for itself only. -/
structure IsLowered (c d : Char) : Prop where
  small : IsSmall d
  visible : isBlank c = false → isBlank d = false
  mark : d.toNat < 0x80 → d.isLower = false → d = c

theorem isLowered_lowerChar (h : c ≠ 'İ') : IsLowered c (lowerChar c) := by
  have hSigma : lowerChar 'Σ' ≠ 'Σ' := by decide
  by_cases hSame : lowerChar c = c
  · rw [hSame]
    exact ⟨⟨hSame, fun hEq => hSigma (hEq ▸ hSame), h⟩, id, fun _ _ => rfl⟩
  · obtain ⟨hAgain, hLetter, hGaps⟩ := lowerChar_spec hSame
    refine ⟨⟨hAgain, fun hEq => hSigma (hEq ▸ hAgain), fun hEq => ?_⟩,
      fun _ => isBlank_lowerChar hSame, fun hAscii hNot => ?_⟩
    · have := hGaps (0x130, 0x130) (by decide)
      rw [hEq] at this
      exact absurd this (by decide)
    · rcases hLetter with hHigh | hLower
      · omega
      · exact absurd hLower (Bool.eq_false_iff.mp hNot)

/-- A character of ASCII is small unless it is one of its capitals. -/
theorem isSmall_of_ascii (hAscii : c.toNat < 0x80) (hUpper : c.isUpper = false) : IsSmall c := by
  refine ⟨?_, ?_, ?_⟩
  · rw [lowerChar, if_pos hAscii, hUpper, if_neg Bool.false_ne_true]
  · rintro rfl
    exact absurd hAscii (by decide)
  · rintro rfl
    exact absurd hAscii (by decide)

/-- A small character is no capital of ASCII. -/
theorem isUpper_of_isSmall (h : IsSmall c) : c.isUpper = false := by
  rw [Bool.eq_false_iff]
  intro hUpper
  obtain ⟨hLow, hHigh⟩ := isUpper_iff.mp hUpper
  have hLower : lowerChar c = Char.ofNat (c.toNat + 32) := by
    rw [lowerChar, if_pos (by omega), if_pos hUpper]
  have hChar : (c.toNat + 32).isValidChar := by
    simp only [Nat.isValidChar]
    omega
  have hCode := toNat_ofNat hChar
  rw [← hLower, h.lowerChar_eq] at hCode
  omega

/-! ## Texts -/

variable {before cs rest : List Char}

/-- **One step.** Characters stand for the first one, at least one of them, and the rest is
lower-cased after it. -/
theorem exists_lowerAfter_cons (before : List Char) (c : Char) (rest : List Char) :
    ∃ here, here ≠ [] ∧ (∀ d ∈ here, IsLowered c d) ∧
      lowerAfter before (c :: rest) = here ++ lowerAfter (c :: before) rest := by
  rw [lowerAfter]
  refine ⟨_, ?_, ?_, rfl⟩
  · repeat' split
    all_goals exact List.cons_ne_nil _ _
  · -- two capitals stand for something else than the table has: a sigma and a dotted I
    by_cases hSigma : c = 'Σ'
    · subst hSigma
      have hFinal : IsLowered 'Σ' 'ς' :=
        ⟨⟨by decide, by decide, by decide⟩, by decide, by decide⟩
      have hInner : IsLowered 'Σ' 'σ' :=
        ⟨⟨by decide, by decide, by decide⟩, by decide, by decide⟩
      rw [if_pos (beq_self_eq_true _)]
      split
      · exact List.forall_mem_singleton.mpr hFinal
      · exact List.forall_mem_singleton.mpr hInner
    · rw [if_neg (by simpa using hSigma)]
      by_cases hDotted : c = 'İ'
      · subst hDotted
        have hLetter : IsLowered 'İ' 'i' :=
          ⟨⟨by decide, by decide, by decide⟩, by decide, by decide⟩
        have hDot : IsLowered 'İ' (Char.ofNat 0x307) :=
          ⟨⟨by decide, by decide, by decide⟩, by decide, by decide⟩
        rw [if_pos (beq_self_eq_true _)]
        exact List.forall_mem_cons.mpr ⟨hLetter, List.forall_mem_singleton.mpr hDot⟩
      · rw [if_neg (by simpa using hDotted)]
        exact List.forall_mem_singleton.mpr (isLowered_lowerChar hDotted)

theorem exists_of_mem_lowerAfter (h : d ∈ lowerAfter before cs) : ∃ c ∈ cs, IsLowered c d := by
  induction cs generalizing before with
  | nil => cases h
  | cons c cs ih =>
    obtain ⟨here, -, hHere, hLower⟩ := exists_lowerAfter_cons before c cs
    rw [hLower, List.mem_append] at h
    rcases h with h | h
    · exact ⟨c, List.mem_cons_self, hHere d h⟩
    · obtain ⟨c', hMem, hd⟩ := ih h
      exact ⟨c', List.mem_cons_of_mem c hMem, hd⟩

/-- Without the two special capitals, each character is lower-cased by itself. -/
theorem lowerAfter_eq_map (h : ∀ c ∈ cs, c ≠ 'Σ' ∧ c ≠ 'İ') :
    lowerAfter before cs = cs.map lowerChar := by
  induction cs generalizing before with
  | nil => rfl
  | cons c cs ih =>
    obtain ⟨⟨hSigma, hDotted⟩, hRest⟩ := List.forall_mem_cons.mp h
    rw [lowerAfter, if_neg (by simpa using hSigma), if_neg (by simpa using hDotted), ih hRest,
      List.singleton_append, List.map_cons]

/-- Small characters are left as they are. -/
theorem lowerAfter_of_isSmall (h : ∀ c ∈ cs, IsSmall c) : lowerAfter before cs = cs := by
  rw [lowerAfter_eq_map fun c hMem => ⟨(h c hMem).ne_sigma, (h c hMem).ne_dotted⟩]
  exact (List.map_congr_left fun c hMem => (h c hMem).lowerChar_eq).trans (List.map_id' cs)

theorem isSmall_of_mem_lowerChars (h : d ∈ lowerChars cs) : IsSmall d := by
  obtain ⟨c, -, hLowered⟩ := exists_of_mem_lowerAfter h
  exact hLowered.small

theorem lowerAfter_eq_nil_iff : lowerAfter before cs = [] ↔ cs = [] := by
  cases cs with
  | nil => simp [lowerAfter]
  | cons c cs =>
    obtain ⟨here, hSome, -, hLower⟩ := exists_lowerAfter_cons before c cs
    simp [hLower, hSome]

theorem isBlank_of_mem_getLast?_lowerAfter (before : List Char)
    (hLast : ∀ c ∈ cs.getLast?, isBlank c = false) :
    ∀ d ∈ (lowerAfter before cs).getLast?, isBlank d = false := by
  induction cs generalizing before with
  | nil => exact hLast
  | cons c cs ih =>
    obtain ⟨here, -, hHere, hLower⟩ := exists_lowerAfter_cons before c cs
    intro d hd
    rw [hLower] at hd
    cases cs with
    | nil =>
      rw [lowerAfter, List.append_nil] at hd
      exact (hHere d (List.mem_of_getLast? hd)).visible (hLast c rfl)
    | cons next cs =>
      have hMore : lowerAfter (c :: before) (next :: cs) ≠ [] := fun hNil =>
        List.cons_ne_nil next cs (lowerAfter_eq_nil_iff.mp hNil)
      rw [List.getLast?_append_of_ne_nil _ hMore] at hd
      exact ih (c :: before) (by simpa using hLast) d hd

/-- Lower-casing brings no blank to the ends of a text. -/
theorem isTrimmed_lowerChars (h : IsTrimmed cs) : IsTrimmed (lowerChars cs) := by
  refine ⟨?_, isBlank_of_mem_getLast?_lowerAfter [] h.last⟩
  cases cs with
  | nil => exact h.head
  | cons c cs =>
    obtain ⟨here, hSome, hHere, hLower⟩ := exists_lowerAfter_cons [] c cs
    obtain ⟨d, more, rfl⟩ := List.exists_cons_of_ne_nil hSome
    rw [lowerChars, hLower]
    intro d' hFirst
    obtain rfl : d = d' := by simpa using hFirst
    exact (hHere d List.mem_cons_self).visible (h.head c rfl)

end Winnow.Text
