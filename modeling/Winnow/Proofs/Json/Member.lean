import Winnow.Json.Path

/-!
# Winnow.Proofs.Json.Member — plain keys and what is under them

A key of letters, digits and underscores is a path of one step, and leads to the first member with
this label (`Json.lookup_of_isPlain`). Labels are compared in their escaped form; a plain label is
its own escaped form and that of no other label (`Json.escaped_eq_iff`).
-/

namespace Winnow.Json

/-! ## Plain keys -/

/-- Does the character occur in plain keys? -/
def isPlainChar (c : Char) : Bool := c.isAlphanum || c == '_'

/-- A plain key: ASCII letters, digits and underscores, the first one a letter. -/
def IsPlainKey (key : String) : Prop :=
  ∃ c cs, key.toList = c :: cs ∧ c.isAlpha = true ∧ ∀ x ∈ cs, isPlainChar x = true

theorem IsPlainKey.isPlainChar {key : String} (h : IsPlainKey key) :
    ∀ c ∈ key.toList, Json.isPlainChar c = true := by
  obtain ⟨c, cs, hkey, hc, hcs⟩ := h
  rw [hkey]
  intro x hx
  rcases List.mem_cons.mp hx with rfl | hx
  · simp [Json.isPlainChar, Char.isAlphanum, hc]
  · exact hcs x hx

/-- Plain characters are visible, and none of the marks of paths and escapes. -/
theorem isPlainChar_facts {c : Char} (h : isPlainChar c = true) :
    c ∉ ['\x00', '.', '[', '\x22', '\\'] ∧ 32 ≤ c.toNat ∧ c.toNat < 127 := by
  constructor
  · intro hmem
    simp only [List.mem_cons, List.not_mem_nil, or_false] at hmem
    rcases hmem with rfl | rfl | rfl | rfl | rfl <;> exact absurd h (by decide)
  · simp only [isPlainChar, Char.isAlphanum] at h
    delta Char.isAlpha Char.isUpper Char.isLower Char.isDigit at h
    simp only [Bool.or_eq_true, Bool.and_eq_true, decide_eq_true_eq, beq_iff_eq, ge_iff_le,
      UInt32.le_iff_toNat_le] at h
    rcases h with ((h | h) | h) | rfl
    · exact ⟨Nat.le_trans (by decide) h.1, Nat.lt_of_le_of_lt h.2 (by decide)⟩
    · exact ⟨Nat.le_trans (by decide) h.1, Nat.lt_of_le_of_lt h.2 (by decide)⟩
    · exact ⟨Nat.le_trans (by decide) h.1, Nat.lt_of_le_of_lt h.2 (by decide)⟩
    · decide

/-! ## Escapes -/

/-- A character is its own escaped form, or has a backslash in it. -/
theorem escapedChar_cases (c : Char) : escapedChar c = [c] ∨ '\\' ∈ escapedChar c := by
  unfold escapedChar escapedUnit
  dsimp only
  repeat' split
  all_goals first | exact .inl rfl | exact .inr (by simp)

theorem escaped_of_isPlainChar {cs : List Char} (h : ∀ c ∈ cs, isPlainChar c = true) :
    escaped cs = cs := by
  induction cs with
  | nil => rfl
  | cons c cs ih =>
    obtain ⟨hc, hcs⟩ := List.forall_mem_cons.mp h
    obtain ⟨hMarks, hLow, hHigh⟩ := isPlainChar_facts hc
    have hHere : escapedChar c = [c] := by
      simp only [List.mem_cons, List.not_mem_nil, or_false, not_or] at hMarks
      have hNewline : c ≠ '\n' ∧ c ≠ '\r' ∧ c ≠ '\t' := by
        refine ⟨?_, ?_, ?_⟩ <;> rintro rfl <;> exact absurd hLow (by decide)
      simp [escapedChar, hMarks, hNewline, hLow, hHigh, show c.toNat ≠ 8 by omega,
        show c.toNat ≠ 12 by omega]
    rw [escaped, List.flatMap_cons, hHere]
    exact congrArg (c :: ·) (ih hcs)

/-- Without a backslash in it, an escaped form is the text itself. -/
theorem escaped_eq_self {cs : List Char} (h : '\\' ∉ escaped cs) : escaped cs = cs := by
  induction cs with
  | nil => rfl
  | cons c cs ih =>
    rw [escaped, List.flatMap_cons, List.mem_append, not_or] at h
    have hHere : escapedChar c = [c] := (escapedChar_cases c).resolve_right h.1
    rw [escaped, List.flatMap_cons, hHere]
    exact congrArg (c :: ·) (ih h.2)

/-- A plain label is the escaped form of itself and of nothing else. -/
theorem escaped_eq_iff {label key : String} (h : IsPlainKey key) :
    escaped label.toList = key.toList ↔ label = key := by
  constructor
  · intro he
    have hPlain : '\\' ∉ escaped label.toList := by
      rw [he]
      intro hmem
      exact (isPlainChar_facts (h.isPlainChar _ hmem)).1 (by simp)
    rw [escaped_eq_self hPlain] at he
    exact String.toList_inj.mp he
  · rintro rfl
    exact escaped_of_isPlainChar h.isPlainChar

/-! ## Members -/

/-- The first member of an object with a label. -/
def member? : Json → String → Option Json
  | object members, key => (members.find? fun m => m.1 == key).map Prod.snd
  | _, _ => none

/-- A plain key is a path of one step. -/
theorem read_of_isPlain {key : String} (h : IsPlainKey key) :
    Path.read ('.' :: key.toList.takeWhile (· != '\x00')) = [.member key.toList] := by
  have hMarks : ∀ c ∈ key.toList, c ∉ ['\x00', '.', '[', '\x22', '\\'] := fun c hc =>
    (isPlainChar_facts (h.isPlainChar c hc)).1
  have hKeep : ∀ p : Char → Bool, (∀ c ∈ key.toList, p c = true) →
      key.toList.takeWhile p = key.toList := fun p hp => by
    have hKept : (key.toList ++ []).takeWhile p = key.toList ++ [].takeWhile p :=
      List.takeWhile_append_of_pos hp
    simpa using hKept
  -- no mark of a path is in the key, so the label ends where the key does
  have hWhole : key.toList.takeWhile (· != '\x00') = key.toList := by
    refine hKeep _ fun c hc => ?_
    have := hMarks c hc
    simp_all
  have hLabel : key.toList.takeWhile (fun c => c != '.' && c != '[') = key.toList := by
    refine hKeep _ fun c hc => ?_
    have := hMarks c hc
    simp_all
  obtain ⟨c, cs, hkey, -, -⟩ := h
  rw [hWhole]
  rw [hkey] at hMarks hLabel ⊢
  have hNoQuote : c ≠ '\x22' := by
    have := hMarks c List.mem_cons_self
    simp_all
  have hFirst : Path.firstStep ('.' :: c :: cs) = (.member (c :: cs), []) := by
    simp only [Path.firstStep, Path.labelStep]
    split
    · next more heq => exact absurd (List.cons.inj heq).1 hNoQuote
    · simp [hLabel]
  simp [Path.read, Path.readSteps, hFirst, Path.Step.isBad]

/-- **What a plain key finds.** It leads to the first member with this label, and nowhere if the
document is no object or has none. -/
theorem lookup_of_isPlain {key : String} (h : IsPlainKey key) (doc : Json) :
    doc.lookup key = .ofOption (doc.member? key) := by
  have hSame : ∀ label : String, (escaped label.toList == key.toList) = (label == key) := by
    intro label
    rw [Bool.eq_iff_iff, beq_iff_eq, beq_iff_eq, escaped_eq_iff h]
  rw [lookup, read_of_isPlain h]
  cases doc with
  | object members =>
    simp only [follow, step, hSame, member?]
    cases (members.find? fun m => m.1 == key).map Prod.snd <;> rfl
  | _ => rfl

end Winnow.Json
