import Winnow.Store.Like
import Mathlib.Data.List.Infix
import Mathlib.Data.List.TakeWhile

/-!
# Winnow.Proofs.Store.Like — patterns that find a text anywhere

A text between two marks for any run is sought anywhere (`Like.anywhere`). A pattern that is put
together from two accepts the texts that can be cut in two (`Like.accepts_append_iff`), so such a
pattern accepts the texts with a part that the middle accepts (`Like.accepts_anywhere_iff`).

The middle may have marks in it, which keep their meaning. Each of them also stands for itself, so a
text is always found where it is held up to the case of ASCII letters (`Like.accepts_of_holds`). If
there are no marks, it is found there only (`Like.accepts_iff_holds`).
-/

namespace Winnow.Like

/-! ## Patterns in parts -/

theorem accepts_nil_iff {cs : List Char} : accepts [] cs = true ↔ cs = [] := List.isEmpty_iff

/-- A mark for any run passes over the begin of a text. -/
theorem accepts_run_iff {pattern cs : List Char} :
    accepts ('%' :: pattern) cs = true ↔ ∃ rest, rest <:+ cs ∧ accepts pattern rest = true := by
  simp only [accepts_run, List.any_eq_true, mem_suffixes_iff]

/-- Any other character of a pattern stands for one character. -/
theorem accepts_cons_iff {p : Char} (hRun : p ≠ '%') {pattern cs : List Char} :
    accepts (p :: pattern) cs = true ↔ ∃ c rest, cs = c :: rest ∧
      (p = '_' ∨ sameLetter p c = true) ∧ accepts pattern rest = true := by
  cases cs with
  | nil => simp [accepts_cons_nil hRun]
  | cons c cs => simp [accepts_cons_cons hRun]

/-- **A pattern in two parts** accepts the texts in two parts. -/
theorem accepts_append_iff {p q cs : List Char} :
    accepts (p ++ q) cs = true ↔
      ∃ us vs, us ++ vs = cs ∧ accepts p us = true ∧ accepts q vs = true := by
  induction p generalizing cs with
  | nil => simp [accepts_nil_iff]
  | cons c p ih =>
    rw [List.cons_append]
    by_cases hRun : c = '%'
    · subst hRun
      simp only [accepts_run_iff, ih]
      constructor
      · rintro ⟨rest, ⟨front, rfl⟩, us, vs, rfl, hp, hq⟩
        exact ⟨front ++ us, vs, List.append_assoc _ _ _, ⟨us, List.suffix_append _ _, hp⟩, hq⟩
      · rintro ⟨us, vs, rfl, ⟨rest, ⟨front, rfl⟩, hp⟩, hq⟩
        exact ⟨rest ++ vs, ⟨front, (List.append_assoc _ _ _).symm⟩, rest, vs, rfl, hp, hq⟩
    · simp only [accepts_cons_iff hRun, ih]
      constructor
      · rintro ⟨d, rest, rfl, hc, us, vs, rfl, hp, hq⟩
        exact ⟨d :: us, vs, rfl, ⟨d, us, rfl, hc, hp⟩, hq⟩
      · rintro ⟨us, vs, rfl, ⟨d, us, rfl, hc, hp⟩, hq⟩
        exact ⟨d, us ++ vs, rfl, hc, us, vs, rfl, hp, hq⟩

/-- The pattern that seeks a text, or another pattern, anywhere. -/
def anywhere (needle : List Char) : List Char := '%' :: (needle ++ ['%'])

/-- Such a pattern accepts the texts that have a part that the middle accepts. -/
theorem accepts_anywhere_iff {needle cs : List Char} :
    accepts (anywhere needle) cs = true ↔
      ∃ front part back, front ++ part ++ back = cs ∧ accepts needle part = true := by
  have hAny (vs : List Char) : accepts ['%'] vs = true :=
    accepts_run_iff.mpr ⟨[], List.nil_suffix, rfl⟩
  simp only [anywhere, accepts_run_iff, accepts_append_iff, hAny, and_true]
  constructor
  · rintro ⟨rest, ⟨front, rfl⟩, part, back, rfl, hPart⟩
    exact ⟨front, part, back, List.append_assoc _ _ _, hPart⟩
  · rintro ⟨front, part, back, rfl, hPart⟩
    exact ⟨part ++ back, ⟨front, (List.append_assoc _ _ _).symm⟩, part, back, rfl, hPart⟩

/-! ## Texts that are held -/

/-- Does a text hold another one, up to the case of ASCII letters? -/
def Holds (cs needle : List Char) : Prop := needle.map Char.toLower <:+: cs.map Char.toLower

instance (cs needle : List Char) : Decidable (Holds cs needle) :=
  inferInstanceAs (Decidable (_ <:+: _))

theorem holds_iff {cs needle : List Char} : Holds cs needle ↔
    ∃ front part back, front ++ part ++ back = cs ∧
      part.map Char.toLower = needle.map Char.toLower := by
  constructor
  · rintro ⟨front', back', hParts⟩
    obtain ⟨before, back, rfl, hBefore, -⟩ := List.map_eq_append_iff.mp hParts.symm
    obtain ⟨front, part, rfl, -, hPart⟩ := List.map_eq_append_iff.mp hBefore
    exact ⟨front, part, back, rfl, hPart⟩
  · rintro ⟨front, part, back, rfl, hPart⟩
    rw [Holds, ← hPart, List.map_append, List.map_append]
    exact List.infix_append _ _ _

theorem sameLetter_iff {a b : Char} : sameLetter a b = true ↔ a.toLower = b.toLower := beq_iff_eq

/-- Every pattern accepts itself, up to the case of letters: marks stand for themselves, too. -/
theorem accepts_of_map_eq {needle part : List Char}
    (h : part.map Char.toLower = needle.map Char.toLower) : accepts needle part = true := by
  induction needle generalizing part with
  | nil => exact accepts_nil_iff.mpr (List.map_eq_nil_iff.mp h)
  | cons p needle ih =>
    obtain ⟨c, rest, rfl, hc, hRest⟩ := List.map_eq_cons_iff.mp h
    by_cases hRun : p = '%'
    · subst hRun
      exact accepts_run_iff.mpr ⟨rest, List.suffix_cons c rest, ih hRest⟩
    · exact (accepts_cons_iff hRun).mpr ⟨c, rest, rfl, .inr (sameLetter_iff.mpr hc.symm), ih hRest⟩

/-- A pattern without marks accepts nothing else. -/
theorem map_eq_of_accepts {needle part : List Char} (hRun : '%' ∉ needle) (hOne : '_' ∉ needle)
    (h : accepts needle part = true) : part.map Char.toLower = needle.map Char.toLower := by
  induction needle generalizing part with
  | nil => rw [accepts_nil_iff.mp h]
  | cons p needle ih =>
    simp only [List.mem_cons, not_or] at hRun hOne
    obtain ⟨c, rest, rfl, hp, hRest⟩ := (accepts_cons_iff (Ne.symm hRun.1)).mp h
    have hSame : p.toLower = c.toLower := sameLetter_iff.mp (hp.resolve_left (Ne.symm hOne.1))
    rw [List.map_cons, List.map_cons, hSame, ih hRun.2 hOne.2 hRest]

/-- **What a text holds is found**, whatever marks there are. -/
theorem accepts_of_holds {cs needle : List Char} (h : Holds cs needle) :
    accepts (anywhere needle) cs = true := by
  obtain ⟨front, part, back, hParts, hPart⟩ := holds_iff.mp h
  exact accepts_anywhere_iff.mpr ⟨front, part, back, hParts, accepts_of_map_eq hPart⟩

/-- **Without marks, nothing else is found.** -/
theorem accepts_iff_holds {cs needle : List Char} (hRun : '%' ∉ needle) (hOne : '_' ∉ needle) :
    accepts (anywhere needle) cs = true ↔ Holds cs needle := by
  refine ⟨fun h => ?_, accepts_of_holds⟩
  obtain ⟨front, part, back, hParts, hPart⟩ := accepts_anywhere_iff.mp h
  exact holds_iff.mpr ⟨front, part, back, hParts, map_eq_of_accepts hRun hOne hPart⟩

-- with a mark, more is found than what is held
example : accepts (anywhere "e_c".toList) "Loose cable".toList = true ∧
    ¬ Holds "Loose cable".toList "e_c".toList := by decide

/-! ## Texts that are seen -/

/-- Does the search come to what the pattern says of the whole text? -/
def IsSeen (pattern s : String) : Prop := test pattern s = accepts pattern.toList s.toList

/-- It does where there is no NUL, before which a text ends for it. -/
theorem isSeen_of_not_mem {pattern s : String} (hPattern : '\x00' ∉ pattern.toList)
    (hText : '\x00' ∉ s.toList) : IsSeen pattern s := by
  have hVisible {t : String} (h : '\x00' ∉ t.toList) : visible t = t.toList := by
    rw [visible, List.takeWhile_eq_self_iff]
    intro c hc
    rw [bne_iff_ne]
    rintro rfl
    exact h hc
  rw [IsSeen, test, scan_eq_accepts, hVisible hPattern, hVisible hText]

end Winnow.Like
