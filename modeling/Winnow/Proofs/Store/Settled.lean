import Winnow.Proofs.Store.Argument
import Winnow.Proofs.Store.Place

/-!
# Winnow.Proofs.Store.Settled — what columns keep

A typed column keeps the values of its type, and one with a zone only those date-times that have an
offset (`ColumnKind.Keeps`). Main statement: whatever argument a column takes, it makes a value of it
that it keeps, and that value is taken again as it is (`Column.coerce_settles`). So the values that
arguments become are those that a column leaves alone, and no others (`Column.coerce_eq_self_iff`).
-/

namespace Winnow

/-- Is the value one that a column of this kind leaves alone? Columns of documents, of enumerations
and of types that are not known leave everything alone. -/
def ColumnKind.Keeps : ColumnKind → Value → Prop
  | .boolean, v => ∃ b, v = .bool b
  | .dateTime true, v => ∃ t, v = .dateTime t ∧ t.isNaive = false
  | .document, _ => True
  | .enumeration, _ => True
  | .other, _ => True
  | kind, v => v.IsOf kind

namespace Column

variable {c : Column} {v r : Value}

theorem coerce_null (c : Column) : c.coerce .null = .ok .null := rfl

theorem coerce_of_isOpen (hOpen : c.kind.isOpen = true) (v : Value) : c.coerce v = .ok v := by
  obtain ⟨name, kind⟩ := c
  cases kind with
  | document | enumeration | other => cases v <;> rfl
  | _ => cases hOpen

/-- A boolean column makes booleans. -/
theorem exists_bool_of_coerce {name : String} (hSome : v ≠ .null)
    (h : (Column.mk name .boolean).coerce v = .ok r) : ∃ b, r = .bool b := by
  rw [coerce_of_ne_null _ hSome] at h
  exact exists_of_coerceBool h

/-- A column with a zone makes date-times with an offset. -/
theorem exists_aware_of_coerce {name : String} (hSome : v ≠ .null)
    (h : (Column.mk name (.dateTime true)).coerce v = .ok r) :
    ∃ t, r = .dateTime t ∧ t.isNaive = false := by
  rw [coerce_of_ne_null _ hSome] at h
  obtain ⟨t, rfl⟩ := exists_of_coerceDateTime h
  exact ⟨t.aware, rfl, rfl⟩

/-- What a column makes of anything but null is a value that it keeps. -/
theorem keeps_of_coerce (hSome : v ≠ .null) (h : c.coerce v = .ok r) : c.kind.Keeps r := by
  obtain ⟨name, kind⟩ := c
  cases kind with
  | boolean => exact exists_bool_of_coerce hSome h
  | dateTime zoned =>
    cases zoned with
    | true => exact exists_aware_of_coerce hSome h
    | false => exact isOf_coerce rfl hSome h
  | document | enumeration | other => trivial
  | _ => exact isOf_coerce (c := ⟨name, _⟩) rfl hSome h

/-- Values that a column keeps are taken as they are. -/
theorem coerce_of_keeps (h : c.kind.Keeps r) : c.coerce r = .ok r := by
  obtain ⟨name, kind⟩ := c
  cases kind with
  | boolean =>
    obtain ⟨b, rfl⟩ := h
    rfl
  | dateTime zoned =>
    cases zoned with
    | true =>
      obtain ⟨⟨day, time, offset⟩, rfl, hAware⟩ := h
      -- a column with a zone changes a date-time only if it has no offset
      cases offset with
      | none => cases hAware
      | some o => rfl
    | false =>
      cases h
      rfl
  | text =>
    cases h with
    | text hText =>
      cases r with
      | text | operator => rfl
      | _ => cases hText
  | document | enumeration | other => exact coerce_of_isOpen rfl r
  | integer | double | decimal | date | uuid =>
    cases h
    rfl

/-- A typed column does not keep null. -/
theorem ne_null_of_keeps (hTyped : c.kind.isOpen = false) (h : c.kind.Keeps r) : r ≠ .null := by
  rintro rfl
  obtain ⟨name, kind⟩ := c
  cases kind with
  | boolean =>
    obtain ⟨b, hb⟩ := h
    cases hb
  | dateTime zoned =>
    cases zoned with
    | true =>
      obtain ⟨t, ht, -⟩ := h
      cases ht
    | false => cases h
  | text =>
    cases h with
    | text hText => cases hText
  | document | enumeration | other => cases hTyped
  | integer | double | decimal | date | uuid => cases h

/-- Null comes of null alone. -/
theorem eq_null_iff_of_coerce (h : c.coerce v = .ok r) : r = .null ↔ v = .null := by
  constructor
  · rintro rfl
    by_contra hSome
    by_cases hOpen : c.kind.isOpen = true
    · rw [coerce_of_isOpen hOpen] at h
      exact hSome (Except.ok.inj h)
    · exact ne_null_of_keeps (by simpa using hOpen) (keeps_of_coerce hSome h) rfl
  · rintro rfl
    exact (Except.ok.inj h).symm

/-- Null and the values that a column keeps are what it leaves alone. -/
theorem coerce_eq_self_iff : c.coerce r = .ok r ↔ r = .null ∨ c.kind.Keeps r := by
  constructor
  · intro h
    by_cases hNull : r = .null
    · exact .inl hNull
    · exact .inr (keeps_of_coerce hNull h)
  · rintro (rfl | h)
    · exact coerce_null c
    · exact coerce_of_keeps h

/-- **Coercion settles an argument.** What a column makes of an argument is null if the argument is,
and otherwise a value that the column keeps; an untyped column changes nothing; and coercing the
result again gives the result. -/
theorem coerce_settles (h : c.coerce v = .ok r) :
    (r = .null ↔ v = .null) ∧ (r ≠ .null → c.kind.Keeps r) ∧ (c.kind.isOpen = true → r = v) ∧
      c.coerce r = .ok r := by
  have hNull := eq_null_iff_of_coerce h
  have hKeeps (hSome : r ≠ .null) : c.kind.Keeps r :=
    keeps_of_coerce (fun hv => hSome (hNull.mpr hv)) h
  refine ⟨hNull, hKeeps, ?_, ?_⟩
  · intro hOpen
    rw [coerce_of_isOpen hOpen] at h
    exact (Except.ok.inj h).symm
  · apply coerce_eq_self_iff.mpr
    by_cases hSome : r = .null
    · exact .inl hSome
    · exact .inr (hKeeps hSome)

/-- The first Monday of 2023 at midnight, with an offset of zero. -/
def mondayMidnight : DateTime := ⟨⟨2023, 1, 2, by decide⟩, .midnight, some .utc⟩

/-- A day in text becomes its midnight with an offset, and that stays. -/
theorem coerce_settles_mondayMidnight :
    (Column.mk "seen_at" (.dateTime true)).coerce (.text " 2023-W01-1 ") =
        .ok (.dateTime mondayMidnight) ∧
      (ColumnKind.dateTime true).Keeps (.dateTime mondayMidnight) ∧
      (Column.mk "seen_at" (.dateTime true)).coerce (.dateTime mondayMidnight) =
        .ok (.dateTime mondayMidnight) := by
  have hRead : dateTimeOfText? (Text.trim " 2023-W01-1 ").toList =
      some (.atMidnight ⟨2023, 1, 2, by decide⟩) := by
    decide +kernel
  have hCoerce : (Column.mk "seen_at" (.dateTime true)).coerce (.text " 2023-W01-1 ") =
      .ok (.dateTime mondayMidnight) := by
    show coerceDateTime "seen_at" true (.text " 2023-W01-1 ") = .ok (.dateTime mondayMidnight)
    rw [coerceDateTime_of_text, hRead]
    rfl
  have hSettled := coerce_settles hCoerce
  exact ⟨hCoerce, hSettled.2.1 nofun, hSettled.2.2.2⟩

end Column

end Winnow
