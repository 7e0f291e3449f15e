import Mathlib.Data.List.Forall2
import Winnow.Value.Plain

/-!
# Winnow.Proofs.Value.Plain — what the plain form holds and keeps

Data is what lists, tuples and mappings build, to any depth, from null, booleans, numbers, texts,
days, points of time, identifiers and members of enumerations. What is in a value are its *parts*
(`Value.parts`), and what is left of it without them is its *outline*: the lists and mappings, with
their lengths and keys (`Value.outline`).

Main statement: data has a plain form unless a signalling decimal is among its parts; the plain form
is made of null, booleans, integers, doubles, texts, lists and mappings alone, has the outline of the
data, and is its own plain form (`Value.data_has_plain_form`).

Only lists, tuples and mappings are gone into. So one induction serves all of it, in which a list or
a tuple, which are *sequences*, is treated by its items and a mapping by what its entries hold
(`Value.parts_induction`), and the plain forms of items and of entries are told by pairs
(`Value.plainItems?_eq_some_iff`, `Value.plainEntries?_eq_some_iff`).
-/

namespace Winnow.Value

/-! ## Parts -/

mutual

/-- The value itself, its items, what its entries hold, and so on to any depth. Keys are no parts. -/
def parts : Value → List Value
  | list xs => list xs :: partsOfItems xs
  | tuple xs => tuple xs :: partsOfItems xs
  | mapping es => mapping es :: partsOfEntries es
  | v => [v]

/-- The parts of items. -/
def partsOfItems : List Value → List Value
  | [] => []
  | v :: vs => parts v ++ partsOfItems vs

/-- The parts of what entries hold. -/
def partsOfEntries : List (Value × Value) → List Value
  | [] => []
  | (_, v) :: es => parts v ++ partsOfEntries es

end

theorem mem_partsOfItems_iff {p : Value} {xs : List Value} :
    p ∈ partsOfItems xs ↔ ∃ v ∈ xs, p ∈ v.parts := by
  induction xs with
  | nil => simp [partsOfItems]
  | cons v xs ih => simp [partsOfItems, ih]

theorem mem_partsOfEntries_iff {p : Value} {es : List (Value × Value)} :
    p ∈ partsOfEntries es ↔ ∃ e ∈ es, p ∈ e.2.parts := by
  induction es with
  | nil => simp [partsOfEntries]
  | cons e es ih => simp [partsOfEntries, ih]

/-- Is the value a list, a tuple or a mapping? -/
def isContainer : Value → Bool
  | list _ | tuple _ | mapping _ => true
  | _ => false

theorem parts_of_not_isContainer {v : Value} (h : v.isContainer = false) : v.parts = [v] := by
  cases v with
  | list | tuple | mapping => cases h
  | _ => rfl

/-- Is the value a list or a tuple of these items? -/
inductive IsSequence : Value → List Value → Prop
  | list (xs : List Value) : IsSequence (list xs) xs
  | tuple (xs : List Value) : IsSequence (tuple xs) xs

/-- What holds of all that is no container, and of a container if it holds of its items or of what
its entries hold, holds of every value. -/
@[elab_as_elim]
theorem parts_induction {motive : Value → Prop} (leaf : ∀ v, v.isContainer = false → motive v)
    (sequence : ∀ v xs, IsSequence v xs → (∀ w ∈ xs, motive w) → motive v)
    (mapping : ∀ es, (∀ e ∈ es, motive e.2) → motive (mapping es)) (v : Value) : motive v := by
  match v with
  | .list xs =>
    apply sequence _ xs (.list xs)
    intro w hw
    exact parts_induction leaf sequence mapping w
  | .tuple xs =>
    apply sequence _ xs (.tuple xs)
    intro w hw
    exact parts_induction leaf sequence mapping w
  | .mapping es =>
    apply mapping
    intro e he
    exact parts_induction leaf sequence mapping e.2
  | .null | .bool _ | .int _ | .double _ | .decimal _ | .text _ | .date _ | .dateTime _ | .uuid _
  | .member _ | .operator _ | .set _ | .object _ | .row .. => exact leaf _ rfl
termination_by sizeOf v
decreasing_by
  all_goals simp_wf
  · have := List.sizeOf_lt_of_mem hw
    omega
  · have := List.sizeOf_lt_of_mem hw
    omega
  · have := List.sizeOf_lt_of_mem he
    obtain ⟨k, w⟩ := e
    simp only [Prod.mk.sizeOf_spec] at this ⊢
    omega

/-! ## Data, plain values, outlines -/

/-- Is the value of a kind that data is made of? -/
def isDatum : Value → Bool
  | set _ | object _ | row .. => false
  | _ => true

/-- Is the value of a kind that stays as it is in a plain form? -/
def isPlainPart : Value → Bool
  | null | bool _ | int _ | double _ | text _ | list _ | mapping _ => true
  | _ => false

/-- Is the value a signalling decimal? -/
def isSignalling : Value → Bool
  | decimal (.nan _ signalling _) => signalling
  | _ => false

/-- Is the value data, at every depth? -/
def IsData (v : Value) : Prop := ∀ p ∈ v.parts, p.isDatum = true

/-- Is the value plain, at every depth? -/
def IsPlain (v : Value) : Prop := ∀ p ∈ v.parts, p.isPlainPart = true

/-- Is there a signalling decimal in the value, at any depth? -/
def HoldsSignalling (v : Value) : Prop := ∃ p ∈ v.parts, p.isSignalling = true

instance (v : Value) : Decidable v.IsData := inferInstanceAs (Decidable (∀ p ∈ v.parts, _))

instance (v : Value) : Decidable v.IsPlain := inferInstanceAs (Decidable (∀ p ∈ v.parts, _))

instance (v : Value) : Decidable v.HoldsSignalling :=
  inferInstanceAs (Decidable (∃ p ∈ v.parts, _))

mutual

/-- The lists and mappings of a value, with null in the place of all else. Tuples count as lists. -/
def outline : Value → Value
  | list xs => list (itemOutlines xs)
  | tuple xs => list (itemOutlines xs)
  | mapping es => mapping (entryOutlines es)
  | _ => null

/-- The outlines of items. -/
def itemOutlines : List Value → List Value
  | [] => []
  | v :: vs => outline v :: itemOutlines vs

/-- The keys of entries with the outlines of what they hold. -/
def entryOutlines : List (Value × Value) → List (Value × Value)
  | [] => []
  | (k, v) :: es => (k, outline v) :: entryOutlines es

end

theorem outline_of_not_isContainer {v : Value} (h : v.isContainer = false) : v.outline = null := by
  cases v with
  | list | tuple | mapping => cases h
  | _ => rfl

namespace IsSequence

variable {v : Value} {xs : List Value}

theorem parts_eq (h : IsSequence v xs) : v.parts = v :: partsOfItems xs := by cases h <;> rfl

theorem outline_eq (h : IsSequence v xs) : v.outline = .list (itemOutlines xs) := by
  cases h <;> rfl

theorem plain?_eq (h : IsSequence v xs) : v.plain? = (plainItems? xs).map .list := by
  cases h <;> rfl

theorem isSignalling_eq_false (h : IsSequence v xs) : v.isSignalling = false := by cases h <;> rfl

/-- What is true of the parts of a list or a tuple is true of itself and of the parts of its
items. -/
theorem forall_parts {P : Value → Prop} (h : IsSequence v xs) :
    (∀ p ∈ v.parts, P p) ↔ P v ∧ ∀ w ∈ xs, ∀ p ∈ w.parts, P p := by
  simp only [h.parts_eq, List.forall_mem_cons, mem_partsOfItems_iff, forall_exists_index, and_imp]
  exact and_congr_right fun _ => ⟨fun h w hw p hp => h p w hw hp, fun h p w hw hp => h w hw p hp⟩

end IsSequence

theorem forall_parts_mapping {P : Value → Prop} {es : List (Value × Value)} :
    (∀ p ∈ (mapping es).parts, P p) ↔ P (mapping es) ∧ ∀ e ∈ es, ∀ p ∈ e.2.parts, P p := by
  simp only [parts, List.forall_mem_cons, mem_partsOfEntries_iff, forall_exists_index, and_imp]
  exact and_congr_right fun _ => ⟨fun h e he p hp => h p e he hp, fun h p e he hp => h e he p hp⟩

/-! ## Plain forms of items and entries -/

theorem plainItems?_eq_some_iff {xs ws : List Value} :
    plainItems? xs = some ws ↔ List.Forall₂ (fun v w => v.plain? = some w) xs ws := by
  induction xs generalizing ws with
  | nil => cases ws <;> simp [plainItems?]
  | cons v xs ih =>
    simp only [plainItems?, Option.bind_eq_some_iff, Option.map_eq_some_iff, ih,
      List.forall₂_cons_left_iff]
    grind

theorem plainEntries?_eq_some_iff {es fs : List (Value × Value)} :
    plainEntries? es = some fs ↔
      List.Forall₂ (fun e f => f.1 = e.1 ∧ e.2.plain? = some f.2) es fs := by
  induction es generalizing fs with
  | nil => cases fs <;> simp [plainEntries?]
  | cons e es ih =>
    simp only [plainEntries?, Option.bind_eq_some_iff, Option.map_eq_some_iff, ih,
      List.forall₂_cons_left_iff]
    grind

theorem isSome_plainItems?_iff {xs : List Value} :
    (plainItems? xs).isSome = true ↔ ∀ v ∈ xs, v.plain?.isSome = true := by
  induction xs with
  | nil => simp [plainItems?]
  | cons v xs ih => cases h : v.plain? <;> simp [plainItems?, h, ih]

theorem isSome_plainEntries?_iff {es : List (Value × Value)} :
    (plainEntries? es).isSome = true ↔ ∀ e ∈ es, e.2.plain?.isSome = true := by
  induction es with
  | nil => simp [plainEntries?]
  | cons e es ih => cases h : e.2.plain? <;> simp [plainEntries?, h, ih]

/-- Each member of the second of two lists that are related pair by pair has its partner. -/
theorem exists_of_mem_forall₂ {α β : Type} {R : α → β → Prop} {xs : List α} {ys : List β}
    (h : List.Forall₂ R xs ys) : ∀ y ∈ ys, ∃ x ∈ xs, R x y := by
  induction h with
  | nil => exact nofun
  | cons hHead _ ih =>
    intro y hy
    rcases List.mem_cons.mp hy with rfl | hy
    · exact ⟨_, List.mem_cons_self, hHead⟩
    · obtain ⟨x, hx, hxy⟩ := ih y hy
      exact ⟨x, List.mem_cons_of_mem _ hx, hxy⟩

/-! ## When there is a plain form -/

theorem isSome_plain?_of_not_isContainer {v : Value} (h : v.isContainer = false) :
    v.plain?.isSome = true ↔ v.isSignalling = false := by
  cases v with
  | list | tuple | mapping => cases h
  | decimal d => cases d <;> simp [plain?, Decimal.toBinary64?, isSignalling]
  | _ => simp [plain?, isSignalling]

/-- There is a plain form unless a signalling decimal is among the parts. -/
theorem isSome_plain?_iff (v : Value) :
    v.plain?.isSome = true ↔ ∀ p ∈ v.parts, p.isSignalling = false := by
  induction v using parts_induction with
  | leaf v h =>
    rw [isSome_plain?_of_not_isContainer h, parts_of_not_isContainer h, List.forall_mem_singleton]
  | sequence v xs hv ih =>
    rw [hv.forall_parts, hv.plain?_eq, Option.isSome_map, isSome_plainItems?_iff]
    exact ⟨fun h => ⟨hv.isSignalling_eq_false, fun w hw => (ih w hw).mp (h w hw)⟩,
      fun h w hw => (ih w hw).mpr (h.2 w hw)⟩
  | mapping es ih =>
    rw [forall_parts_mapping, plain?, Option.isSome_map, isSome_plainEntries?_iff]
    exact ⟨fun h => ⟨rfl, fun e he => (ih e he).mp (h e he)⟩, fun h e he => (ih e he).mpr (h.2 e he)⟩

/-! ## What the plain form is made of -/

/-- What is no container has a plain form that is none, and of data that form is plain. -/
theorem plain?_cases_of_not_isContainer {v w : Value} (hv : v.isContainer = false)
    (h : v.plain? = some w) :
    w.isContainer = false ∧ (v.isDatum = true → w.isPlainPart = true) := by
  cases v with
  | list | tuple | mapping => cases hv
  | decimal d =>
    obtain ⟨x, -, rfl⟩ := Option.map_eq_some_iff.mp h
    exact ⟨rfl, fun _ => rfl⟩
  | set | object | row =>
    obtain rfl := Option.some.inj h
    exact ⟨rfl, nofun⟩
  | _ =>
    obtain rfl := Option.some.inj h
    exact ⟨rfl, fun _ => rfl⟩

/-- The plain form of data is plain. -/
theorem isPlain_of_plain? {v w : Value} (hData : v.IsData) (h : v.plain? = some w) : w.IsPlain := by
  induction v using parts_induction generalizing w with
  | leaf v hv =>
    obtain ⟨hw, hPart⟩ := plain?_cases_of_not_isContainer hv h
    rw [IsPlain, parts_of_not_isContainer hw, List.forall_mem_singleton]
    apply hPart
    apply hData
    rw [parts_of_not_isContainer hv]
    exact List.mem_singleton_self v
  | sequence v xs hv ih =>
    rw [hv.plain?_eq] at h
    obtain ⟨ws, hPlain, rfl⟩ := Option.map_eq_some_iff.mp h
    refine (IsSequence.list ws).forall_parts.mpr ⟨rfl, fun w hw => ?_⟩
    obtain ⟨x, hx, hItem⟩ := exists_of_mem_forall₂ (plainItems?_eq_some_iff.mp hPlain) w hw
    exact ih x hx ((hv.forall_parts.mp hData).2 x hx) hItem
  | mapping es ih =>
    obtain ⟨fs, hPlain, rfl⟩ := Option.map_eq_some_iff.mp h
    refine forall_parts_mapping.mpr ⟨rfl, fun f hf => ?_⟩
    obtain ⟨e, he, -, hValue⟩ := exists_of_mem_forall₂ (plainEntries?_eq_some_iff.mp hPlain) f hf
    exact ih e he ((forall_parts_mapping.mp hData).2 e he) hValue

/-- What is plain is its own plain form. -/
theorem plain?_of_isPlain {w : Value} (h : w.IsPlain) : w.plain? = some w := by
  induction w using parts_induction with
  | leaf w hw =>
    have hPart : w.isPlainPart = true :=
      h w (parts_of_not_isContainer hw ▸ List.mem_singleton_self w)
    cases w with
    | null | bool | int | double | text => rfl
    | list | mapping => cases hw
    | _ => cases hPart
  | sequence w ws hw ih =>
    obtain ⟨hPart, hParts⟩ := hw.forall_parts.mp h
    have hItems : plainItems? ws = some ws :=
      plainItems?_eq_some_iff.mpr (List.forall₂_same.mpr fun x hx => ih x hx (hParts x hx))
    rw [hw.plain?_eq, hItems]
    -- a tuple is not plain
    cases hw with
    | list => rfl
    | tuple => cases hPart
  | mapping es ih =>
    have hEntries : plainEntries? es = some es :=
      plainEntries?_eq_some_iff.mpr
        (List.forall₂_same.mpr fun e he => ⟨rfl, ih e he ((forall_parts_mapping.mp h).2 e he)⟩)
    rw [plain?, hEntries]
    rfl

/-! ## What the plain form keeps -/

theorem itemOutlines_eq {xs ws : List Value}
    (h : List.Forall₂ (fun v w => w.outline = v.outline) xs ws) :
    itemOutlines ws = itemOutlines xs := by
  induction h with
  | nil => rfl
  | cons hHead _ ih => rw [itemOutlines, itemOutlines, hHead, ih]

theorem entryOutlines_eq {es fs : List (Value × Value)}
    (h : List.Forall₂ (fun e f => f.1 = e.1 ∧ f.2.outline = e.2.outline) es fs) :
    entryOutlines fs = entryOutlines es := by
  induction h with
  | nil => rfl
  | cons hHead _ ih => rw [entryOutlines, entryOutlines, hHead.1, hHead.2, ih]

/-- The plain form has the outline of the value. -/
theorem outline_of_plain? {v w : Value} (h : v.plain? = some w) : w.outline = v.outline := by
  induction v using parts_induction generalizing w with
  | leaf v hv =>
    rw [outline_of_not_isContainer hv,
      outline_of_not_isContainer (plain?_cases_of_not_isContainer hv h).1]
  | sequence v xs hv ih =>
    rw [hv.plain?_eq] at h
    obtain ⟨ws, hPlain, rfl⟩ := Option.map_eq_some_iff.mp h
    have hPairs := (List.forall₂_and_left xs ws).mpr ⟨fun x hx y => @ih x hx y,
      plainItems?_eq_some_iff.mp hPlain⟩
    rw [outline, hv.outline_eq, itemOutlines_eq (hPairs.imp fun x w hxw => hxw.1 w hxw.2)]
  | mapping es ih =>
    obtain ⟨fs, hPlain, rfl⟩ := Option.map_eq_some_iff.mp h
    have hPairs := (List.forall₂_and_left es fs).mpr ⟨fun e he w => ih e he (w := w),
      plainEntries?_eq_some_iff.mp hPlain⟩
    have hEntries := entryOutlines_eq (hPairs.imp fun e f hef => ⟨hef.2.1, hef.1 f.2 hef.2.2⟩)
    rw [outline, outline, hEntries]

/-- **Data has a plain form unless a signalling decimal is in it.** The plain form holds nothing but
null, booleans, integers, doubles, texts, lists and mappings; it has the lists and mappings of the
data, with their lengths and with their keys in the same order; and it is its own plain form. -/
theorem data_has_plain_form {v : Value} (hData : v.IsData) :
    (v.HoldsSignalling → v.plain? = none) ∧
      (¬v.HoldsSignalling →
        ∃ w, v.plain? = some w ∧ w.IsPlain ∧ w.outline = v.outline ∧ w.plain? = some w) := by
  constructor
  · rintro ⟨p, hp, hSignalling⟩
    by_contra hSome
    have hQuiet := (isSome_plain?_iff v).mp (Option.isSome_iff_ne_none.mpr hSome) p hp
    rw [hSignalling] at hQuiet
    cases hQuiet
  · intro hQuiet
    have hParts : ∀ p ∈ v.parts, p.isSignalling = false := by
      intro p hp
      by_contra hSignalling
      exact hQuiet ⟨p, hp, by simpa using hSignalling⟩
    obtain ⟨w, hw⟩ := Option.isSome_iff_exists.mp ((isSome_plain?_iff v).mpr hParts)
    have hPlain := isPlain_of_plain? hData hw
    exact ⟨w, hw, hPlain, outline_of_plain? hw, plain?_of_isPlain hPlain⟩

/-- A day and a price of a quarter below three, side by side under a name. -/
def offer : Value :=
  mapping [(text "offer", tuple [date ⟨2026, 2, 26, by decide⟩, decimal (.finite false 275 (-2))])]

/-- The tuple becomes a list, the day a text, the price a double; name and length stay. -/
theorem data_has_plain_form_offer :
    offer.IsData ∧ ¬offer.HoldsSignalling ∧
      offer.plain? = some (mapping [(text "offer",
        list [text "2026-02-26", double (.ofDecimal false 275 (-2))])]) ∧
      ∃ w, offer.plain? = some w ∧ w.IsPlain ∧ w.outline = offer.outline ∧ w.plain? = some w := by
  have hData : offer.IsData := by decide
  have hQuiet : ¬offer.HoldsSignalling := by decide
  exact ⟨hData, hQuiet, rfl, (data_has_plain_form hData).2 hQuiet⟩

end Winnow.Value
