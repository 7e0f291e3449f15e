import Winnow.Csv
import Mathlib.Algebra.GroupWithZero.Nat
import Mathlib.Data.List.Basic

/-!
# Winnow.Proofs.Csv — lines are read back

Whether a table in text can be read is a matter of its reader, so there is one here: a machine that
takes a text character by character and gives out a record at each line break outside quotation
marks (`Csv.Reader`). Which line breaks it heeds is left open. One that heeds line feeds only is the
counterpart of the writer; most programs heed carriage returns, too.

The writer quotes a field that holds a line feed, but not one that holds a carriage return. So a
record is read back as it was written if each field that holds a line break of the reader is quoted
(`Csv.Breaks.Spares`, `Reader.run_lineChars`). For a reader of line feeds every field is like that,
and rows of texts are read back, whatever the texts are (`lines_read_back`).

What becomes of the other fields is said in `Winnow.Proofs.Service.Records`.
-/

namespace Winnow.Csv

/-! ## A reader -/

/-- The line breaks that end a record: line feeds, or carriage returns too. A line feed right after
a carriage return belongs to it. -/
inductive Breaks where
  | feeds
  | all
  deriving DecidableEq

/-- Is the character a line break? -/
def Breaks.has : Breaks → Char → Bool
  | feeds, c => c == '\n'
  | all, c => c == '\n' || c == '\r'

/-- A record: the texts of its fields. -/
abbrev Record := List (List Char)

/-- Where a reader stands. -/
inductive Place where
  /-- Before a record. -/
  | start
  /-- Before a record, right after the carriage return that ended the one before. -/
  | afterReturn
  /-- After a comma, before a field. -/
  | field
  /-- In a field without quotation marks. -/
  | plain
  /-- Between quotation marks. -/
  | quoted
  /-- After a quotation mark that ends the field, unless another one follows. -/
  | closing
  deriving DecidableEq

/-- A reader in the middle of a text: the fields of the record and the characters of the field so
far, and where it stands. -/
structure Reader where
  fields : Record
  text : List Char
  place : Place
  deriving DecidableEq

namespace Reader

/-- A reader before a record. -/
def fresh : Reader := ⟨[], [], .start⟩

/-- A record is given out at a line break. -/
def endRecord (c : Char) (record : Record) : Option Record × Reader :=
  (some record, ⟨[], [], if c = '\r' then .afterReturn else .start⟩)

/-- A character after some of a field, outside quotation marks. -/
def outside (b : Breaks) (s : Reader) (c : Char) : Option Record × Reader :=
  if b.has c then endRecord c (s.fields ++ [s.text])
  else if c = ',' then (none, ⟨s.fields ++ [s.text], [], .field⟩)
  else (none, ⟨s.fields, s.text ++ [c], .plain⟩)

/-- The first character of a field. -/
def atField (b : Breaks) (s : Reader) (c : Char) : Option Record × Reader :=
  if c = '\x22' then (none, { s with place := .quoted }) else s.outside b c

/-- The first character of a record. A line break there ends a record without fields. -/
def atStart (b : Breaks) (s : Reader) (c : Char) : Option Record × Reader :=
  if b.has c then endRecord c [] else s.atField b c

/-- What a reader makes of a character: the record that ends there, if one does, and the reader
after it. -/
def step (b : Breaks) (s : Reader) (c : Char) : Option Record × Reader :=
  match s.place with
  | .start => s.atStart b c
  | .afterReturn => if c = '\n' then (none, fresh) else s.atStart b c
  | .field => s.atField b c
  | .plain => s.outside b c
  | .quoted =>
    if c = '\x22' then (none, { s with place := .closing })
    else (none, { s with text := s.text ++ [c] })
  | .closing =>
    if c = '\x22' then (none, ⟨s.fields, s.text ++ [c], .quoted⟩) else s.outside b c

/-- The records that a reader gives out on its way through a text, and the reader after it. -/
def run (b : Breaks) : Reader → List Char → List Record × Reader
  | s, [] => ([], s)
  | s, c :: cs =>
    let here := s.step b c
    let rest := run b here.2 cs
    (here.1.toList ++ rest.1, rest.2)

/-- The record that is left at the end of a text, if the last line is not ended. -/
def left (s : Reader) : List Record :=
  match s.place with
  | .start => []
  | .afterReturn => []
  | _ => [s.fields ++ [s.text]]

end Reader

/-- The records in a text. -/
def read (b : Breaks) (cs : List Char) : List Record :=
  let whole := Reader.fresh.run b cs
  whole.1 ++ whole.2.left

/-- The records in a text, as texts. -/
def readText (b : Breaks) (s : String) : List (List String) :=
  (read b s.toList).map fun record => record.map String.ofList

/-! ## Fields that are read back -/

/-- Is the field quoted if there is one of the line breaks in it? -/
def Breaks.Spares (b : Breaks) (cs : List Char) : Prop :=
  cs.any b.has = true → cs.any needsQuotes = true

instance (b : Breaks) (cs : List Char) : Decidable (b.Spares cs) :=
  inferInstanceAs (Decidable (_ → _))

/-- The writer quotes every field with a line feed in it. -/
theorem Breaks.spares_feeds (cs : List Char) : feeds.Spares cs := by
  intro h
  obtain ⟨c, hMem, hFeed⟩ := List.any_eq_true.mp h
  refine List.any_eq_true.mpr ⟨c, hMem, ?_⟩
  obtain rfl : c = '\n' := beq_iff_eq.mp hFeed
  rfl

/-- A field without the characters that are quoted, nor any line break. -/
theorem Breaks.Spares.forall_mem {b : Breaks} {cs : List Char} (h : b.Spares cs)
    (hPlain : cs.any needsQuotes = false) :
    ∀ c ∈ cs, needsQuotes c = false ∧ b.has c = false := by
  have hBreaks : cs.any b.has = false := by
    rw [Bool.eq_false_iff]
    intro hBreak
    rw [h hBreak] at hPlain
    cases hPlain
  intro c hMem
  constructor
  · exact Bool.eq_false_iff.mpr fun hc => by simp [List.any_eq_true.mpr ⟨c, hMem, hc⟩] at hPlain
  · exact Bool.eq_false_iff.mpr fun hc => by simp [List.any_eq_true.mpr ⟨c, hMem, hc⟩] at hBreaks

theorem ne_of_not_needsQuotes {c : Char} (h : needsQuotes c = false) :
    c ≠ ',' ∧ c ≠ '\x22' ∧ c ≠ '\n' := by
  simpa [needsQuotes, and_assoc] using h

@[simp] theorem Breaks.has_comma (b : Breaks) : b.has ',' = false := by cases b <;> rfl

@[simp] theorem Breaks.has_quote (b : Breaks) : b.has '\x22' = false := by cases b <;> rfl

@[simp] theorem Breaks.has_feed (b : Breaks) : b.has '\n' = true := by cases b <;> rfl

theorem joinFields_cons {f : List Char} {fs : List (List Char)} (h : fs ≠ []) :
    joinFields (f :: fs) = f ++ ',' :: joinFields fs := by
  cases fs with
  | nil => exact absurd rfl h
  | cons g fs => rfl

/-- The line of any record but the one of a single empty field. -/
theorem lineChars_eq {fields : Record} (h : fields ≠ [[]]) :
    lineChars fields = joinFields (fields.map field) ++ ['\n'] := by
  unfold lineChars
  split
  · exact absurd rfl h
  · rfl

namespace Reader

variable {b : Breaks} {s s' s'' : Reader} {cs ds : List Char} {records others : List Record}

theorem run_cons (b : Breaks) (s : Reader) (c : Char) (cs : List Char) :
    s.run b (c :: cs) =
      ((s.step b c).1.toList ++ ((s.step b c).2.run b cs).1, ((s.step b c).2.run b cs).2) := rfl

theorem run_append (h : s.run b cs = (records, s')) (h' : s'.run b ds = (others, s'')) :
    s.run b (cs ++ ds) = (records ++ others, s'') := by
  induction cs generalizing s records with
  | nil =>
    obtain ⟨rfl, rfl⟩ := Prod.mk.inj h
    exact h'
  | cons c cs ih =>
    rw [run_cons] at h
    obtain ⟨rfl, hRest⟩ := Prod.mk.inj h
    have hTail := ih (Prod.ext rfl hRest)
    rw [List.cons_append, run_cons, hTail, List.append_assoc]

/-- Between quotation marks every character is kept, and a doubled quotation mark is one. -/
theorem run_doubled (b : Breaks) (fields : Record) (text cs : List Char) :
    run b ⟨fields, text, .quoted⟩ (cs.flatMap fun c => if c == '\x22' then [c, c] else [c]) =
      ([], ⟨fields, text ++ cs, .quoted⟩) := by
  induction cs generalizing text with
  | nil => simp [run]
  | cons c cs ih =>
    by_cases hc : c = '\x22'
    · subst hc
      have hTwo : run b ⟨fields, text, .quoted⟩ ['\x22', '\x22'] =
          ([], ⟨fields, text ++ ['\x22'], .quoted⟩) := rfl
      simpa using run_append hTwo (ih (text ++ ['\x22']))
    · have hOne : run b ⟨fields, text, .quoted⟩ [c] = ([], ⟨fields, text ++ [c], .quoted⟩) := by
        simp [run, step, hc]
      simpa [hc] using run_append hOne (ih (text ++ [c]))

theorem run_quoteField (b : Breaks) (fields : Record) (cs : List Char) :
    run b ⟨fields, [], .field⟩ (quoteField cs) = ([], ⟨fields, cs, .closing⟩) := by
  have hOpen : run b ⟨fields, [], .field⟩ ['\x22'] = ([], ⟨fields, [], .quoted⟩) := rfl
  have hClose : run b ⟨fields, cs, .quoted⟩ ['\x22'] = ([], ⟨fields, cs, .closing⟩) := rfl
  exact run_append (run_append hOpen (run_doubled b fields [] cs)) hClose

/-- A character that is neither quoted nor a line break belongs to the field. -/
theorem step_plain {c : Char} (fields : Record) (text : List Char) (hc : needsQuotes c = false)
    (hBreak : b.has c = false) {p : Place} (hPlace : p = .field ∨ p = .plain) :
    step b ⟨fields, text, p⟩ c = (none, ⟨fields, text ++ [c], .plain⟩) := by
  obtain ⟨hComma, hQuote, -⟩ := ne_of_not_needsQuotes hc
  rcases hPlace with rfl | rfl <;> simp [step, atField, outside, hComma, hQuote, hBreak]

theorem run_plain (fields : Record) (text : List Char)
    (h : ∀ c ∈ cs, needsQuotes c = false ∧ b.has c = false) :
    run b ⟨fields, text, .plain⟩ cs = ([], ⟨fields, text ++ cs, .plain⟩) := by
  induction cs generalizing text with
  | nil => simp [run]
  | cons c cs ih =>
    obtain ⟨⟨hc, hBreak⟩, hRest⟩ := List.forall_mem_cons.mp h
    rw [run_cons, step_plain fields text hc hBreak (Or.inr rfl), ih (text ++ [c]) hRest]
    simp

/-- Does the reader stand after all of a field, so that a comma or a line break ends it? -/
def IsAfterField (s : Reader) : Prop := s.place = .field ∨ s.place = .plain ∨ s.place = .closing

/-- A field that has been written is read back. -/
theorem run_field (fields : Record) {f : List Char} (h : b.Spares f) :
    ∃ p, IsAfterField ⟨fields, f, p⟩ ∧
      run b ⟨fields, [], .field⟩ (field f) = ([], ⟨fields, f, p⟩) := by
  unfold field
  split
  · exact ⟨.closing, Or.inr (Or.inr rfl), run_quoteField b fields f⟩
  · rename_i hQuotes
    have hPlain := h.forall_mem (Bool.eq_false_iff.mpr hQuotes)
    cases f with
    | nil => exact ⟨.field, Or.inl rfl, rfl⟩
    | cons c cs =>
      obtain ⟨⟨hc, hBreak⟩, hRest⟩ := List.forall_mem_cons.mp hPlain
      refine ⟨.plain, Or.inr (Or.inl rfl), ?_⟩
      rw [run_cons, step_plain fields [] hc hBreak (Or.inl rfl), run_plain fields _ hRest]
      rfl

theorem IsAfterField.step_comma (h : s.IsAfterField) :
    s.step b ',' = (none, ⟨s.fields ++ [s.text], [], .field⟩) := by
  rcases h with h | h | h <;> simp [step, h, atField, outside]

theorem IsAfterField.step_break (h : s.IsAfterField) {c : Char} (hBreak : b.has c = true) :
    s.step b c = endRecord c (s.fields ++ [s.text]) := by
  have hQuote : c ≠ '\x22' := by
    rintro rfl
    simp at hBreak
  rcases h with h | h | h <;> simp [step, h, atField, outside, hBreak, hQuote]

/-- The fields of a record, with commas between them. -/
theorem run_joinFields (init : Record) (last : List Char)
    (h : ∀ f ∈ init ++ [last], b.Spares f) (before : Record) :
    ∃ p, IsAfterField ⟨before ++ init, last, p⟩ ∧
      run b ⟨before, [], .field⟩ (joinFields ((init ++ [last]).map field)) =
        ([], ⟨before ++ init, last, p⟩) := by
  induction init generalizing before with
  | nil =>
    rw [List.append_nil]
    exact run_field before (h last (by simp))
  | cons f init ih =>
    obtain ⟨hf, hRest⟩ := List.forall_mem_cons.mp h
    obtain ⟨p, hAfter, hField⟩ := run_field before hf
    obtain ⟨p', hAfter', hFields⟩ := ih hRest (before ++ [f])
    have hComma : run b ⟨before, f, p⟩ [','] = ([], ⟨before ++ [f], [], .field⟩) := by
      rw [run_cons, hAfter.step_comma]
      rfl
    rw [List.append_assoc, List.singleton_append] at hAfter' hFields
    refine ⟨p', hAfter', ?_⟩
    rw [List.cons_append, List.map_cons, joinFields_cons (by simp), ← List.singleton_append,
      ← List.append_assoc]
    exact run_append (run_append hField hComma) hFields

/-- A record begins as a field does, unless its line begins with a line break. -/
theorem run_fresh {c : Char} (hBreak : b.has c = false) (cs : List Char) :
    fresh.run b (c :: cs) = run b ⟨[], [], .field⟩ (c :: cs) := by
  have hStep : fresh.step b c = step b ⟨[], [], .field⟩ c := by
    simp [fresh, step, atStart, atField, outside, hBreak]
  rw [run_cons, run_cons, hStep]

/-- No written record begins with a line break, unless it has no fields or a single empty one. -/
theorem exists_cons_joinFields {fields : Record} (h : ∀ f ∈ fields, b.Spares f)
    (hSome : fields ≠ []) (hNotEmpty : fields ≠ [[]]) :
    ∃ c cs, b.has c = false ∧ joinFields (fields.map field) = c :: cs := by
  obtain ⟨f, fs, rfl⟩ := List.exists_cons_of_ne_nil hSome
  -- the field itself begins with something, or the comma after it does
  have hJoin : ∃ tail, joinFields ((f :: fs).map field) = field f ++ tail ∧
      (f = [] → ∃ cs, tail = ',' :: cs) := by
    cases fs with
    | nil => exact ⟨[], by simp [joinFields], fun hf => absurd (congrArg (· :: []) hf) hNotEmpty⟩
    | cons g fs => exact ⟨_, joinFields_cons (by simp), fun _ => ⟨_, rfl⟩⟩
  obtain ⟨tail, hJoin, hTail⟩ := hJoin
  rw [hJoin]
  cases f with
  | nil =>
    obtain ⟨cs, rfl⟩ := hTail rfl
    exact ⟨',', cs, b.has_comma, rfl⟩
  | cons c cs =>
    unfold field
    split
    · exact ⟨'\x22', _, b.has_quote, rfl⟩
    · rename_i hQuotes
      have hPlain := (h (c :: cs) (by simp)).forall_mem (Bool.eq_false_iff.mpr hQuotes)
      exact ⟨c, cs ++ tail, (hPlain c (by simp)).2, rfl⟩

/-- **A line is read back** if its fields hold no line break outside quotation marks. -/
theorem run_lineChars {fields : Record} (h : ∀ f ∈ fields, b.Spares f) :
    fresh.run b (lineChars fields) = ([fields], fresh) := by
  by_cases hEmpty : fields = [[]]
  · subst hEmpty
    cases b <;> rfl
  · rcases List.eq_nil_or_concat fields with rfl | ⟨init, last, rfl⟩
    · cases b <;> rfl
    · rw [List.concat_eq_append] at h hEmpty ⊢
      obtain ⟨c, cs, hBreak, hLine⟩ := exists_cons_joinFields h (by simp) hEmpty
      obtain ⟨p, hAfter, hFields⟩ := run_joinFields init last h []
      rw [List.nil_append] at hAfter hFields
      have hEnd : run b ⟨init, last, p⟩ ['\n'] = ([init ++ [last]], fresh) := by
        rw [run_cons, hAfter.step_break b.has_feed]
        rfl
      rw [lineChars_eq hEmpty, hLine, List.cons_append, run_fresh hBreak, ← List.cons_append,
        ← hLine]
      exact run_append hFields hEnd

/-- Lines that each leave the reader before a record are read one after the other. -/
theorem run_flatMap {α : Type} (line : α → List Char) (records : α → List Record) {xs : List α}
    (h : ∀ x ∈ xs, fresh.run b (line x) = (records x, fresh)) :
    fresh.run b (xs.flatMap line) = (xs.flatMap records, fresh) := by
  induction xs with
  | nil => rfl
  | cons x xs ih =>
    obtain ⟨hHead, hTail⟩ := List.forall_mem_cons.mp h
    exact run_append hHead (ih hTail)

end Reader

theorem read_of_run {b : Breaks} {cs : List Char} {records : List Record}
    (h : Reader.fresh.run b cs = (records, .fresh)) : read b cs = records := by
  rw [read, h]
  exact List.append_nil records

/-- **Lines are read back** if no field holds a line break outside quotation marks. -/
theorem read_lines {b : Breaks} (rows : List Record) (h : ∀ row ∈ rows, ∀ f ∈ row, b.Spares f) :
    read b (rows.flatMap lineChars) = rows := by
  have hRun := Reader.run_flatMap lineChars (fun row => [row])
    fun row hRow => Reader.run_lineChars (h row hRow)
  rw [read_of_run hRun, List.flatMap_singleton']

/-! ## Carriage returns

The writer does not quote a field for its carriage returns. A reader that heeds them ends a record
at each of those that stand outside quotation marks (`returns`). Only one at the end of a line does
no harm to the number of records, since it is taken for a part of the line break.
-/

/-- The number of carriage returns in a field that is not quoted. -/
def returns (f : List Char) : Nat := if f.any needsQuotes = true then 0 else f.count '\r'

theorem spares_of_returns_eq_zero {f : List Char} (h : returns f = 0) : Breaks.all.Spares f := by
  intro hBreak
  by_contra hQuotes
  obtain ⟨c, hMem, hc⟩ := List.any_eq_true.mp hBreak
  rw [returns, if_neg hQuotes, List.count_eq_zero] at h
  simp only [Breaks.has, Bool.or_eq_true, beq_iff_eq] at hc
  rcases hc with rfl | rfl
  · exact hQuotes (List.any_eq_true.mpr ⟨'\n', hMem, rfl⟩)
  · exact h hMem

/-- Is the record read as one record of as many fields? No carriage return stands outside quotation
marks, but one may end the last field, unless there is nothing else in the record. -/
def IsUnbroken (fields : Record) : Prop :=
  (∀ f ∈ fields.dropLast, Breaks.all.Spares f) ∧
    (∀ f ∈ fields.getLast?, f.any needsQuotes = true ∨ '\r' ∉ f.dropLast) ∧ fields ≠ [['\r']]

instance (fields : Record) : Decidable (IsUnbroken fields) := inferInstanceAs (Decidable (_ ∧ _ ∧ _))

namespace Reader

variable {s : Reader} {cs : List Char} {c : Char}

/-- Is the reader outside quotation marks, where one may still begin a field or stand in it? -/
def IsOpen (s : Reader) : Prop := s.place ≠ .quoted ∧ s.place ≠ .closing

theorem IsOpen.step_return (h : s.IsOpen) :
    ∃ record, s.step .all '\r' = (some record, ⟨[], [], .afterReturn⟩) := by
  obtain ⟨fields, text, place⟩ := s
  cases place with
  | quoted => exact absurd rfl h.1
  | closing => exact absurd rfl h.2
  | start => exact ⟨_, rfl⟩
  | afterReturn => exact ⟨_, rfl⟩
  | field => exact ⟨_, rfl⟩
  | plain => exact ⟨_, rfl⟩

theorem IsOpen.step_other (h : s.IsOpen) (hc : needsQuotes c = false) (hReturn : c ≠ '\r') :
    s.step .all c = (none, ⟨s.fields, s.text ++ [c], .plain⟩) := by
  obtain ⟨hComma, hQuote, hFeed⟩ := ne_of_not_needsQuotes hc
  have hBreak : Breaks.all.has c = false := by simp [Breaks.has, hFeed, hReturn]
  obtain ⟨fields, text, place⟩ := s
  cases place with
  | quoted => exact absurd rfl h.1
  | closing => exact absurd rfl h.2
  | afterReturn => simp [step, atStart, atField, outside, hBreak, hComma, hQuote, hFeed]
  | start | field | plain => simp [step, atStart, atField, outside, hBreak, hComma, hQuote]

/-- Characters that are not quoted end a record at each carriage return. -/
theorem IsOpen.run_returns (h : s.IsOpen) (hPlain : ∀ c ∈ cs, needsQuotes c = false) :
    ∃ records s', s.run .all cs = (records, s') ∧ records.length = cs.count '\r' ∧ s'.IsOpen ∧
      (s'.place = .afterReturn → cs = [] ∧ s.place = .afterReturn ∨ cs.getLast? = some '\r') := by
  -- the place changes with each character, but it stays an open one
  induction cs generalizing s with
  | nil => exact ⟨[], s, rfl, rfl, h, fun hPlace => Or.inl ⟨rfl, hPlace⟩⟩
  | cons c cs ih =>
    obtain ⟨hc, hRest⟩ := List.forall_mem_cons.mp hPlain
    by_cases hReturn : c = '\r'
    · subst hReturn
      obtain ⟨record, hStep⟩ := h.step_return
      obtain ⟨records, s', hRun, hLength, hOpen, hLast⟩ :=
        ih (s := ⟨[], [], .afterReturn⟩) ⟨nofun, nofun⟩ hRest
      refine ⟨record :: records, s', ?_, ?_, hOpen, fun hPlace => Or.inr ?_⟩
      · rw [run_cons, hStep, hRun]
        rfl
      · rw [List.length_cons, hLength, List.count_cons_self]
      · rcases hLast hPlace with ⟨rfl, -⟩ | hLast
        · rfl
        · rw [List.getLast?_cons, hLast]
          rfl
    · have hStep := h.step_other hc hReturn
      obtain ⟨records, s', hRun, hLength, hOpen, hLast⟩ :=
        ih (s := ⟨s.fields, s.text ++ [c], .plain⟩) ⟨nofun, nofun⟩ hRest
      refine ⟨records, s', ?_, ?_, hOpen, fun hPlace => Or.inr ?_⟩
      · rw [run_cons, hStep, hRun]
        rfl
      · rw [hLength, List.count_cons_of_ne hReturn]
      · rcases hLast hPlace with ⟨-, hPlain⟩ | hLast
        · cases hPlain
        · rw [List.getLast?_cons, hLast]
          rfl

/-- Does the reader stand before a field? -/
def IsBeforeField (s : Reader) : Prop := s.place = .start ∨ s.place = .field

/-- A field ends as many records as there are carriage returns outside quotation marks. -/
theorem IsBeforeField.run_returns (h : s.IsBeforeField) (f : List Char) :
    ∃ records s', s.run .all (field f) = (records, s') ∧ records.length = returns f ∧
      s'.place ≠ .quoted ∧
      (s'.place = .afterReturn → f.any needsQuotes = false ∧ f.getLast? = some '\r') := by
  unfold field
  split
  · rename_i hQuotes
    have hOpen : s.run .all ['\x22'] = ([], ⟨s.fields, s.text, .quoted⟩) := by
      rcases h with h | h <;> simp [run, step, h, atStart, atField]
    have hClose : run .all ⟨s.fields, s.text ++ f, .quoted⟩ ['\x22'] =
        ([], ⟨s.fields, s.text ++ f, .closing⟩) := rfl
    have hRun := run_append (run_append hOpen (run_doubled .all s.fields s.text f)) hClose
    refine ⟨[], _, hRun, ?_, nofun, nofun⟩
    rw [returns, if_pos hQuotes]
    rfl
  · rename_i hQuotes
    have hPlain : ∀ c ∈ f, needsQuotes c = false := by simpa using hQuotes
    have hOpen : s.IsOpen := by
      rcases h with h | h <;> simp [IsOpen, h]
    obtain ⟨records, s', hRun, hLength, hOpen', hLast⟩ := hOpen.run_returns hPlain
    refine ⟨records, s', hRun, ?_, hOpen'.1, fun hPlace => ⟨Bool.eq_false_iff.mpr hQuotes, ?_⟩⟩
    · rw [returns, if_neg hQuotes, hLength]
    · rcases hLast hPlace with ⟨-, hPlace'⟩ | hLast
      · rcases h with h | h <;> rw [h] at hPlace' <;> cases hPlace'
      · exact hLast

theorem step_comma_of_ne_quoted (h : s.place ≠ .quoted) :
    ∃ s', s.step .all ',' = (none, s') ∧ s'.IsBeforeField := by
  obtain ⟨fields, text, place⟩ := s
  cases place with
  | quoted => exact absurd rfl h
  | start | afterReturn | field | plain | closing => exact ⟨_, rfl, Or.inr rfl⟩

/-- The fields of a line end as many records as there are carriage returns in them. -/
theorem IsBeforeField.run_joinFields (h : s.IsBeforeField) (init : Record) (last : List Char) :
    ∃ records s', s.run .all (joinFields ((init ++ [last]).map field)) = (records, s') ∧
      records.length = ((init ++ [last]).map returns).sum ∧ s'.place ≠ .quoted ∧
      (s'.place = .afterReturn → last.any needsQuotes = false ∧ last.getLast? = some '\r') := by
  induction init generalizing s with
  | nil =>
    obtain ⟨records, s', hRun, hLength, hPlace, hLast⟩ := h.run_returns last
    exact ⟨records, s', hRun, by simpa using hLength, hPlace, hLast⟩
  | cons f init ih =>
    obtain ⟨records, s', hRun, hLength, hPlace, -⟩ := h.run_returns f
    obtain ⟨s'', hStep, hBefore⟩ := step_comma_of_ne_quoted hPlace
    obtain ⟨others, t, hRest, hOthers, hEnd, hLast⟩ := ih hBefore
    have hComma : s'.run .all [','] = ([], s'') := by
      rw [run_cons, hStep]
      rfl
    refine ⟨records ++ others, t, ?_, ?_, hEnd, hLast⟩
    · rw [List.cons_append, List.map_cons, joinFields_cons (by simp), ← List.singleton_append,
        ← List.append_assoc, ← List.append_nil records]
      exact run_append (run_append hRun hComma) hRest
    · simp only [List.length_append, hLength, hOthers, List.cons_append, List.map_cons,
        List.sum_cons]

theorem step_feed_of_ne_quoted (h : s.place ≠ .quoted) :
    ∃ record?, s.step .all '\n' = (record?, fresh) ∧
      (record? = none → s.place = .afterReturn) := by
  obtain ⟨fields, text, place⟩ := s
  cases place with
  | quoted => exact absurd rfl h
  | afterReturn => exact ⟨none, rfl, fun _ => rfl⟩
  | start | field | plain | closing => exact ⟨some _, rfl, fun hNone => by cases hNone⟩

/-- A field with no more than one carriage return outside quotation marks, and that one at its
end. -/
theorem not_mem_dropLast_of_returns {f : List Char}
    (h : returns f = 0 ∨ returns f = 1 ∧ f.getLast? = some '\r') :
    f.any needsQuotes = true ∨ '\r' ∉ f.dropLast := by
  by_cases hQuotes : f.any needsQuotes = true
  · exact Or.inl hQuotes
  · refine Or.inr ?_
    rw [returns, if_neg hQuotes] at h
    rcases h with hNone | ⟨hOne, hEnd⟩
    · exact fun hMem => List.count_eq_zero.mp hNone ((List.dropLast_sublist f).subset hMem)
    · obtain ⟨init, rfl⟩ := List.getLast?_eq_some_iff.mp hEnd
      rw [List.count_append, List.count_singleton_self] at hOne
      rw [List.dropLast_concat]
      exact List.count_eq_zero.mp (by omega)

/-- Every line ends a record, and only one if no carriage return outside quotation marks stands
anywhere but at its end. -/
theorem exists_run_lineChars (fields : Record) :
    ∃ records, fresh.run .all (lineChars fields) = (records, fresh) ∧ records ≠ [] ∧
      (records.length = 1 → (∀ f ∈ fields.dropLast, Breaks.all.Spares f) ∧
        ∀ f ∈ fields.getLast?, f.any needsQuotes = true ∨ '\r' ∉ f.dropLast) := by
  by_cases hEmpty : fields = [[]]
  · subst hEmpty
    exact ⟨[[[]]], rfl, by decide, fun _ => ⟨by simp, by simp⟩⟩
  rcases List.eq_nil_or_concat fields with rfl | ⟨init, last, rfl⟩
  · exact ⟨[[]], rfl, by decide, fun _ => ⟨by simp, by simp⟩⟩
  rw [List.concat_eq_append] at hEmpty ⊢
  obtain ⟨records, s, hRun, hLength, hPlace, hLast⟩ :=
    IsBeforeField.run_joinFields (s := fresh) (Or.inl rfl) init last
  obtain ⟨record?, hStep, hNone⟩ := step_feed_of_ne_quoted hPlace
  have hFeed : s.run .all ['\n'] = (record?.toList, fresh) := by
    rw [run_cons, hStep]
    simp [run]
  have hLine := lineChars_eq hEmpty ▸ run_append hRun hFeed
  rw [List.map_append, List.sum_append, List.map_singleton, List.sum_singleton] at hLength
  -- a line break that ends no record comes after a carriage return that has ended one
  have hReturn (h : record? = none) : 1 ≤ returns last ∧ last.getLast? = some '\r' := by
    obtain ⟨hQuotes, hEnd⟩ := hLast (hNone h)
    refine ⟨?_, hEnd⟩
    rw [returns, if_neg (by simp [hQuotes])]
    exact List.count_pos_iff.mpr (List.mem_of_getLast? hEnd)
  refine ⟨_, hLine, ?_, ?_⟩
  · intro hNil
    obtain ⟨hRecords, hOption⟩ := List.append_eq_nil_iff.mp hNil
    have hPositive := (hReturn (Option.toList_eq_nil_iff.mp hOption)).1
    rw [hRecords, List.length_nil] at hLength
    omega
  · intro hOne
    rw [List.length_append, hLength] at hOne
    have hCounts : (init.map returns).sum = 0 ∧
        (returns last = 0 ∨ returns last = 1 ∧ last.getLast? = some '\r') := by
      cases hRecord : record? with
      | some record =>
        rw [hRecord, Option.toList_some, List.length_singleton] at hOne
        omega
      | none =>
        obtain ⟨hPositive, hEnd⟩ := hReturn hRecord
        rw [hRecord, Option.toList_none, List.length_nil] at hOne
        exact ⟨by omega, Or.inr ⟨by omega, hEnd⟩⟩
    rw [List.dropLast_concat, List.getLast?_concat]
    refine ⟨fun f hf => spares_of_returns_eq_zero ?_, ?_⟩
    · exact List.sum_eq_zero_iff_forall_eq_nat.mp hCounts.1 _ (List.mem_map_of_mem hf)
    · rintro f ⟨⟩
      exact not_mem_dropLast_of_returns hCounts.2

theorem joinFields_concat_append (init : Record) (f g : List Char) :
    joinFields (init ++ [f ++ g]) = joinFields (init ++ [f]) ++ g := by
  induction init with
  | nil => rfl
  | cons x init ih =>
    rw [List.cons_append, List.cons_append, joinFields_cons (by simp), joinFields_cons (by simp),
      ih, List.append_assoc, List.cons_append]

/-- A carriage return at the end of a line is taken for a part of the line break. -/
theorem run_lineChars_return {init : Record} {last : List Char}
    (hQuotes : (last ++ ['\r']).any needsQuotes = false)
    (h : ∀ f ∈ init ++ [last], Breaks.all.Spares f) (hSome : init ++ [last] ≠ [[]]) :
    fresh.run .all (lineChars (init ++ [last ++ ['\r']])) = ([init ++ [last]], fresh) := by
  have hQuotes' : last.any needsQuotes = false := by
    rw [List.any_append, Bool.or_eq_false_iff] at hQuotes
    exact hQuotes.1
  have hLine : lineChars (init ++ [last ++ ['\r']]) =
      joinFields ((init ++ [last]).map field) ++ ['\r', '\n'] := by
    rw [lineChars_eq (by cases init <;> simp), List.map_append, List.map_append, List.map_singleton,
      List.map_singleton, field, field, hQuotes, hQuotes', if_neg Bool.false_ne_true,
      if_neg Bool.false_ne_true, joinFields_concat_append, List.append_assoc]
    rfl
  obtain ⟨c, cs, hBreak, hFirst⟩ := exists_cons_joinFields h (by simp) hSome
  obtain ⟨p, hAfter, hFields⟩ := run_joinFields init last h []
  rw [List.nil_append] at hAfter hFields
  have hEnd : run .all ⟨init, last, p⟩ ['\r', '\n'] = ([init ++ [last]], fresh) := by
    rw [run_cons, hAfter.step_break (by rfl)]
    rfl
  rw [hLine, hFirst, List.cons_append, run_fresh hBreak, ← List.cons_append, ← hFirst]
  exact run_append hFields hEnd

/-- A field that is not quoted, with a line break in it, but no carriage return before its end. -/
theorem exists_eq_concat_return {f : List Char} (hBreak : f.any Breaks.all.has = true)
    (hQuotes : f.any needsQuotes = false) (hInit : '\r' ∉ f.dropLast) :
    ∃ t, f = t ++ ['\r'] ∧ returns t = 0 := by
  have hReturn : '\r' ∈ f := by
    obtain ⟨c, hMem, hc⟩ := List.any_eq_true.mp hBreak
    simp only [Breaks.has, Bool.or_eq_true, beq_iff_eq] at hc
    rcases hc with rfl | rfl
    · rw [List.any_eq_true.mpr ⟨'\n', hMem, rfl⟩] at hQuotes
      cases hQuotes
    · exact hMem
  rcases List.eq_nil_or_concat f with rfl | ⟨t, c, rfl⟩
  · cases hReturn
  rw [List.concat_eq_append] at hReturn hInit ⊢
  rw [List.dropLast_concat] at hInit
  obtain rfl : '\r' = c := by simpa [hInit] using hReturn
  refine ⟨t, rfl, ?_⟩
  unfold returns
  split
  · rfl
  · exact List.count_eq_zero.mpr hInit

/-- **A line is one record of as many fields** exactly if it is not broken. -/
theorem run_lineChars_shape_iff {fields : Record} {records : List Record}
    (h : fresh.run .all (lineChars fields) = (records, fresh)) :
    records.map List.length = [fields.length] ↔ IsUnbroken fields := by
  constructor
  · intro hShape
    have hOne : records.length = 1 := by simpa using congrArg List.length hShape
    obtain ⟨records', hRun, -, hUnbroken⟩ := exists_run_lineChars fields
    obtain rfl : records = records' := congrArg Prod.fst (h.symm.trans hRun)
    obtain ⟨hInit, hLast⟩ := hUnbroken hOne
    refine ⟨hInit, hLast, ?_⟩
    rintro rfl
    obtain rfl : records = [[]] := congrArg Prod.fst h.symm
    cases hShape
  · rintro ⟨hInit, hLast, hReturn⟩
    by_cases hSpares : ∀ f ∈ fields, Breaks.all.Spares f
    · obtain rfl : records = [fields] := congrArg Prod.fst (h.symm.trans (run_lineChars hSpares))
      rfl
    -- what is left are lines that end in a carriage return
    rcases List.eq_nil_or_concat fields with rfl | ⟨init, last, rfl⟩
    · exact absurd (by simp) hSpares
    simp only [List.concat_eq_append, List.dropLast_concat, List.getLast?_concat,
      Option.mem_some_iff, forall_eq', List.forall_mem_append, List.forall_mem_singleton]
      at h hInit hLast hReturn hSpares ⊢
    obtain ⟨hBreak, hQuotes⟩ := Classical.not_imp.mp fun hLast => hSpares ⟨hInit, hLast⟩
    obtain ⟨t, rfl, hReturns⟩ :=
      exists_eq_concat_return hBreak (Bool.eq_false_iff.mpr hQuotes) (hLast.resolve_left hQuotes)
    have hAll : ∀ f ∈ init ++ [t], Breaks.all.Spares f := by
      rw [List.forall_mem_append, List.forall_mem_singleton]
      exact ⟨hInit, spares_of_returns_eq_zero hReturns⟩
    have hSome : init ++ [t] ≠ [[]] := by
      intro hEmpty
      obtain ⟨rfl, rfl⟩ : init = [] ∧ t = [] := by cases init <;> simp_all
      exact hReturn rfl
    obtain rfl : records = [init ++ [t]] := congrArg Prod.fst
      (h.symm.trans (run_lineChars_return (Bool.eq_false_iff.mpr hQuotes) hAll hSome))
    simp

end Reader

/-- If every row is read as something, as many records as rows are one for each row. -/
theorem shape_flatMap_iff {records : Record → List Record} (h : ∀ fields, records fields ≠ [])
    (table : List Record) :
    (table.flatMap records).map List.length = table.map List.length ↔
      ∀ fields ∈ table, (records fields).map List.length = [fields.length] := by
  -- no row is read as nothing, so where the totals agree none is read as two
  have hLength (table : List Record) : table.length ≤ (table.flatMap records).length := by
    induction table with
    | nil => exact Nat.le_refl 0
    | cons fields table ih =>
      have hPositive := List.length_pos_iff.mpr (h fields)
      rw [List.flatMap_cons, List.length_append, List.length_cons]
      omega
  induction table with
  | nil => simp
  | cons fields table ih =>
    rw [List.forall_mem_cons, List.flatMap_cons, List.map_append, List.map_cons]
    constructor
    · intro hShape
      have hTotal := congrArg List.length hShape
      simp only [List.length_append, List.length_map, List.length_cons] at hTotal
      have hRest := hLength table
      have hPositive := List.length_pos_iff.mpr (h fields)
      obtain ⟨record, hRecord⟩ := List.length_eq_one_iff.mp
        (show (records fields).length = 1 by omega)
      rw [hRecord] at hShape ⊢
      obtain ⟨hHead, hTail⟩ := List.cons.inj hShape
      exact ⟨congrArg (· :: []) hHead, ih.mp hTail⟩
    · rintro ⟨hHead, hTail⟩
      rw [hHead, ih.mpr hTail]
      rfl

/-- **A table is read as one record of as many fields for each row** exactly if no row is broken. -/
theorem shape_read_lines_iff (table : List Record) :
    (read .all (table.flatMap lineChars)).map List.length = table.map List.length ↔
      ∀ fields ∈ table, IsUnbroken fields := by
  have hRun (fields : Record) : Reader.fresh.run .all (lineChars fields) =
      ((Reader.fresh.run .all (lineChars fields)).1, .fresh) ∧
      (Reader.fresh.run .all (lineChars fields)).1 ≠ [] := by
    obtain ⟨records, hRun, hSome, -⟩ := Reader.exists_run_lineChars fields
    rw [hRun]
    exact ⟨rfl, hSome⟩
  rw [read_of_run (Reader.run_flatMap _ _ fun fields _ => (hRun fields).1),
    shape_flatMap_iff fun fields => (hRun fields).2]
  exact forall_congr' fun fields => imp_congr_right fun _ =>
    Reader.run_lineChars_shape_iff (hRun fields).1

/-! ## Rows of texts -/

/-- The characters of a line. -/
theorem toList_line (values : List Value) :
    (line values).toList = lineChars (values.map fun v => (cellText v).toList) :=
  String.toList_ofList

/-- The characters of lines, one after the other. -/
theorem toList_join_lines (table : List (List Value)) :
    (String.join (table.map line)).toList =
      (table.map fun record => record.map fun v => (cellText v).toList).flatMap lineChars := by
  rw [String.toList_join, List.flatMap_map, List.flatMap_map]
  exact List.flatMap_congr fun record _ => toList_line record

/-- Records of values are read back as their texts if no field holds a line break outside quotation
marks. -/
theorem readText_join_lines {b : Breaks} (table : List (List Value))
    (h : ∀ record ∈ table, ∀ v ∈ record, b.Spares (cellText v).toList) :
    readText b (String.join (table.map line)) = table.map fun record => record.map cellText := by
  have hRead := read_lines (b := b)
    (table.map fun record => record.map fun v => (cellText v).toList) (by simpa using h)
  rw [readText, toList_join_lines, hRead, List.map_map]
  refine List.map_congr_left fun record _ => ?_
  simp [Function.comp_def]

/-- A cell of a row of texts, some of which are missing. -/
def optionalCell : Option String → Value
  | none => .null
  | some s => .text s

theorem cellText_optionalCell (s? : Option String) : cellText (optionalCell s?) = s?.getD "" := by
  cases s? with
  | none => rfl
  | some s => rfl

/-- **Rows of texts are read back.** The lines of rows whose cells are texts or missing, one after
the other, are read as the same rows in the same order by a reader that ends a record at line feeds
only, where missing cells are read as empty texts. So rows with the same lines are the same, up to
empty texts that may be missing. -/
theorem lines_read_back (rows : List (List (Option String))) :
    readText .feeds (String.join (rows.map fun row => line (row.map optionalCell))) =
      rows.map (fun row => row.map (·.getD "")) ∧
    ∀ rows' : List (List (Option String)),
      String.join (rows.map fun row => line (row.map optionalCell)) =
        String.join (rows'.map fun row => line (row.map optionalCell)) →
      rows.map (fun row => row.map (·.getD "")) = rows'.map (fun row => row.map (·.getD "")) := by
  have hRead (rows : List (List (Option String))) :
      readText .feeds (String.join (rows.map fun row => line (row.map optionalCell))) =
        rows.map (fun row => row.map (·.getD "")) := by
    have hLines := readText_join_lines (b := .feeds) (rows.map fun row => row.map optionalCell)
      fun record _ v _ => Breaks.spares_feeds (cellText v).toList
    simpa [Function.comp_def, cellText_optionalCell] using hLines
  refine ⟨hRead rows, ?_⟩
  intro rows' hSame
  rw [← hRead rows, hSame, hRead rows']

end Winnow.Csv
